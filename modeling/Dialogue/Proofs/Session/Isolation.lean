import Dialogue.Host.Command
import Dialogue.Proofs.Loading.Events
import Dialogue.Proofs.Resolution.Shelf
import Dialogue.Proofs.Session.Turns

/-!
# Sessions that share a bot

Any number of sessions share a bot, while documents are loaded and the bot is reloaded.
They share its knowledge base, the patterns that are kept beside it, and the load gate.
Whatever the sessions do in whatever order, each of them goes on as if the others did
nothing.

A question is not answered at one blow here: a session looks at the load gate, once or
several times, and resolves the question when it has been let in.  Between these steps
other sessions go on, and documents are loaded.  While a question is resolved, others
may look up patterns at the same time.

Main results:

- Theorem `Party.step_eq`: what a session does does not depend on which patterns are kept
  or looked up meanwhile.
- Theorems `Party.askNow_eq`, `Party.looks_eq`: what a question comes to if nothing
  happens in between, and how it waits.
- Theorem `Sharing.run_alone`: a session goes on as if there were no others.
-/

namespace Dialogue

/-! ## The shared bot -/

/-- A bot whose rules are being loaded, with the shelf of its rules. -/
structure SharedBot where
  loading : Loading
  shelf : Shelf
  categories_eq : shelf.categories = loading.bot.knowledge.categories

namespace SharedBot

/-- The shelf after something has happened to the bot: a reload empties it, and new
rules go behind the old ones. -/
def shelfAfter (b : SharedBot) (event : Loading.Event) : Shelf :=
  if event.isReload then []
  else b.shelf ++ ((b.loading.step event).bot.knowledge.categories.drop b.shelf.length).map .unread

/-- The shelf has the rules of the bot, whatever happens to it. -/
theorem categories_shelfAfter (b : SharedBot) (event : Loading.Event) :
    (b.shelfAfter event).categories = (b.loading.step event).bot.knowledge.categories := by
  unfold shelfAfter
  cases hreload : event.isReload with
  | true =>
    cases event with
    | reload => rfl
    | _ => cases hreload
  | false =>
    obtain ⟨added, hadded⟩ := b.loading.exists_categories_step hreload
    have hlength : b.shelf.length = b.loading.bot.knowledge.categories.length := by
      rw [← b.categories_eq, Shelf.categories, List.length_map]
    rw [if_neg Bool.false_ne_true, hadded, hlength, List.drop_left, Shelf.categories,
      List.map_append, ← b.categories_eq, Shelf.categories, List.map_map]
    simp [Function.comp_def]

/-- The bot after something has happened to it. -/
def step (b : SharedBot) (event : Loading.Event) : SharedBot where
  loading := b.loading.step event
  shelf := b.shelfAfter event
  categories_eq := b.categories_shelfAfter event

/-- The bot after patterns have been looked up on its shelf. -/
def lookUpAll (b : SharedBot) (places : List ShelfPlace) : SharedBot where
  loading := b.loading
  shelf := b.shelf.lookUpAll places
  categories_eq := (b.shelf.categories_lookUpAll places).trans b.categories_eq

end SharedBot

/-- What is looked up on the shelf while a question is resolved, be it for this question
or for those of other sessions. -/
structure LookUps where
  /-- What has been looked up by the time when the scan with a number gets to it. -/
  before : Nat → List ShelfPlace
  /-- What has been looked up when the question is resolved. -/
  after : List ShelfPlace

/-! ## One session -/

/-- What a session is about. -/
inductive Party.Stage where
  /-- No question is under way. -/
  | idle
  /-- A question has been asked, and the load gate has been found closed so often. -/
  | looking (isWaiting : Bool) (question : String) (attempts : Nat)
  /-- The load gate has been found open. -/
  | admitted (question : String)

/-- A session with what has come of it. -/
structure Party where
  session : Session
  stage : Party.Stage := .idle
  /-- The snapshots that have been taken. -/
  snapshots : List Snapshot := []
  /-- The replies to the questions that have been asked. -/
  replies : List Reply := []

/-- Something that a session does. -/
inductive Party.Move where
  /-- A question is asked, to be answered right away or after waiting for rule sources. -/
  | ask (isWaiting : Bool) (question : String)
  /-- The load gate is looked at. -/
  | look
  /-- The question that has been let in is resolved. -/
  | resolve
  /-- The question under way is given up by whoever has asked it. -/
  | cancel
  | set (name value : String)
  | remove (name : String)
  /-- A snapshot is taken. -/
  | snapshot (now : Instant)
  /-- The session goes on from one of its own snapshots. -/
  | restore (number : Nat)

namespace Party

/-- The session after its question has had a reply. -/
def conclude (p : Party) (reply : Reply) (session : Session) : Party :=
  { p with session := session, stage := .idle, replies := p.replies ++ [reply] }

/-- The session with another conversation. -/
def withConversation (p : Party) (conversation : Conversation) : Party :=
  { p with session := p.session.withConversation conversation }

/-- The session after a look at the load gate. -/
def look (p : Party) (bot : Bot) (isWaiting : Bool) (question : String) (attempts : Nat) : Party :=
  if bot.isReady then { p with stage := .admitted question }
  else if !isWaiting then p.conclude (.failed .notReady) p.session
  else if attempts < p.session.options.maxRetries then
    { p with stage := .looking isWaiting question (attempts + 1) }
  else p.conclude (.answer (.unanswered question .loadTimeout)) p.session

/-- The session after its question has been resolved with the shelf of the bot. -/
def resolve (p : Party) (b : SharedBot) (lookUps : LookUps) (question : String) : Party :=
  let found (number : Nat) : Shelf := b.shelf.lookUpAll (lookUps.before number)
  let (answer, session) := p.session.askShelf b.loading.bot found question
  p.conclude (.answer answer) session

/-- The session after a move.  While a question is under way, nothing else happens in
the session. -/
def step (p : Party) (b : SharedBot) (lookUps : LookUps) (move : Move) : Party :=
  match p.stage, move with
  | .idle, .ask isWaiting question => { p with stage := .looking isWaiting question 0 }
  | .idle, .set name value => p.withConversation (p.session.conversation.set name value)
  | .idle, .remove name => p.withConversation (p.session.conversation.remove name)
  | .idle, .snapshot now =>
    { p with snapshots := p.snapshots ++ [.capture now p.session.conversation] }
  | .idle, .restore number =>
    match p.snapshots[number]? with
    | some snapshot => p.withConversation snapshot.restore
    | none => p
  | .looking isWaiting question attempts, .look =>
    p.look b.loading.bot isWaiting question attempts
  | .admitted question, .resolve => p.resolve b lookUps question
  | _, .cancel => { p with stage := .idle }
  | _, _ => p

/-- What has been looked up on the shelf after a move. -/
def lookUpsAfter (p : Party) (lookUps : LookUps) (move : Move) : List ShelfPlace :=
  match p.stage, move with
  | .admitted _, .resolve => lookUps.after
  | _, _ => []

/-- A question is resolved as it is without a shelf. -/
theorem resolve_eq (p : Party) (b : SharedBot) (lookUps : LookUps) (question : String) :
    p.resolve b lookUps question =
      p.conclude (.answer (p.session.ask b.loading.bot question).1)
        (p.session.ask b.loading.bot question).2 := by
  have hfound (number : Nat) : (b.shelf.lookUpAll (lookUps.before number)).categories =
      b.loading.bot.knowledge.categories :=
    (b.shelf.categories_lookUpAll _).trans b.categories_eq
  rw [resolve, Session.askShelf_eq _ _ hfound]

/-- A move comes to the same with the same attributes, rules and gate, whatever patterns
are kept, and whatever is looked up meanwhile. -/
theorem step_eq (p : Party) {b b' : SharedBot} (hbot : b.loading.bot = b'.loading.bot)
    (lookUps lookUps' : LookUps) (move : Move) :
    p.step b lookUps move = p.step b' lookUps' move := by
  obtain ⟨session, stage, snapshots, replies⟩ := p
  cases stage with
  | idle => cases move <;> rfl
  | looking isWaiting question attempts =>
    cases move with
    | look => simp only [step, hbot]
    | _ => rfl
  | admitted question =>
    cases move with
    | resolve => simp only [step, resolve_eq, hbot]
    | _ => rfl

/-! ### How a question is asked -/

section Asking

variable {p : Party} {b : SharedBot} {lookUps : LookUps} {bot : Bot} {isWaiting : Bool}
  {question : String} {attempts : Nat}

/-- A question that is asked is not let in yet. -/
theorem step_ask (hidle : p.stage = .idle) :
    p.step b lookUps (.ask isWaiting question) =
      { p with stage := .looking isWaiting question 0 } := by
  simp only [step, hidle]

/-- With a question under way, the load gate is looked at. -/
theorem step_look (hlooking : p.stage = .looking isWaiting question attempts) :
    p.step b lookUps .look = p.look b.loading.bot isWaiting question attempts := by
  simp only [step, hlooking]

/-- A question that has been let in is resolved. -/
theorem step_resolve (hadmitted : p.stage = .admitted question) :
    p.step b lookUps .resolve = p.resolve b lookUps question := by
  simp only [step, hadmitted]

/-- An open gate lets a question in. -/
theorem look_of_isReady (hready : bot.isReady = true) :
    p.look bot isWaiting question attempts = { p with stage := .admitted question } := by
  rw [look, if_pos hready]

/-- A question that does not wait is refused at a closed gate. -/
theorem look_of_not_waiting (hready : bot.isReady = false) :
    p.look bot false question attempts = p.conclude (.failed .notReady) p.session := by
  simp [look, hready]

/-- A question that waits is kept for another look, if there is one left. -/
theorem look_of_lt (hready : bot.isReady = false)
    (hlt : attempts < p.session.options.maxRetries) :
    p.look bot true question attempts =
      { p with stage := .looking true question (attempts + 1) } := by
  simp [look, hready, hlt]

/-- A question that waits is given up after the last look. -/
theorem look_of_not_lt (hready : bot.isReady = false)
    (hlast : ¬ attempts < p.session.options.maxRetries) :
    p.look bot true question attempts =
      p.conclude (.answer (.unanswered question .loadTimeout)) p.session := by
  simp [look, hready, hlast]

/-- If nothing happens in between, a question is answered right away as `askNow` does. -/
theorem askNow_eq (hidle : p.stage = .idle) (b : SharedBot) (lookUps : LookUps)
    (question : String) :
    let asked := p.step b lookUps (.ask false question)
    let looked := asked.step b lookUps .look
    looked.step b lookUps .resolve =
      match p.session.askNow b.loading.bot question with
      | some (answer, session) => p.conclude (.answer answer) session
      | none => p.conclude (.failed .notReady) p.session := by
  intro asked looked
  have hlooked : looked = asked.look b.loading.bot false question 0 := by
    simp only [looked, asked, step_ask hidle]
    exact step_look rfl
  cases hready : b.loading.bot.isReady with
  | true =>
    rw [hlooked, look_of_isReady hready, step_resolve rfl, resolve_eq, Session.askNow,
      if_pos hready]
    simp only [asked, step_ask hidle]
    rfl
  | false =>
    rw [hlooked, look_of_not_waiting hready, Session.askNow_notReady hready]
    simp only [asked, step_ask hidle]
    rfl

/-- The session after so many looks at the load gate; `bots` says how the bot is found at
each look. -/
def looks (p : Party) (bots : Nat → SharedBot) : (count : Nat) → Party
  | 0 => p
  | count + 1 => (p.step (bots 0) ⟨fun _ => [], []⟩ .look).looks (fun i => bots (i + 1)) count

/-- A session that does not look for an open gate stays as it is. -/
theorem looks_of_step_eq (hstep : ∀ b lookUps, p.step b lookUps .look = p)
    (bots : Nat → SharedBot) (count : Nat) : p.looks bots count = p := by
  induction count generalizing bots with
  | zero => rfl
  | succ count ih => rw [looks, hstep, ih]

/-- A question that waits for rule sources is let in at the first look that finds the
gate open, and given up if there is none among those that the options allow. -/
theorem looks_eq (retries : Nat) (hstage : p.stage = .looking true question attempts)
    (hretries : attempts + retries = p.session.options.maxRetries) (bots : Nat → SharedBot) :
    p.looks bots (retries + 1) =
      match Session.firstReady (fun i => (bots i).loading.bot) retries with
      | some _ => { p with stage := .admitted question }
      | none => p.conclude (.answer (.unanswered question .loadTimeout)) p.session := by
  induction retries generalizing p attempts bots with
  | zero =>
    rw [looks, looks, step_look hstage, Session.firstReady]
    cases hready : (bots 0).loading.bot.isReady with
    | true => exact look_of_isReady hready
    | false => exact look_of_not_lt hready (by omega)
  | succ retries ih =>
    rw [looks, step_look hstage, Session.firstReady]
    cases hready : (bots 0).loading.bot.isReady with
    | true =>
      rw [look_of_isReady hready, if_pos rfl]
      exact looks_of_step_eq (fun _ _ => rfl) _ _
    | false =>
      rw [look_of_lt hready (by omega), if_neg Bool.false_ne_true]
      exact ih rfl (by simp only; omega) _

end Asking

end Party

/-! ## All sessions -/

/-- A bot with the sessions that share it. -/
structure Sharing where
  bot : SharedBot
  parties : List Party

namespace Sharing

/-- Something that happens to a bot or in one of its sessions. -/
inductive Step where
  | bot (event : Loading.Event)
  | session (index : Nat) (move : Party.Move)

/-- Whether a session has to do with a step: it is one of its own, or it happens to the
bot. -/
def Step.concerns (index : Nat) : Step → Bool
  | bot _ => true
  | session other _ => other == index

/-- The bot and its sessions after a step. -/
def step (s : Sharing) (lookUps : LookUps) : Step → Sharing
  | .bot event => { s with bot := s.bot.step event }
  | .session index move =>
    match s.parties[index]? with
    | some party =>
      { bot := s.bot.lookUpAll (party.lookUpsAfter lookUps move)
        parties := s.parties.set index (party.step s.bot lookUps move) }
    | none => s

/-- The bot and its sessions after the steps of a script; `lookUps` says what is looked up
during each of them. -/
def run (s : Sharing) (lookUps : Nat → LookUps) : List Step → Sharing
  | [] => s
  | step :: script => (s.step (lookUps 0) step).run (fun number => lookUps (number + 1)) script

/-- For a session it is the same: it stands where it stands, and the bot has been loaded
in the same way.  What is kept of the patterns and what the other sessions do may
differ. -/
structure Agrees (index : Nat) (s t : Sharing) : Prop where
  loading : s.bot.loading = t.bot.loading
  party : s.parties[index]? = t.parties[index]?

variable {s t : Sharing} {index : Nat}

/-- What another session does makes no difference to a session. -/
theorem agrees_step_of_not_concerns {step : Step} (hother : step.concerns index = false)
    (s : Sharing) (lookUps : LookUps) : (s.step lookUps step).Agrees index s := by
  cases step with
  | bot event => cases hother
  | session other move =>
    have hne : other ≠ index := by simpa [Step.concerns] using hother
    cases hparty : s.parties[other]? with
    | none =>
      simp only [Sharing.step, hparty]
      exact ⟨rfl, rfl⟩
    | some party =>
      simp only [Sharing.step, hparty]
      exact ⟨rfl, List.getElem?_set_ne hne⟩

/-- A step that concerns a session makes the same difference to it. -/
theorem Agrees.step (h : s.Agrees index t) {step : Step} (hconcerns : step.concerns index = true)
    (lookUps lookUps' : LookUps) : (s.step lookUps step).Agrees index (t.step lookUps' step) := by
  cases step with
  | bot event => exact ⟨congrArg (·.step event) h.loading, h.party⟩
  | session other move =>
    obtain rfl : other = index := by simpa [Step.concerns] using hconcerns
    cases hparty : s.parties[other]? with
    | none =>
      have hparty' : t.parties[other]? = none := h.party ▸ hparty
      simp only [Sharing.step, hparty, hparty']
      exact h
    | some party =>
      have hparty' : t.parties[other]? = some party := h.party ▸ hparty
      have hlt := (List.getElem?_eq_some_iff.1 hparty).1
      have hlt' := (List.getElem?_eq_some_iff.1 hparty').1
      simp only [Sharing.step, hparty, hparty']
      refine ⟨h.loading, ?_⟩
      rw [List.getElem?_set_self hlt, List.getElem?_set_self hlt',
        party.step_eq (congrArg Loading.bot h.loading) lookUps lookUps' move]

/-- A script makes the same difference to a session as those of its steps that concern
it. -/
theorem Agrees.run (h : s.Agrees index t) (script : List Step) (lookUps lookUps' : Nat → LookUps) :
    (s.run lookUps script).Agrees index
      (t.run lookUps' (script.filter (Step.concerns index))) := by
  induction script generalizing s t lookUps lookUps' with
  | nil => exact h
  | cons step script ih =>
    cases hconcerns : step.concerns index with
    | true =>
      rw [List.filter_cons_of_pos hconcerns]
      exact ih (h.step hconcerns _ _) _ _
    | false =>
      rw [List.filter_cons_of_neg (by simpa using hconcerns)]
      have hother := agrees_step_of_not_concerns hconcerns s (lookUps 0)
      exact ih ⟨hother.loading.trans h.loading, hother.party.trans h.party⟩ _ _

/-- Whatever the sessions of a bot do in whatever order, and whenever documents are loaded
and the bot is reloaded: a session has the same replies, the same snapshots and the same
state, its draws included, as if only its own steps and those of the bot were taken.  The
patterns that are kept, and those that are looked up meanwhile, make no difference: a
question is resolved as it is without any. -/
theorem run_alone (s : Sharing) (script : List Step) (lookUps lookUps' : Nat → LookUps)
    (index : Nat) :
    let together := s.run lookUps script
    let alone := s.run lookUps' (script.filter (Step.concerns index))
    together.parties[index]? = alone.parties[index]? ∧
      together.bot.loading = alone.bot.loading ∧
      ∀ (p : Party) (lookUps : LookUps) (question : String),
        p.resolve together.bot lookUps question =
          p.conclude (.answer (p.session.ask alone.bot.loading.bot question).1)
            (p.session.ask alone.bot.loading.bot question).2 := by
  intro together alone
  have hsame : s.Agrees index s := ⟨rfl, rfl⟩
  have hrun : together.Agrees index alone := hsame.run script lookUps lookUps'
  refine ⟨hrun.party, hrun.loading, fun p lookUps question => ?_⟩
  rw [p.resolve_eq, hrun.loading]

/-- A rule that keeps a name, and one that tells it. -/
def nameRules : List Category :=
  [⟨⟨[.text "I AM *"]⟩, none, [.set "name" [.star]], 0⟩,
    ⟨⟨[.text "WHO AM I"]⟩, none, [.get "name"], 0⟩]

/-- Two new sessions with a bot of these rules, none of whose patterns has been needed. -/
def namesShared : Sharing where
  bot := ⟨⟨⟨.empty, ⟨nameRules, 1⟩, {}⟩, [], 0, []⟩, nameRules.map .unread, rfl⟩
  parties := [⟨.fresh {} ⟨fun _ => 0, 0⟩, .idle, [], []⟩,
    ⟨.fresh {} ⟨fun _ => 0, 0⟩, .idle, [], []⟩]

-- The second question of the first session is let in before the second session tells its
-- name, and resolved afterwards.
example :
    let asks (index : Nat) (question : String) : List Step :=
      [.session index (.ask false question), .session index .look]
    let script := asks 0 "I am Ben" ++ [.session 0 .resolve] ++ asks 0 "Who am I?" ++
      asks 1 "I am Tim" ++ [.session 1 .resolve, .session 0 .resolve]
    let lookUps : LookUps := ⟨fun _ => [⟨0, .pattern⟩], [⟨0, .pattern⟩, ⟨1, .pattern⟩]⟩
    (namesShared.run (fun _ => lookUps) script).parties.map
      (·.session.conversation.previousAnswer) = ["Ben", "Tim"] := by
  decide +kernel

end Sharing

end Dialogue
