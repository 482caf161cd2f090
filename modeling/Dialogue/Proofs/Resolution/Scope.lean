import Dialogue.Proofs.Resolution.Limit

/-!
# The scope of captures

The captures of a match are visible as long as its request lasts.  The journal of a
request tells which categories have matched, first the one for the question itself and
then those for nested questions, and what every star reference has read.

Main results:

- Theorem `Conversation.replay_lastWildcard_eq`: the last wildcard is the last capture of
  the latest match that has captured something.
- Theorem `Request.reads_of_reaches`: every star reference reads the last wildcard of the
  matches before it.
- Theorem `scoped_of_resolve`: what is visible of the matches after a request.
-/

namespace Dialogue

/-! ## Matches in a journal -/

/-- A match of a category, of which a journal tells. -/
structure RecordedMatch where
  depth : Nat
  /-- The position of the category in the knowledge base. -/
  index : Nat
  captures : List String
  deriving DecidableEq, Repr

/-- The matches of which a journal tells, the latest first. -/
def matchesIn : List Happening → List RecordedMatch
  | [] => []
  | .matched depth index captures :: earlier => ⟨depth, index, captures⟩ :: matchesIn earlier
  | _ :: earlier => matchesIn earlier

/-- The last capture of the latest match that has captured something, or the empty text.
The latest match comes first. -/
def latestCapture (found : List RecordedMatch) : String :=
  (found.findSome? (·.captures.getLast?)).getD ""

/-- Journals that follow on each other tell of the matches of both. -/
theorem matchesIn_append (later earlier : List Happening) :
    matchesIn (later ++ earlier) = matchesIn later ++ matchesIn earlier := by
  induction later with
  | nil => rfl
  | cons happening later ih =>
    cases happening with
    | matched depth index captures => simp [matchesIn, ih]
    | _ => exact ih

/-- The matches of what happens at a depth or deeper are there or deeper. -/
theorem depth_le_of_mem_matchesIn {depth : Nat} {happenings : List Happening}
    (hfrom : ∀ happening ∈ happenings, happening.IsFrom depth) :
    ∀ found ∈ matchesIn happenings, depth ≤ found.depth := by
  induction happenings with
  | nil => exact nofun
  | cons happening earlier ih =>
    rw [List.forall_mem_cons] at hfrom
    cases happening with
    | matched other index captures =>
      rw [matchesIn, List.forall_mem_cons]
      exact ⟨hfrom.1, ih hfrom.2⟩
    | _ => exact ih hfrom.2

/-- A match that has captured something decides, and otherwise those before it. -/
theorem latestCapture_cons (found : RecordedMatch) (earlier : List RecordedMatch) :
    latestCapture (found :: earlier) = found.captures.getLast?.getD (latestCapture earlier) := by
  rw [latestCapture, List.findSome?_cons]
  cases found.captures.getLast? with
  | none => rfl
  | some last => rfl

/-! ## Replaying the matches -/

namespace Conversation

/-- The last wildcard is the last capture of the latest match that has captured
something. -/
theorem replay_lastWildcard_eq (c : Conversation) (hforgotten : c.lastWildcard = "")
    (happenings : List Happening) :
    (c.replay happenings).lastWildcard = latestCapture (matchesIn happenings) := by
  induction happenings with
  | nil => exact hforgotten
  | cons happening earlier ih =>
    rw [replay]
    cases happening with
    | matched depth index captures =>
      rw [matchesIn, latestCapture_cons, ← ih]
      cases depth with
      | zero => rw [after, keepCaptures, noteCaptures_eq]
      | succ depth => rw [after, noteCaptures_eq]
    | _ => exact ih

/-- The captures that are kept are those of the latest match for the question itself. -/
theorem replay_captures_eq (c : Conversation) (hforgotten : c.captures = [])
    (happenings : List Happening) :
    (c.replay happenings).captures =
      (((matchesIn happenings).find? (·.depth = 0)).map (·.captures)).getD [] := by
  induction happenings with
  | nil => exact hforgotten
  | cons happening earlier ih =>
    rw [replay]
    cases happening with
    | matched depth index captures =>
      cases depth with
      | zero => rfl
      | succ depth =>
        rw [after, noteCaptures_eq]
        exact ih
    | _ => exact ih

end Conversation

/-! ## What star references read -/

variable {kb : KnowledgeBase} {profile : Bindings} {r r' : Request}

/-- A step that reads the last wildcard reads it as it is. -/
theorem Request.Step.reads (hstep : Step kb profile r r') :
    r'.journal = r.journal ∨ ∃ happening, r'.journal = happening :: r.journal ∧
      ∀ value, happening = .readWildcard value → value = r.conversation.lastWildcard := by
  cases hstep with
  | countRedirect => exact .inl rfl
  | tryCategories depth question hlimit => exact .inl rfl
  | readWildcard =>
    refine .inr ⟨_, rfl, ?_⟩
    intro value heq
    cases heq
    rfl
  | takeCapture depth value => exact .inr ⟨_, rfl, nofun⟩
  | write name value => exact .inr ⟨_, rfl, nofun⟩
  | exceedLimit hlimit => exact .inr ⟨_, rfl, nofun⟩
  | begin depth question winner hlimit hwinner => exact .inr ⟨_, rfl, nofun⟩
  | finish depth => exact .inr ⟨_, rfl, nofun⟩

/-- Every star reference reads the last wildcard of the matches before it. -/
theorem Request.reads_of_reaches {start : Conversation} (hforgotten : start.lastWildcard = "")
    (hreach : Reaches kb profile { conversation := start } r) {later earlier : List Happening}
    {value : String} (hjournal : r.journal = later ++ .readWildcard value :: earlier) :
    value = latestCapture (matchesIn earlier) := by
  induction hreach generalizing later with
  | refl => simp at hjournal
  | @tail mid last hmid hlast ih =>
    rcases hlast.reads with hsame | ⟨happening, hlast, hread⟩
    · exact ih (hsame ▸ hjournal)
    · rw [hlast] at hjournal
      cases later with
      | nil =>
        rcases List.cons.inj hjournal with ⟨heq, rfl⟩
        rw [hread value heq, (Chronicled.of_reaches hmid).conversation]
        exact start.replay_lastWildcard_eq hforgotten mid.journal
      | cons _ later => exact ih (List.cons.inj hjournal).2

/-! ## The match for the question itself -/

/-- The matches of a scan at depth zero are one at this depth and then deeper ones, or
none. -/
theorem matches_of_scan {levels : Nat} {question : String} {start : Conversation}
    {out : Option Hit × Request}
    (hout : out ∈
      ((scan kb profile (levels + 1) 0 question).run { conversation := start }).outcomes) :
    matchesIn out.2.journal = [] ∨
      ∃ later first, matchesIn out.2.journal = later ++ [first] ∧ first.depth = 0 ∧
        ∀ found ∈ later, 0 < found.depth := by
  rcases scan_cases rfl hout with ⟨-, rfl⟩ | ⟨winner, text, -, -, hreach⟩
  · exact .inl rfl
  · rcases hreach.exists_journal with ⟨later, hjournal, hlater⟩
    refine .inr ⟨matchesIn later, ⟨0, winner.index, winner.captures⟩, ?_, rfl, ?_⟩
    · rw [hjournal, matchesIn_append]
      rfl
    · exact depth_le_of_mem_matchesIn hlater

/-! ## Whole requests -/

/-- A request that shows of the captures what its matches tell. -/
structure Request.Scoped (r : Request) : Prop where
  /-- The first match is the one for the question itself, -/
  first : ∀ found ∈ (matchesIn r.journal).getLast?, found.depth = 0
  /-- and the later ones are for nested questions. -/
  later : ∀ found ∈ (matchesIn r.journal).dropLast, 0 < found.depth
  captures : r.conversation.captures =
    ((matchesIn r.journal).getLast?.map (·.captures)).getD []
  lastWildcard : r.conversation.lastWildcard = latestCapture (matchesIn r.journal)
  /-- Whatever is read is the last wildcard of the matches before it. -/
  reads : ∀ later value earlier, r.journal = later ++ .readWildcard value :: earlier →
    value = latestCapture (matchesIn earlier)

/-- Once its question has been scanned for, a request shows of the captures what its
matches tell. -/
theorem scoped_of_scan {levels : Nat} {question : String} {start : Conversation}
    (hcaptures : start.captures = []) (hlast : start.lastWildcard = "")
    {out : Option Hit × Request}
    (hout : out ∈
      ((scan kb profile (levels + 1) 0 question).run { conversation := start }).outcomes) :
    out.2.Scoped := by
  have hreach := (steps_scan (levels + 1) 0 question _ _ hout).reaches
  have hconversation := (Request.Chronicled.of_reaches hreach).conversation
  have hkept := start.replay_captures_eq hcaptures out.2.journal
  have hlastWildcard := start.replay_lastWildcard_eq hlast out.2.journal
  rw [← hconversation] at hkept hlastWildcard
  have hreads : ∀ later value earlier, out.2.journal = later ++ .readWildcard value :: earlier →
      value = latestCapture (matchesIn earlier) :=
    fun _ _ _ => Request.reads_of_reaches hlast hreach
  rcases matches_of_scan hout with hnone | ⟨later, first, hmatches, hfirst, hlater⟩
  · rw [hnone] at hkept
    refine ⟨?_, ?_, ?_, hlastWildcard, hreads⟩
    · simp [hnone]
    · simp [hnone]
    · rw [hkept, hnone]
      rfl
  · have hdeeper : later.find? (·.depth = 0) = none := by
      rw [List.find?_eq_none]
      intro found hmem
      have := hlater found hmem
      simp only [decide_eq_true_eq]
      omega
    refine ⟨?_, ?_, ?_, hlastWildcard, hreads⟩
    · simpa [hmatches] using hfirst
    · simpa [hmatches] using hlater
    · rw [hkept, hmatches, List.find?_append, hdeeper]
      simp [hfirst]

/-- Remembering the answer leaves the captures alone. -/
theorem Request.Scoped.conclude (h : r.Scoped) (hit : Option Hit) :
    (r.conclude hit).request.Scoped := by
  have hremember : ∀ answer : Option String,
      (r.conversation.remember answer).captures = r.conversation.captures ∧
        (r.conversation.remember answer).lastWildcard = r.conversation.lastWildcard := by
    intro answer
    cases answer with
    | none => exact ⟨rfl, rfl⟩
    | some text => exact ⟨rfl, rfl⟩
  rcases hremember (Resolution.ofHit r.metrics.limitHit hit).answer with ⟨hcaptures, hlast⟩
  exact ⟨h.first, h.later, hcaptures.trans h.captures, hlast.trans h.lastWildcard, h.reads⟩

/-- A star reference stands for the last wildcard, and an answer to it is the answer to
the last wildcard, if there is one. -/
theorem run_star (setting : Setting) (unread : List String) (r : Request) :
    let read := r.conversation.lastWildcard
    let frame : Frame := ⟨unread, r.record (.readWildcard read)⟩
    (evaluateFragment setting .star).run ⟨unread, r⟩ = pure (read, frame) ∧
      (evaluateFragment setting .starAnswer).run ⟨unread, r⟩ =
        if read = "" then pure ("", frame)
        else (Evaluation.onRequest (setting.answer read)).run frame := by
  intro read frame
  have hread : Evaluation.readWildcard.run ⟨unread, r⟩ = pure (read, frame) := rfl
  constructor
  · rw [evaluateFragment, hread]
  · rw [evaluateFragment, StateT.run_bind, hread, pure_bind]
    by_cases hempty : read = ""
    · simp only [hempty, if_true]
      rfl
    · simp only [hempty, if_false]

/-- After a request, whatever it has come to, the captures are those of its first match,
the last wildcard is the last capture of the latest match that has captured something,
and every star reference on the way has read what was the last wildcard by then.  Nothing
of an earlier request is visible. -/
theorem scoped_of_resolve {limit : Nat} {conversation : Conversation} {question : String}
    {resolved : Resolved}
    (hresolved : resolved ∈ (resolve kb profile limit conversation question).outcomes) :
    resolved.request.Scoped ∧
      (∀ other : Conversation, other.vars = conversation.vars →
        other.previousAnswer = conversation.previousAnswer →
        resolve kb profile limit other question = resolve kb profile limit conversation question) ∧
      ∀ moment : Request,
        Request.Reaches kb profile { conversation := conversation.forgetCaptures } moment →
        ∀ (setting : Setting) (unread : List String),
          let read := latestCapture (matchesIn moment.journal)
          let frame : Frame := ⟨unread, moment.record (.readWildcard read)⟩
          (evaluateFragment setting .star).run ⟨unread, moment⟩ = pure (read, frame) ∧
            (evaluateFragment setting .starAnswer).run ⟨unread, moment⟩ =
              if read = "" then pure ("", frame)
              else (Evaluation.onRequest (setting.answer read)).run frame := by
  refine ⟨?_, fun other hvars hprevious => resolve_congr limit hvars hprevious, ?_⟩
  · rw [resolve_eq, Choice.mem_outcomes_bind] at hresolved
    rcases hresolved with ⟨⟨hit, request⟩, hscan, hresolved⟩
    cases Choice.mem_outcomes_pure.1 hresolved
    exact (scoped_of_scan rfl rfl hscan).conclude hit
  · intro moment hmoment setting unread
    have hread : moment.conversation.lastWildcard = latestCapture (matchesIn moment.journal) := by
      rw [(Request.Chronicled.of_reaches hmoment).conversation]
      exact Conversation.replay_lastWildcard_eq _ rfl moment.journal
    rw [← hread]
    exact run_star setting unread moment

/-- A rule that reads its capture before and after a redirection. -/
def namesTwice : Category where
  pattern := ⟨[.text "MY NAME IS *"]⟩
  that := none
  template := [.star, .text " ", .redirect [.text "GREET BIG TOM"], .text " ", .star]

/-- A rule that captures something as the answer to a nested question. -/
def greetsSomebody : Category where
  pattern := ⟨[.text "GREET * TOM"]⟩
  that := none
  template := [.text "hello"]

/-- The nested match changes what the second star reference reads. -/
theorem scoped_of_resolve_namesTwice :
    let resolved := ((resolve ⟨[namesTwice, greetsSomebody], 1⟩ .empty 1
      ⟨.empty, ["old"], "old", ""⟩ "My name is Ann").follow ⟨fun _ => 0, 0⟩).1
    resolved.resolution.answer = some "Ann hello BIG" ∧
      resolved.request.conversation.captures = ["Ann"] ∧
      resolved.request.conversation.lastWildcard = "BIG" ∧
      resolved.request.Scoped := by
  intro resolved
  have hscoped := (scoped_of_resolve (Choice.follow_mem_outcomes
    (resolve ⟨[namesTwice, greetsSomebody], 1⟩ .empty 1 ⟨.empty, ["old"], "old", ""⟩
      "My name is Ann") ⟨fun _ => 0, 0⟩)).1
  exact ⟨by decide +kernel, by decide +kernel, by decide +kernel, hscoped⟩

end Dialogue
