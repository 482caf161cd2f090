import Dialogue.Proofs.CommandLine.Processes
import Dialogue.Proofs.CommandLine.Scheduling
import Dialogue.Proofs.Session.Answering

/-!
# What a run leaves behind

Wherever a run fails, it leaves its folder alone: no step but the last one touches a file, and in
the last step nothing can fail once the session has been saved.  By then the load is known to have
succeeded.  So every rule source has been parsed, and since an open load gate then means that all
rules are there, the questions that were not given up have been answered by all rules, one after
the other, in one session.  That session is saved.

Main results:

- Theorem `close_cases`: a console that fails in the end has touched no file.
- Theorem `Opening.Sound.step`: what a step keeps.
- Theorem `Opening.sound_run`: what holds after any steps of the loader and the console.
- Theorem `saved_of_ends`: what a run leaves, however it ends.
-/

namespace Dialogue

/-! ## Questions that are answered -/

/-- Whether a question has been resolved, and not been given up. -/
def Answer.isResolved (answer : Answer) : Bool := answer.outcome ≠ .loadTimeout

namespace Session

/-- A question that is answered is resolved. -/
theorem isResolved_ask (s : Session) (bot : Bot) (question : String) :
    (s.ask bot question).1.isResolved = true := by
  have hgiven := (s.consistent_of_found bot question).2.loadTimeout
  rw [Answer.isResolved, decide_eq_true_iff, Ne, hgiven]
  exact Option.some_ne_none bot

/-- One more question. -/
theorem askEach_concat (s : Session) (bot : Bot) (questions : List String) (question : String) :
    s.askEach bot (questions ++ [question]) =
      ((s.askEach bot questions).1 ++ [((s.askEach bot questions).2.ask bot question).1],
        ((s.askEach bot questions).2.ask bot question).2) := by
  induction questions generalizing s with
  | nil => rfl
  | cons first questions ih =>
    rw [List.cons_append, askEach_cons, askEach_cons, ih, List.cons_append]

end Session

namespace CommandLine

variable {invocation : Invocation} {fault : Option FileFault}

/-- The answers to the questions that were not given up. -/
def resolvedAnswers (answers : List Answer) : List Answer := answers.filter Answer.isResolved

/-! ## What is left behind -/

namespace Opening

/-- A session in which answers have been given: those that are resolved are the answers of all
rules to the same questions in turn. -/
def Tells (o : Opening invocation) (answers : List Answer) (s : Session) : Prop :=
  o.session.askEach o.loaded.2 ((resolvedAnswers answers).map (·.input)) =
    (resolvedAnswers answers, s)

/-- What a run has done that succeeds, and what it leaves in its folder. -/
structure Succeeded (o : Opening invocation) (fault : Option FileFault) (answers : List Answer)
    (folder : Folder) : Prop where
  /-- Every rule source has been read and parsed. -/
  parsed : ∀ source ∈ o.settings.sources,
    ∃ categories, categoriesOfFile invocation.folder.files source = .ok categories
  /-- All questions have been read and answered, or given up. -/
  unbroken : fault = none
  questions : answers.map (·.input) = o.questions
  /-- The session file holds the session after the last question that is answered. -/
  kept : ∃ last, o.Tells answers last ∧ ∀ name ∈ o.settings.session,
    keptSession folder.files name = .ok (last.conversation.previousAnswer, last.conversation.vars)
  unkept : o.settings.session = none → folder = invocation.folder

end Opening

/-- A run saves its session exactly if it succeeds. -/
structure Saved (invocation : Invocation) (fault : Option FileFault) (answers : List Answer)
    (finished : Finished) : Prop where
  failed : finished.exitCode ≠ 0 → finished.folder = invocation.folder
  succeeded : finished.exitCode = 0 →
    ∃ o : Opening invocation, o.Succeeded fault answers finished.folder

/-- A run that fails while its folder is as it was saves nothing. -/
theorem Saved.of_error {world : World} (hfolder : world.folder = invocation.folder)
    (answers : List Answer) (failure : RunFailure) :
    Saved invocation fault answers (.ofResult (.error failure world)) where
  failed _ := hfolder
  succeeded hzero := absurd hzero failure.exitCode_ne_zero

/-! ## The end of a console -/

/-- Either a console fails in the end and has touched no file, or it has saved its session if there
is a file for it. -/
theorem close_cases (console : Console) (now : Instant) (world : World) :
    (∃ failure last, (console.close now).run world = .error failure last ∧
      last.folder = world.folder) ∨
    ∃ last, (console.close now).run world = .ok () last ∧
      (console.settings.session = none → last.folder = world.folder) ∧
      ∀ name ∈ console.settings.session, ∃ location, world.folder.accept? name = some location ∧
        world.folder.putAt location
          (.text (Snapshot.capture now console.session.conversation).write) = last.folder := by
  by_cases hfailed : ∃ cause, (console.host world.folder).join.1 = some (.error cause)
  · obtain ⟨cause, hjoin⟩ := hfailed
    exact .inl ⟨_, world, Console.run_close_of_failed hjoin now, rfl⟩
  · rw [Console.run_close (not_exists.1 hfailed), Console.save]
    cases hfile : console.settings.session with
    | none => exact .inr ⟨_, rfl, fun _ => rfl, fun _ hmem => absurd hmem (Option.not_mem_none _)⟩
    | some name =>
      dsimp only
      rw [Routine.run_save]
      split
      · rename_i folder hsave
        refine .inr ⟨_, rfl, fun hnone => absurd hnone (Option.some_ne_none name), ?_⟩
        intro _ hname
        cases hname
        exact (Folder.save_eq_ok_iff _ _ _ _).1 hsave
      · exact .inl ⟨_, _, rfl, rfl⟩

namespace Opening

variable {o : Opening invocation} {answers : List Answer} {s : Session} {p : Progress}

/-! ## Sessions in which answers have been given -/

/-- At the beginning no answers have been given. -/
theorem tells_nil : o.Tells [] o.session := rfl

/-- A question that is given up leaves the session alone. -/
theorem Tells.giveUp (h : o.Tells answers s) (question : String) :
    o.Tells (answers ++ [.unanswered question .loadTimeout]) s := by
  have hsame : resolvedAnswers (answers ++ [.unanswered question .loadTimeout]) =
      resolvedAnswers answers := by
    rw [resolvedAnswers, List.filter_append]
    exact List.append_nil _
  rw [Tells, hsame]
  exact h

/-- The session goes on with one more answer of all rules. -/
theorem Tells.ask (h : o.Tells answers s) (question : String) :
    o.Tells (answers ++ [(s.ask o.loaded.2 question).1]) (s.ask o.loaded.2 question).2 := by
  have hmore : resolvedAnswers (answers ++ [(s.ask o.loaded.2 question).1]) =
      resolvedAnswers answers ++ [(s.ask o.loaded.2 question).1] := by
    rw [resolvedAnswers, List.filter_append, List.filter_cons_of_pos (s.isResolved_ask _ _)]
    rfl
  have hinput := (s.consistent_of_found o.loaded.2 question).1
  rw [Tells, hmore, List.map_append, List.map_singleton, hinput, Session.askEach_concat, h]

end Opening

/-! ## What steps keep -/

/-- The answer that is about to be written, if there is one. -/
def Progress.Stage.given : Progress.Stage → List Answer
  | checking answer => [answer]
  | _ => []

/-- The question that is about to be answered, if there is one. -/
def Progress.Stage.question : Progress.Stage → List String
  | waiting question _ => [question]
  | admitted question => [question]
  | _ => []

/-- The answers that have been given. -/
def Progress.given (p : Progress) : List Answer := p.answers ++ p.stage.given

namespace Opening

/-- What holds while a run is not over. -/
structure Live (o : Opening invocation) (fault : Option FileFault) (p : Progress) : Prop where
  /-- No file has been touched. -/
  folder : p.world.folder = invocation.folder
  coherent : p.loader.Coherent p.bot
  finish : Loader.finish invocation.folder.files (p.loader, p.bot) = o.loaded
  /-- No question is lost. -/
  questions : p.given.map (·.input) ++ p.stage.question ++ p.unread = o.questions
  admitted : ∀ question, p.stage = .admitted question → p.bot.isReady = true
  joining : p.stage = .joining → fault = none ∧ p.unread = []
  /-- If the load is going to succeed, then all rules have given the answers. -/
  tells : ∀ count, o.loaded.1 = .ok count → o.Tells p.given p.session

/-- What always holds. -/
def Sound (o : Opening invocation) (fault : Option FileFault) (p : Progress) : Prop :=
  match p.stage with
  | .finished finished => Saved invocation fault p.answers finished
  | _ => o.Live fault p

variable {o : Opening invocation} {p : Progress}

/-- At the beginning nothing is answered, and everything is left to load. -/
theorem live_start : o.Live fault o.start where
  folder := o.folder_world
  coherent := Loader.coherent_ofBatch rfl _
  finish := rfl
  questions := rfl
  admitted := nofun
  joining := nofun
  tells _ _ := tells_nil

namespace Live

/-- The loader goes on without the console. -/
theorem stepLoader (h : o.Live fault p) : o.Live fault p.stepLoader where
  folder := h.folder
  coherent := h.coherent.step
  finish := by
    rw [← h.finish, ← h.folder]
    exact Loader.finish_step (p.loader, p.bot)
  questions := h.questions
  admitted question hstage := h.coherent.isReady_step (h.admitted question hstage)
  joining := h.joining
  tells := h.tells

/-- A load that is over has come to what it was going to come to. -/
theorem loaded_of_ended (h : o.Live fault p) {result : Except LoadFailure Nat}
    (hended : p.loader.stage = .ended result) : o.loaded = (result, p.bot) := by
  rw [← h.finish]
  obtain ⟨bot, ⟨generation, stage⟩, session, stage', unread, answers, world⟩ := p
  cases hended
  rfl

/-- The console learns the result of a load that is over. -/
theorem join_console {result : Except LoadFailure Nat} (hended : p.loader.stage = .ended result) :
    ((o.console p).host p.world.folder).join.1 = some result := by
  simp only [Host.join, Host.settle, Console.host, console, Loader.background, hended]

/-- A question for which the gate is open is answered by all rules, if the load succeeds. -/
theorem bot_of_admitted (h : o.Live fault p) {question : String}
    (hstage : p.stage = .admitted question) {count : Nat} (hsuccess : o.loaded.1 = .ok count) :
    p.bot = o.loaded.2 := by
  rw [← h.finish] at hsuccess ⊢
  exact h.coherent.eq_finish_of_isReady (h.admitted question hstage) hsuccess

/-- The console goes on with the same questions and the same answers. -/
theorem goOn (h : o.Live fault p) {before stage : Progress.Stage} {unread : List String}
    (hstage : p.stage = before) (hgiven : stage.given = before.given)
    (hquestion : stage.question ++ unread = before.question ++ p.unread)
    (hadmitted : ∀ question, stage = .admitted question → p.bot.isReady = true)
    (hjoining : stage = .joining → fault = none ∧ unread = []) :
    o.Live fault { p with stage := stage, unread := unread } where
  folder := h.folder
  coherent := h.coherent
  finish := h.finish
  questions := by
    rw [← h.questions, Progress.given, Progress.given, hstage, hgiven, List.append_assoc, hquestion,
      List.append_assoc]
  admitted := hadmitted
  joining := hjoining
  tells := by
    rw [Progress.given, hgiven, ← hstage]
    exact h.tells

/-- The console has an answer to the question. -/
theorem answer (h : o.Live fault p) {before : Progress.Stage} {question : String} {answer : Answer}
    {session : Session} (hstage : p.stage = before) (hgiven : before.given = [])
    (hquestion : before.question = [question]) (hinput : answer.input = question)
    (htells : ∀ count, o.loaded.1 = .ok count → o.Tells p.answers p.session →
      o.Tells (p.answers ++ [answer]) session) :
    o.Live fault { p with session := session, stage := .checking answer } where
  folder := h.folder
  coherent := h.coherent
  finish := h.finish
  questions := by
    rw [← h.questions, Progress.given, Progress.given, hstage, hgiven, hquestion, ← hinput]
    simp [Progress.Stage.given, Progress.Stage.question]
  admitted := nofun
  joining := nofun
  tells count hsuccess := by
    have hbefore := h.tells count hsuccess
    rw [Progress.given, hstage, hgiven, List.append_nil] at hbefore
    exact htells count hsuccess hbefore

/-- The console has written an answer. -/
theorem write (h : o.Live fault p) {answer : Answer} (hstage : p.stage = .checking answer)
    (output : Output) :
    o.Live fault { p with
      stage := .reading
      answers := p.answers ++ [answer]
      world := p.world.write output } where
  folder := h.folder
  coherent := h.coherent
  finish := h.finish
  questions := by
    rw [← h.questions, Progress.given, Progress.given, hstage]
    simp [Progress.Stage.given, Progress.Stage.question]
  admitted := nofun
  joining := nofun
  tells count hsuccess := by
    have hbefore := h.tells count hsuccess
    rw [Progress.given, hstage] at hbefore
    rw [Progress.given]
    simpa [Progress.Stage.given] using hbefore

/-- What a console leaves that ends without a failure. -/
theorem succeeded_of_close (h : o.Live fault p) (hstage : p.stage = .joining)
    {result : Except LoadFailure Nat} (hended : p.loader.stage = .ended result) {last : World}
    (hclose : ((o.console p).close invocation.now).run p.world = .ok () last) :
    o.Succeeded fault p.answers last.folder := by
  have hgiven : p.given = p.answers := by
    rw [Progress.given, hstage]
    exact List.append_nil p.answers
  obtain ⟨hfault, hunread⟩ := h.joining hstage
  have hquestions := h.questions
  have htells := h.tells
  rw [hgiven, hstage, hunread] at hquestions
  rw [hgiven, h.loaded_of_ended hended] at htells
  cases result with
  | error failure =>
    rw [Console.run_close_of_failed (join_console hended)] at hclose
    cases hclose
  | ok count =>
    have hsuccess : o.loaded.1 = .ok count := congrArg Prod.fst (h.loaded_of_ended hended)
    rcases close_cases (o.console p) invocation.now p.world with
      ⟨failure, left, hfailed, -⟩ | ⟨left, hleft, hunkept, hkept⟩
    · rw [hfailed] at hclose
      cases hclose
    · rw [hleft] at hclose
      cases hclose
      rw [h.folder] at hunkept hkept
      refine ⟨Bot.exists_categories_of_loadFiles hsuccess, hfault, ?_,
        ⟨p.session, htells count rfl, fun name hname => ?_⟩, hunkept⟩
      · rw [← hquestions, List.append_nil]
        exact (List.append_nil _).symm
      · obtain ⟨location, haccept, hfolder⟩ := hkept name hname
        rw [← hfolder]
        exact keptSession_putAt haccept invocation.now p.session.conversation

end Live

/-! ## Steps and runs -/

/-- A run that is not over goes on. -/
theorem Sound.live (h : o.Sound fault p) (hstage : ∀ finished, p.stage ≠ .finished finished) :
    o.Live fault p := by
  unfold Sound at h
  split at h
  · rename_i finished hfinished
    exact absurd hfinished (hstage finished)
  · exact h

/-- A step of the console keeps what holds while a run is not over, and if it ends the run, then
it leaves behind what it should. -/
theorem Sound.stepConsole (h : o.Sound fault p) : o.Sound fault (o.stepConsole fault p) := by
  cases hstage : p.stage with
  | reading =>
    have hlive := h.live (by simp [hstage])
    cases hunread : p.unread with
    | nil =>
      cases fault with
      | some cause =>
        rw [stepConsole_of_fault hstage hunread]
        exact Saved.of_error hlive.folder _ _
      | none =>
        rw [stepConsole_of_no_question hstage hunread]
        exact hlive.goOn hstage rfl rfl nofun fun _ => ⟨rfl, hunread⟩
    | cons question unread =>
      rw [stepConsole_of_question hstage hunread]
      refine hlive.goOn hstage rfl ?_ nofun nofun
      rw [hunread]
      rfl
  | waiting question retries =>
    have hlive := h.live (by simp [hstage])
    cases hready : p.bot.isReady with
    | true =>
      rw [stepConsole_of_isReady hstage hready]
      exact hlive.goOn hstage rfl rfl (fun _ _ => hready) nofun
    | false =>
      cases retries with
      | zero =>
        rw [stepConsole_of_no_retries hstage hready]
        exact hlive.answer hstage rfl rfl rfl fun _ _ htells => htells.giveUp question
      | succ retries =>
        rw [stepConsole_of_retries hstage hready]
        exact hlive.goOn hstage rfl rfl nofun nofun
  | admitted question =>
    have hlive := h.live (by simp [hstage])
    rw [stepConsole_of_admitted hstage]
    have hinput := (p.session.consistent_of_found p.bot question).1
    refine hlive.answer hstage rfl rfl hinput fun count hsuccess htells => ?_
    rw [hlive.bot_of_admitted hstage hsuccess]
    exact htells.ask question
  | checking answer =>
    have hlive := h.live (by simp [hstage])
    by_cases hfailed : ∃ failure, p.loader.stage = .ended (.error failure)
    · obtain ⟨failure, hended⟩ := hfailed
      rw [stepConsole_of_failed hstage hended]
      exact Saved.of_error hlive.folder _ _
    · rw [stepConsole_of_not_failed hstage (not_exists.1 hfailed)]
      exact hlive.write hstage _
  | joining =>
    have hlive := h.live (by simp [hstage])
    by_cases hover : ∃ result, p.loader.stage = .ended result
    · obtain ⟨result, hended⟩ := hover
      rw [stepConsole_of_ended hstage hended]
      rcases close_cases (o.console p) invocation.now p.world with
        ⟨failure, last, hclose, hfolder⟩ | ⟨last, hclose, -, -⟩
      · rw [hclose]
        exact Saved.of_error (hfolder.trans hlive.folder) _ _
      · rw [hclose]
        have hsucceeded := hlive.succeeded_of_close hstage hended hclose
        exact ⟨fun hcode => absurd rfl hcode, fun _ => ⟨o, hsucceeded⟩⟩
    · rw [stepConsole_of_not_ended hstage (not_exists.1 hover)]
      exact h
  | finished finished =>
    rw [stepConsole_of_finished hstage]
    exact h

/-- A step of the loader keeps everything. -/
theorem Sound.stepLoader (h : o.Sound fault p) : o.Sound fault p.stepLoader := by
  have hsame : p.stepLoader.stage = p.stage := rfl
  unfold Sound at h ⊢
  rw [hsame]
  split at h
  · exact h
  · exact Live.stepLoader h

/-- What always holds goes on to hold. -/
theorem Sound.step (h : o.Sound fault p) (worker : Worker) :
    o.Sound fault (o.step fault p worker) := by
  cases worker with
  | console => exact h.stepConsole
  | loader => exact h.stepLoader

/-- After any steps of the loader and of the console, a run has left behind what it should if it is
over. -/
theorem sound_run (o : Opening invocation) (fault : Option FileFault) (schedule : List Worker) :
    o.Sound fault (o.run fault o.start schedule) := by
  have hstart : o.Sound fault o.start := live_start
  generalize o.start = p at hstart ⊢
  induction schedule generalizing p with
  | nil => exact hstart
  | cons worker schedule ih => exact ih _ (hstart.step worker)

end Opening

/-- A run that stops at once. -/
theorem saved_ofStop {stop : Stop} (hhelp : stop ≠ .help) (hversion : stop ≠ .version) :
    Saved invocation fault [] (.ofStop invocation.folder stop) := by
  cases stop with
  | help => exact absurd rfl hhelp
  | version => exact absurd rfl hversion
  | misuse => exact ⟨fun _ => rfl, nofun⟩

/-- A run that fails before the first question has touched no file. -/
theorem folder_of_openConsole_error {flags : Flags} {failure : RunFailure} {world : World}
    (h : (openConsole invocation flags).run invocation.world = .error failure world) :
    world.folder = invocation.folder := by
  rcases openConsole_cases invocation flags invocation.world with
    ⟨cause, hopen⟩ | ⟨found, conversation, -, -, -, hopen⟩
  · rw [hopen] at h
    cases h
    rfl
  · rw [hopen] at h
    cases h

/-- A run that ends leaves behind what it should. -/
theorem Ends.saved {answers : List Answer} {finished : Finished}
    (h : Ends invocation fault answers finished)
    (hhelp : read invocation.arguments ≠ .error .help)
    (hversion : read invocation.arguments ≠ .error .version) :
    Saved invocation fault answers finished := by
  cases h with
  | stopped hread =>
    rw [hread] at hhelp hversion
    exact saved_ofStop (fun heq => hhelp (heq ▸ rfl)) fun heq => hversion (heq ▸ rfl)
  | unopened _ hopen => exact Saved.of_error (folder_of_openConsole_error hopen) _ _
  | answered o schedule _ hend =>
    have hsound := o.sound_run fault schedule
    unfold Opening.Sound at hsound
    rw [hend] at hsound
    exact hsound

/-- Whatever a run starts from that is not asked for help or for its version, however fast its
rule sources are loaded, and wherever its standard input breaks off: if it fails, then it leaves
everything as it was.  If it succeeds, then every rule source has been read and parsed, and the
session file, if there is one, holds the variables and the previous answer of the session after
the last question that has been answered.  The run that waits for the load as soon as a question
finds the load gate closed is one of these runs. -/
theorem saved_of_ends (invocation : Invocation)
    (hhelp : read invocation.arguments ≠ .error .help)
    (hversion : read invocation.arguments ≠ .error .version) :
    (∃ answers, Ends invocation none answers (run invocation)) ∧
      ∀ fault answers finished, Ends invocation fault answers finished →
        Saved invocation fault answers finished :=
  ⟨exists_ends_run invocation, fun _ _ _ h => h.saved hhelp hversion⟩

/-- A run with two questions on the standard input. -/
def metInvocation : Invocation :=
  (atMidday "Ann\nTom\n").invocation (metArguments "s.json") [] metFolder

/-- Both questions are answered, and the session is saved. -/
theorem saved_of_ends_met :
    read metInvocation.arguments ≠ .error .help ∧ read metInvocation.arguments ≠ .error .version ∧
      (run metInvocation).exitCode = 0 ∧
      ∃ answers, Ends metInvocation none answers (run metInvocation) ∧
        Saved metInvocation none answers (run metInvocation) := by
  have hhelp : read metInvocation.arguments ≠ .error .help := by decide +kernel
  have hversion : read metInvocation.arguments ≠ .error .version := by decide +kernel
  have hcode : (run metInvocation).exitCode = 0 := by decide +kernel
  have hsaved := saved_of_ends metInvocation hhelp hversion
  -- From here on nothing is to be evaluated any more.
  generalize run metInvocation = finished at hcode hsaved ⊢
  obtain ⟨⟨answers, hends⟩, hall⟩ := hsaved
  exact ⟨hhelp, hversion, hcode, answers, hends, hall none answers finished hends⟩

/-- The opening of this run. -/
def metOpening : Opening metInvocation where
  flags := { files := ["met.aiml"], session := some "s.json" }
  opened := .loading { sources := ["met.aiml"], session := some "s.json" } (.start .empty)
    false false 7
  world := metInvocation.world
  read := rfl
  started := rfl

-- The first question finds the load gate closed until it is given up.  The second one is answered
-- before the load is over, and the session is saved when it is.
example :
    let tooEarly : List Worker := List.replicate 13 .console
    let loaded : List Worker := List.replicate 2 .loader
    let inTime : List Worker := List.replicate 5 .console
    let ended : List Worker := [.loader, .console]
    let p := metOpening.run none metOpening.start (tooEarly ++ loaded ++ inTime ++ ended)
    p.answers.map (·.outcome) = [.loadTimeout, .matched] ∧
      (match p.stage with
        | .finished finished => (keptSession finished.folder.files "s.json").toOption
        | _ => none) = some ("met Tom", .ofList [("last", "Tom")]) := by
  decide +kernel

end CommandLine

end Dialogue
