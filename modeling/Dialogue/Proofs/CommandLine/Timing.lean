import Dialogue.CommandLine.Run
import Dialogue.Proofs.Loading.Background
import Dialogue.Proofs.Session.Turns

/-!
# Runs with any timing

While a run answers questions, its rule sources are loaded in the background, and nothing says how
fast.  A question may find the load gate closed as often as it looks at it, or open when only the
failure of the load is still unknown; the failure may be seen before an answer is written, after
it, or when all questions have been answered.

Here a run is a sequence of single steps, each of them by the loader or by the console, in any
order.  A console reads a question, looks at the load gate, answers, and looks whether the load
has failed before it writes the answer.  At the end it waits for the loader and saves the session.
The standard input may break off with a line that is not a text.  The files are part of the state
that each step hands on, whether or not it ends the run.

Main results:

- Theorem `Opening.exists_resume`: what a run comes to before it reads the first question.
- Definition `Opening.step`: what the loader and the console do next.
- Definition `Ends`: how a run can end.
- Theorem `Opening.run_replicate_loader`: the loader can go on alone.
-/

namespace Dialogue

/-- How a load in the background appears to a host: its result is not seen before its end. -/
def Loader.background (loader : Loader) : Background :=
  match loader.stage with
  | .committing _ pending => .running ⟨loader.generation, pending⟩
  | .abandoning _ _ => .running ⟨loader.generation, []⟩
  | .returning _ => .running ⟨loader.generation, []⟩
  | .ended result => .ended result

/-- The result of a load is known to its host exactly if the load is over. -/
theorem Loader.result?_background (loader : Loader) (result : Except LoadFailure Nat) :
    loader.background.result? = some result ↔ loader.stage = .ended result := by
  obtain ⟨generation, stage⟩ := loader
  cases stage <;> simp [background, Background.result?]

namespace CommandLine

/-! ## States of a run -/

/-- What a run comes to before it reads the first question. -/
structure Opening (invocation : Invocation) where
  flags : Flags
  /-- The console that has been started. -/
  opened : Console
  /-- The world in which it has been started. -/
  world : World
  read : CommandLine.read invocation.arguments = .ok flags
  started : (openConsole invocation flags).run invocation.world = .ok opened world

/-- Who takes the next step of a run. -/
inductive Worker where
  | console
  | loader
  deriving DecidableEq, Repr

/-- What a console is about to do. -/
inductive Progress.Stage where
  /-- The next question is read. -/
  | reading
  /-- The load gate is looked at for a question, and so often again if it is closed. -/
  | waiting (question : String) (retries : Nat)
  /-- A question is answered for which the load gate has been found open. -/
  | admitted (question : String)
  /-- An answer is written, unless the load has failed. -/
  | checking (answer : Answer)
  /-- There are no more questions, and the load is waited for. -/
  | joining
  /-- The run is over. -/
  | finished (finished : Finished)

/-- How far a run has come. -/
structure Progress where
  bot : Bot
  loader : Loader
  session : Session
  stage : Progress.Stage
  /-- The questions that have not been read. -/
  unread : List String
  /-- The answers that have been written. -/
  answers : List Answer
  /-- What the run has written, and the files as they are. -/
  world : World

namespace Progress

/-- A run that ends with a result. -/
def finish (p : Progress) (result : EStateM.Result RunFailure World Unit) : Progress :=
  { p with stage := .finished (.ofResult result) }

/-- What the loader does next. -/
def stepLoader (p : Progress) : Progress :=
  let (loader, bot) := Loader.step p.world.folder.files (p.loader, p.bot)
  { p with loader := loader, bot := bot }

end Progress

namespace Opening

variable {invocation : Invocation} (o : Opening invocation)

/-- The settings of a run. -/
def settings : Settings := o.opened.settings

/-- The session at the beginning of a run. -/
def session : Session := o.opened.session

/-- The questions of a run. -/
def questions : List String := CommandLine.questions o.flags invocation.input

/-- The load of the rule sources when it is over: its result, and the bot afterwards. -/
def loaded : Except LoadFailure Nat × Bot :=
  (Bot.new o.settings.bot).loadFiles invocation.folder.files o.settings.sources

/-- A run whose load has just been requested. -/
def start : Progress where
  bot := ((Bot.new o.settings.bot).request o.settings.sources).1
  loader := .ofBatch ((Bot.new o.settings.bot).request o.settings.sources).2
  session := o.session
  stage := .reading
  unread := o.questions
  answers := []
  world := o.world

/-- The console of a run as it stands. -/
def console (p : Progress) : Console :=
  { o.opened with bot := p.bot, background := p.loader.background, session := p.session }

variable {o}

/-- The settings of a run are those of the files, the environment and the flags.  Its session can
go on, and up to the first question nothing is written and no file is touched. -/
theorem exists_resume (o : Opening invocation) : ∃ conversation,
    CommandLine.settings invocation.folder.files invocation.environment o.flags = .ok o.settings ∧
      o.settings.sources ≠ [] ∧
      Console.resume invocation.folder.files o.settings.session = .ok conversation ∧
      o.opened = .loading o.settings conversation o.flags.isVerbose
        (isColored o.flags invocation.isTerminal) invocation.entropy ∧
      o.world = invocation.world := by
  obtain ⟨flags, opened, world, hread, hstarted⟩ := o
  rcases openConsole_cases invocation flags invocation.world with
    ⟨failure, hopen⟩ | ⟨found, conversation, hsettings, hsources, hresume, hopen⟩
  · rw [hopen] at hstarted
    cases hstarted
  · rw [hopen] at hstarted
    cases hstarted
    exact ⟨conversation, hsettings, hsources, hresume, rfl, rfl⟩

/-- Up to the first question no file is touched. -/
theorem folder_world : o.world.folder = invocation.folder := by
  obtain ⟨-, -, -, -, -, hworld⟩ := o.exists_resume
  rw [hworld]
  rfl

/-- A run begins with the console that has been started. -/
theorem console_start : o.console o.start = o.opened := by
  obtain ⟨conversation, -, -, -, hopened, -⟩ := o.exists_resume
  rw [console, start, session, hopened]
  rfl

variable (o)

/-! ## Steps -/

/-- What the console does next; `fault` says why there is no more to be read after the last
question if the standard input breaks off. -/
def stepConsole (fault : Option FileFault) (p : Progress) : Progress :=
  match p.stage with
  | .reading =>
    match p.unread with
    | question :: unread =>
      { p with stage := .waiting question p.session.options.maxRetries, unread := unread }
    | [] =>
      match fault with
      | some cause => p.finish (.error (.unreadableInput cause) p.world)
      | none => { p with stage := .joining }
  | .waiting question retries =>
    if p.bot.isReady then { p with stage := .admitted question }
    else
      match retries with
      | 0 => { p with stage := .checking (.unanswered question .loadTimeout) }
      | retries + 1 => { p with stage := .waiting question retries }
  | .admitted question =>
    let (answer, session) := p.session.ask p.bot question
    { p with session := session, stage := .checking answer }
  | .checking answer =>
    match p.loader.stage with
    | .ended (.error failure) => p.finish (.error (.failure (.source failure)) p.world)
    | _ =>
      { p with
        stage := .reading
        answers := p.answers ++ [answer]
        world := p.world.write ((o.console p).report answer invocation.nanos) }
  | .joining =>
    match p.loader.stage with
    | .ended _ => p.finish (((o.console p).close invocation.now).run p.world)
    | _ => p
  | .finished _ => p

/-- The next step of a run. -/
def step (fault : Option FileFault) (p : Progress) : Worker → Progress
  | .console => o.stepConsole fault p
  | .loader => p.stepLoader

/-- A run after steps of the loader and of the console in some order. -/
def run (fault : Option FileFault) (p : Progress) (schedule : List Worker) : Progress :=
  schedule.foldl (o.step fault) p

/-! ## What the console does in each stage -/

section Console

variable {o} {fault : Option FileFault} {p : Progress} {question : String}

/-- A question is read. -/
theorem stepConsole_of_question (hstage : p.stage = .reading) {unread : List String}
    (hunread : p.unread = question :: unread) :
    o.stepConsole fault p =
      { p with stage := .waiting question p.session.options.maxRetries, unread := unread } := by
  simp only [stepConsole, hstage, hunread]

/-- The standard input breaks off after the last question. -/
theorem stepConsole_of_fault (hstage : p.stage = .reading) (hunread : p.unread = [])
    (cause : FileFault) :
    o.stepConsole (some cause) p = p.finish (.error (.unreadableInput cause) p.world) := by
  simp only [stepConsole, hstage, hunread]

/-- There are no more questions. -/
theorem stepConsole_of_no_question (hstage : p.stage = .reading) (hunread : p.unread = []) :
    o.stepConsole none p = { p with stage := .joining } := by
  simp only [stepConsole, hstage, hunread]

/-- The load gate is found open. -/
theorem stepConsole_of_isReady {retries : Nat} (hstage : p.stage = .waiting question retries)
    (hready : p.bot.isReady = true) :
    o.stepConsole fault p = { p with stage := .admitted question } := by
  simp only [stepConsole, hstage, hready, if_true]

/-- The load gate is found closed for the last time. -/
theorem stepConsole_of_no_retries (hstage : p.stage = .waiting question 0)
    (hready : p.bot.isReady = false) :
    o.stepConsole fault p =
      { p with stage := .checking (.unanswered question .loadTimeout) } := by
  simp only [stepConsole, hstage, hready, Bool.false_eq_true, if_false]

/-- The load gate is found closed, and is looked at again. -/
theorem stepConsole_of_retries {retries : Nat} (hstage : p.stage = .waiting question (retries + 1))
    (hready : p.bot.isReady = false) :
    o.stepConsole fault p = { p with stage := .waiting question retries } := by
  simp only [stepConsole, hstage, hready, Bool.false_eq_true, if_false]

/-- A question is answered. -/
theorem stepConsole_of_admitted (hstage : p.stage = .admitted question) :
    o.stepConsole fault p =
      { p with
        session := (p.session.ask p.bot question).2
        stage := .checking (p.session.ask p.bot question).1 } := by
  simp only [stepConsole, hstage]

/-- The load has failed before an answer is written. -/
theorem stepConsole_of_failed {answer : Answer} {failure : LoadFailure}
    (hstage : p.stage = .checking answer) (hended : p.loader.stage = .ended (.error failure)) :
    o.stepConsole fault p = p.finish (.error (.failure (.source failure)) p.world) := by
  simp only [stepConsole, hstage, hended]

/-- An answer is written. -/
theorem stepConsole_of_not_failed {answer : Answer} (hstage : p.stage = .checking answer)
    (hended : ∀ failure, p.loader.stage ≠ .ended (.error failure)) :
    o.stepConsole fault p =
      { p with
        stage := .reading
        answers := p.answers ++ [answer]
        world := p.world.write ((o.console p).report answer invocation.nanos) } := by
  simp only [stepConsole, hstage]

/-- The load is over, and the console ends. -/
theorem stepConsole_of_ended {result : Except LoadFailure Nat} (hstage : p.stage = .joining)
    (hended : p.loader.stage = .ended result) :
    o.stepConsole fault p = p.finish (((o.console p).close invocation.now).run p.world) := by
  simp only [stepConsole, hstage, hended]

/-- The load is not over yet. -/
theorem stepConsole_of_not_ended (hstage : p.stage = .joining)
    (hended : ∀ result, p.loader.stage ≠ .ended result) : o.stepConsole fault p = p := by
  simp only [stepConsole, hstage]

/-- A run that is over stays as it is. -/
theorem stepConsole_of_finished {finished : Finished} (hstage : p.stage = .finished finished) :
    o.stepConsole fault p = p := by
  simp only [stepConsole, hstage]

end Console

/-! ## Schedules -/

variable {o} {fault : Option FileFault}

/-- One schedule after another. -/
theorem run_append (p : Progress) (schedule more : List Worker) :
    o.run fault p (schedule ++ more) = o.run fault (o.run fault p schedule) more :=
  List.foldl_append

/-- The loader goes on alone. -/
theorem run_replicate_loader (n : Nat) (p : Progress) :
    o.run fault p (List.replicate n .loader) =
      { p with
        loader := ((Loader.step p.world.folder.files)^[n] (p.loader, p.bot)).1
        bot := ((Loader.step p.world.folder.files)^[n] (p.loader, p.bot)).2 } := by
  induction n generalizing p with
  | zero => rfl
  | succ n ih =>
    rw [List.replicate_succ, run, List.foldl_cons]
    exact ih p.stepLoader

end Opening

/-! ## Ends -/

/-- How a run can end: the answers that it has written, its exit code, its output, and the folder
that it leaves. -/
inductive Ends (invocation : Invocation) (fault : Option FileFault) : List Answer → Finished → Prop
  /-- The arguments do not ask for answers. -/
  | stopped {stop : Stop} (hread : read invocation.arguments = .error stop) :
    Ends invocation fault [] (.ofStop invocation.folder stop)
  /-- The settings cannot be used, there are no rule sources, or the session file cannot be
  read. -/
  | unopened {flags : Flags} {failure : RunFailure} {world : World}
    (hread : read invocation.arguments = .ok flags)
    (hopen : (openConsole invocation flags).run invocation.world = .error failure world) :
    Ends invocation fault [] (.ofResult (.error failure world))
  /-- The questions are answered while the rule sources are loaded.  The standard input is not
  read if the arguments give a question. -/
  | answered (o : Opening invocation) (schedule : List Worker) {finished : Finished}
    (hfault : o.flags.input ≠ [] → fault = none)
    (hend : (o.run fault o.start schedule).stage = .finished finished) :
    Ends invocation fault (o.run fault o.start schedule).answers finished

end CommandLine

end Dialogue
