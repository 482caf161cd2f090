import Dialogue.CommandLine.Routine
import Dialogue.CommandLine.Arguments
import Dialogue.Host.Basic
import Dialogue.Report

/-!
# Consoles

A console answers questions one after the other in a single session, while the
rule sources are loaded in the background.  The session goes on from its file,
if there is one, and is written back at the end of a run without failures.

Main results:

- `run_start`: a console starts if its session can go on.
- `run_ask_of_failed`, `run_ask`: a question is answered unless the load is known
  to have failed.
- `run_close_of_failed`, `run_close`: the session is saved in the end unless the
  load has failed.
-/

namespace Dialogue.CommandLine

/-- A session that answers questions while rule sources are loaded. -/
structure Console where
  settings : Settings
  bot : Bot
  /-- The load of the rule sources. -/
  background : Background
  session : Session
  isVerbose : Bool
  isColored : Bool

namespace Console

/-- The host of a console in a folder. -/
def host (console : Console) (folder : Folder) : Host where
  bot := console.bot
  folder := folder
  background := console.background
  sessions := []

/-! ## The beginning -/

/-- The conversation that a session file holds, or a new one if there is none. -/
def resume (files : Files) (file : Option String) : Except Failure Conversation :=
  match file with
  | none => .ok (.start .empty)
  | some name =>
    if files name = .absent then .ok (.start .empty)
    else ((Snapshot.ofFile files name).map Snapshot.restore).mapError .snapshot

/-- The host that has begun to load rule sources. -/
def loadingHost (settings : Settings) (folder : Folder) : Host :=
  Host.spawn { bot := .new settings.bot, folder := folder, sessions := [] } settings.sources

/-- The console that goes on with a conversation and has begun to load the rule
sources; `entropy` is the seed if the settings give none. -/
def loading (settings : Settings) (conversation : Conversation) (isVerbose isColored : Bool)
    (entropy : Nat) : Console :=
  let (bot, batch) := (Bot.new settings.bot).request settings.sources
  { settings := settings
    bot := bot
    background := .running batch
    session := (Session.new settings.options entropy).withConversation conversation
    isVerbose := isVerbose
    isColored := isColored }

/-- The console of settings. -/
def start (settings : Settings) (isVerbose isColored : Bool) (entropy : Nat) : Routine Console := do
  if settings.sources.isEmpty then throw .noSources
  else
    let files := (← get).folder.files
    let conversation ← ofExcept ((resume files settings.session).mapError .failure)
    return loading settings conversation isVerbose isColored entropy

/-- Without rule sources nothing is answered. -/
theorem run_start_noSources {settings : Settings} (h : settings.sources = [])
    (isVerbose isColored : Bool) (entropy : Nat) (world : World) :
    (start settings isVerbose isColored entropy).run world = .error .noSources world := by
  rw [start, h]
  rfl

/-- A console starts if its session can go on. -/
theorem run_start {settings : Settings} (h : settings.sources ≠ []) (isVerbose isColored : Bool)
    (entropy : Nat) (world : World) :
    (start settings isVerbose isColored entropy).run world =
      match resume world.folder.files settings.session with
      | .ok conversation =>
        .ok (loading settings conversation isVerbose isColored entropy) world
      | .error failure => .error (.failure failure) world := by
  have hempty : settings.sources.isEmpty = false := List.isEmpty_eq_false_iff.2 h
  rw [start, hempty, if_neg Bool.false_ne_true, Routine.run_get_bind, EStateM.run_bind,
    Routine.run_ofExcept]
  cases resume world.folder.files settings.session with
  | ok conversation => rfl
  | error failure => rfl

/-! ## Questions -/

/-- Ends the run if a load is known to have failed. -/
def checkLoad (result : Option (Except LoadFailure Nat)) : Routine Unit :=
  match result with
  | some (.error failure) => throw (.failure (.source failure))
  | _ => return ()

/-- The console after its host and its session have gone on. -/
def goOn (console : Console) (host : Host) (session : Session) : Console :=
  { console with bot := host.bot, background := host.background, session := session }

/-- Answers a question after waiting for the rule sources. -/
def ask (console : Console) (question : String) : Routine (Answer × Console) := do
  let host := console.host (← get).folder
  let asked := console.session.askWaiting host.looks question
  let host := host.await console.session.options.maxRetries
  checkLoad host.background.result?
  return (asked.1, console.goOn host asked.2)

/-- What is written for an answer that took a time. -/
def report (console : Console) (answer : Answer) (nanos : Nat) : Output :=
  if console.isVerbose then
    .ofLines (Report.turnLines console.isColored answer console.bot.knowledge.size nanos)
  else
    match answer.answer with
    | some text => .ofLines [text]
    | none => .ofError (Report.noAnswer console.isColored answer)

/-! ## The end -/

/-- Waits for the load of the rule sources, which must have succeeded. -/
def finish (console : Console) : Routine Unit := do
  let (result, host) := (console.host (← get).folder).join
  checkLoad result
  Routine.write
    (if console.isVerbose then .ofLines [Report.loadLine console.isColored host.bot] else {})

/-- Saves the session in its file, if it has one. -/
def save (console : Console) (now : Instant) : Routine Unit :=
  match console.settings.session with
  | none => return ()
  | some name => Routine.save name (Snapshot.capture now console.session.conversation).write

/-- The end of a run. -/
def close (console : Console) (now : Instant) : Routine Unit := do
  console.finish
  console.save now

/-! ## Failures of a load -/

/-- A load that is not known to have failed does not end the run. -/
theorem run_checkLoad {result : Option (Except LoadFailure Nat)}
    (h : ∀ failure, result ≠ some (.error failure)) (world : World) :
    (checkLoad result).run world = .ok () world := by
  unfold checkLoad
  split
  · rename_i failure
    exact absurd rfl (h failure)
  · rfl

/-- A load that has failed ends the run over a question. -/
theorem run_ask_of_failed {console : Console} {world : World} {failure : LoadFailure}
    (h : ((console.host world.folder).await
      console.session.options.maxRetries).background.result? = some (.error failure))
    (question : String) :
    (console.ask question).run world = .error (.failure (.source failure)) world := by
  rw [ask, Routine.run_get_bind, EStateM.run_bind, h]
  rfl

/-- Otherwise the question is answered. -/
theorem run_ask {console : Console} {world : World}
    (h : ∀ failure, ((console.host world.folder).await
      console.session.options.maxRetries).background.result? ≠ some (.error failure))
    (question : String) :
    let host := console.host world.folder
    let asked := console.session.askWaiting host.looks question
    (console.ask question).run world =
      .ok (asked.1, console.goOn (host.await console.session.options.maxRetries) asked.2)
        world := by
  intro host asked
  rw [ask, Routine.run_get_bind, EStateM.run_bind, run_checkLoad h]
  rfl

/-- At the end, a load that has failed ends the run before anything is saved. -/
theorem run_close_of_failed {console : Console} {world : World} {failure : LoadFailure}
    (h : (console.host world.folder).join.1 = some (.error failure)) (now : Instant) :
    (console.close now).run world = .error (.failure (.source failure)) world := by
  rw [close, EStateM.run_bind, finish, Routine.run_get_bind, EStateM.run_bind, h]
  rfl

/-- Otherwise it is reported, and then the session is saved. -/
theorem run_close {console : Console} {world : World}
    (h : ∀ failure, (console.host world.folder).join.1 ≠ some (.error failure))
    (now : Instant) :
    let report : Output := if console.isVerbose then
      .ofLines [Report.loadLine console.isColored (console.host world.folder).join.2.bot] else {}
    (console.close now).run world = (console.save now).run (world.write report) := by
  intro report
  rw [close, EStateM.run_bind, finish, Routine.run_get_bind, EStateM.run_bind, run_checkLoad h]
  rfl

end Console

end Dialogue.CommandLine
