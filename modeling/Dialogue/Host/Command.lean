import Dialogue.Host.Basic

/-!
# Commands to a host

What can be asked of a host: to load rules for its bot, and to go on in one of
its sessions.  Every command has a reply.

Main results:

- `performIn_eq_none_iff`: a command fails to be performed only in a session that
  does not exist.
-/

namespace Dialogue

/-! ## Commands and replies -/

/-- A command about the rules of the bot. -/
inductive BotCommand where
  /-- Loads a document given as a text. -/
  | load (text : String)
  /-- Loads documents from files. -/
  | loadFiles (names : List String)
  /-- Begins to load documents in the background. -/
  | spawnLoad (names : List String)
  /-- Waits for the load in the background. -/
  | join
  /-- Forgets all rules. -/
  | reload
  /-- Does nothing. -/
  | status
  /-- Shows all categories. -/
  | knowledge
  deriving DecidableEq, Repr

/-- A command in a session. -/
inductive SessionCommand where
  /-- Answers a question, unless rules are still to be loaded. -/
  | ask (input : String)
  /-- Answers a question after waiting for rules. -/
  | askWaiting (input : String)
  | set (name value : String)
  | get (name : String)
  | remove (name : String)
  | showVariables
  | showPreviousAnswer
  | showSnapshot
  /-- Writes a snapshot to a file. -/
  | save (name : String)
  /-- Goes on from the snapshot in a file. -/
  | restore (name : String)
  /-- Goes on from a snapshot of another session. -/
  | copy (source : Nat)
  deriving DecidableEq, Repr

/-- The reply to a command. -/
inductive Reply where
  | done
  | failed (failure : Failure)
  /-- The number of categories that have been loaded. -/
  | loaded (count : Nat)
  | knowledge (categories : List Category)
  | answer (answer : Answer)
  /-- The value of a variable. -/
  | value (value : Option String)
  | text (content : String)
  /-- The text of the file that has been written. -/
  | written (content : String)
  | vars (vars : Bindings)
  | snapshot (snapshot : Snapshot)

/-- The reply to a command that loads rules. -/
def Reply.ofLoad : Except LoadFailure Nat → Reply
  | .ok count => loaded count
  | .error failure => failed (.source failure)

namespace Host

/-! ## The bot -/

/-- Performs a command about the rules of the bot. -/
def perform (host : Host) : BotCommand → Reply × Host
  | .load text =>
    let (result, bot) := host.bot.loadText text
    (.ofLoad result, { host with bot := bot })
  | .loadFiles names =>
    let host := if names.isEmpty then host else host.settle
    let (result, bot) := host.bot.loadFiles host.folder.files names
    (.ofLoad result, { host with bot := bot })
  | .spawnLoad names => (.done, host.spawn names)
  | .join =>
    let (result, host) := host.join
    ((result.map Reply.ofLoad).getD .done, host)
  | .reload => (.done, { host with bot := host.bot.reload })
  | .status => (.done, host)
  | .knowledge => (.knowledge host.bot.knowledge.categories, host)

/-! ## Sessions -/

/-- Changes the conversation of a session. -/
def change (host : Host) (index : Nat) (session : Session) (conversation : Conversation) : Host :=
  host.setSession index (session.withConversation conversation)

/-- Performs a command in the session with a number, which is `session` now.
Snapshots are taken at the instant `now`. -/
def performWith (now : Instant) (host : Host) (index : Nat) (session : Session) :
    SessionCommand → Reply × Host
  | .ask input =>
    match session.askNow host.bot input with
    | some (answer, session) => (.answer answer, host.setSession index session)
    | none => (.failed .notReady, host)
  | .askWaiting input =>
    let (answer, session) := session.askWaiting host.looks input
    (.answer answer, (host.await session.options.maxRetries).setSession index session)
  | .set name value => (.done, host.change index session (session.conversation.set name value))
  | .get name => (.value (session.conversation.vars.get? name), host)
  | .remove name => (.done, host.change index session (session.conversation.remove name))
  | .showVariables => (.vars session.conversation.vars, host)
  | .showPreviousAnswer => (.text session.conversation.previousAnswer, host)
  | .showSnapshot => (.snapshot (.capture now session.conversation), host)
  | .save name =>
    let text := (Snapshot.capture now session.conversation).write
    match host.folder.save name text with
    | .ok folder => (.written text, { host with folder := folder })
    | .error fault => (.failed (.snapshot ⟨name, .file fault⟩), host)
  | .restore name =>
    match Snapshot.ofFile host.folder.files name with
    | .ok snapshot => (.done, host.change index session snapshot.restore)
    | .error failure => (.failed (.snapshot failure), host)
  | .copy source =>
    match host.session? source with
    | some other =>
      (.done, host.change index session (Snapshot.capture now other.conversation).restore)
    | none => (.done, host)

/-- Performs a command in a session by its number; nothing if there is no such
session. -/
def performIn (now : Instant) (host : Host) (index : Nat) (command : SessionCommand) :
    Option (Reply × Host) :=
  (host.session? index).map fun session => host.performWith now index session command

/-- A command fails to be performed only in a session that does not exist. -/
theorem performIn_eq_none_iff (now : Instant) (host : Host) (index : Nat)
    (command : SessionCommand) :
    host.performIn now index command = none ↔ host.sessions.length ≤ index := by
  simp [performIn, session?]

end Host

end Dialogue
