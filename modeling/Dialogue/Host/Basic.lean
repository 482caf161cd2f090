import Dialogue.Failure
import Dialogue.Session
import Dialogue.Snapshot.Writing

/-!
# Hosts

A host keeps a bot, the sessions with it, a folder, and at most one load that
runs in the background.  What such a load does becomes visible when somebody
waits for it.

Main results:

- `settle_settle`: a load that has come to its end stays as it is.
- `folder_join`: loading rules does not touch the folder.
- `session?_setSession_of_ne`: what happens in one session leaves the others
  alone.
-/

namespace Dialogue

/-- The load in the background. -/
inductive Background where
  | idle
  | running (batch : Batch)
  | ended (result : Except LoadFailure Nat)

/-- The result of a load that has come to its end. -/
def Background.result? : Background → Option (Except LoadFailure Nat)
  | ended result => some result
  | _ => none

/-- A bot with its sessions. -/
structure Host where
  bot : Bot
  folder : Folder := {}
  background : Background := .idle
  sessions : List Session

namespace Host

/-- A host of a new bot, with one session. -/
def new (profile : Bindings) (options : Options) : Host where
  bot := .new profile
  sessions := [.new options 0]

/-- The host with files put into its folder. -/
def put (host : Host) (files : List (String × FileContent)) : Host :=
  { host with folder := host.folder.putAll files }

/-! ## Sessions -/

/-- A session by its number. -/
def session? (host : Host) (index : Nat) : Option Session := host.sessions[index]?

/-- The host after a session has gone on. -/
def setSession (host : Host) (index : Nat) (session : Session) : Host :=
  { host with sessions := host.sessions.set index session }

/-- The host with one more session, whose number is given. -/
def addSession (host : Host) (options : Options) : Nat × Host :=
  let index := host.sessions.length
  (index, { host with sessions := host.sessions ++ [.new options index] })

/-- What happens in one session leaves the others alone. -/
theorem session?_setSession_of_ne (host : Host) {index other : Nat} (session : Session)
    (hne : other ≠ index) :
    (host.setSession index session).session? other = host.session? other := by
  simp [session?, setSession, List.getElem?_set_ne hne.symm]

/-! ## Loads in the background -/

/-- The host when the load in the background has come to its end. -/
def settle (host : Host) : Host :=
  match host.background with
  | .idle => host
  | .running batch =>
    let (result, bot) := host.bot.runBatch host.folder.files batch
    { host with bot := bot, background := .ended result }
  | .ended _ => host

/-- The host after one more load has begun in the background; an earlier one has
come to its end before. -/
def spawn (host : Host) (names : List String) : Host :=
  let host := host.settle
  let (bot, batch) := host.bot.request names
  { host with bot := bot, background := .running batch }

/-- The result of the load in the background, if there is one, and the host when
it is over. -/
def join (host : Host) : Option (Except LoadFailure Nat) × Host :=
  let host := host.settle
  match host.background with
  | .ended result => (some result, { host with background := .idle })
  | _ => (none, host)

/-- The host after a request has waited for rule sources, looking at the load gate
at most `retries` times again. -/
def await (host : Host) (retries : Nat) : Host :=
  if host.bot.isReady ∨ retries = 0 then host else host.settle

/-- How the bot is found at each look at the load gate. -/
def looks (host : Host) : Nat → Bot
  | 0 => host.bot
  | _ + 1 => host.settle.bot

/-- A load that has come to its end stays as it is. -/
@[simp] theorem settle_settle (host : Host) : host.settle.settle = host.settle := by
  obtain ⟨bot, folder, background, sessions⟩ := host
  cases background <;> rfl

/-- Waiting for a load does not touch the folder. -/
@[simp] theorem folder_settle (host : Host) : host.settle.folder = host.folder := by
  obtain ⟨bot, folder, background, sessions⟩ := host
  cases background <;> rfl

/-- Ending a load does not touch the folder. -/
@[simp] theorem folder_join (host : Host) : host.join.2.folder = host.folder := by
  simp only [join]
  split <;> exact folder_settle host

end Host

end Dialogue
