import Dialogue.Loading.Document
import Dialogue.Snapshot.Reading

/-!
# Failures

Every way in which a request to a bot, a session or a configuration can fail,
with the code under which it is reported and its wording.

Main results:

- `Failure.message_isSome_iff`: only a configuration that cannot be used is
  reported by its code alone.
-/

namespace Dialogue

/-- A failure. -/
inductive Failure where
  /-- A rule source is not loaded. -/
  | source (cause : LoadFailure)
  /-- A snapshot file is not read or written. -/
  | snapshot (cause : Snapshot.Failure)
  /-- Rule sources are still to be loaded. -/
  | notReady
  /-- The configuration cannot be used. -/
  | configuration
  deriving DecidableEq, Repr

namespace Failure

/-- The code of a failure. -/
def code : Failure → String
  | source (.unreadable _ _) => "READ_ERROR"
  | source (.malformed _) => "MARKUP_ERROR"
  | snapshot _ => "SNAPSHOT_ERROR"
  | notReady => "NOT_READY"
  | configuration => "CONFIG_ERROR"

/-- The wording of a failure, if it has one. -/
def message : Failure → Option String
  | source cause => some cause.message
  | snapshot cause => some cause.message
  | notReady => some "Rule sources are still loading"
  | configuration => none

/-- Only a configuration that cannot be used is reported by its code alone. -/
theorem message_isSome_iff (f : Failure) : f.message.isSome ↔ f ≠ configuration := by
  cases f <;> simp [message]

end Failure

end Dialogue
