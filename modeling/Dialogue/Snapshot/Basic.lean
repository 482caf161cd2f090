import Dialogue.Conversation
import Dialogue.Instant.Basic

/-!
# Snapshots of conversations

A snapshot is what is kept of a conversation to go on with it later: the last
answer, the variables, and when the snapshot was taken.  What the wildcards took
is not kept, because every question begins with new captures.

Main results:

- `restore_capture`: a conversation comes back from its snapshot without its
  captures.
- `capture_restore`: a snapshot of what has been restored has the same contents.
-/

namespace Dialogue

/-- What is kept of a conversation. -/
structure Snapshot where
  previousAnswer : String
  vars : Bindings
  savedAt : Instant
  deriving DecidableEq

namespace Snapshot

/-- The snapshot of a conversation at an instant. -/
def capture (now : Instant) (c : Conversation) : Snapshot := ⟨c.previousAnswer, c.vars, now⟩

/-- The conversation that a snapshot stands for. -/
def restore (s : Snapshot) : Conversation := ⟨s.vars, [], "", s.previousAnswer⟩

/-- A conversation comes back from its snapshot without its captures. -/
theorem restore_capture (now : Instant) (c : Conversation) :
    (capture now c).restore = c.forgetCaptures := rfl

/-- A snapshot of what has been restored has the same contents. -/
theorem capture_restore (s : Snapshot) : capture s.savedAt s.restore = s := rfl

end Snapshot

end Dialogue
