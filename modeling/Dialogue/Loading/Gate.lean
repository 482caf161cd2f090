/-!
# The load gate

Questions are answered only when no rule source is still to be loaded.  The
gate counts the documents that have been requested and the documents that are
settled, be they loaded or failed.  A reset begins a new generation, and what
was requested in an earlier one does not count any more.

Main results:

- `settle_isSome_iff`: exactly documents of the present generation are settled.
-/

namespace Dialogue

/-- The counters of the load gate. -/
structure Gate where
  /-- The number of resets so far, as a machine word. -/
  generation : UInt64 := 0
  requested : Nat := 0
  settled : Nat := 0
  loaded : Nat := 0
  deriving DecidableEq, Repr

namespace Gate

/-- The gate after `count` more documents have been requested. -/
def request (g : Gate) (count : Nat) : Gate := { g with requested := g.requested + count }

/-- The gate after a document of a generation is settled; nothing if the
generation is over. -/
def settle (g : Gate) (generation : UInt64) (isLoaded : Bool) : Option Gate :=
  if generation = g.generation then
    some { g with settled := g.settled + 1, loaded := g.loaded + isLoaded.toNat }
  else none

/-- The gate after `count` documents of a generation are given up. -/
def abandon (g : Gate) (generation : UInt64) (count : Nat) : Gate :=
  if generation = g.generation then { g with settled := g.settled + count } else g

/-- Whether every requested document is settled. -/
def isReady (g : Gate) : Bool := g.requested ≤ g.settled

/-- The gate at the beginning of the next generation. -/
def reset (g : Gate) : Gate := { generation := g.generation + 1 }

/-- Exactly documents of the present generation are settled. -/
theorem settle_isSome_iff (g : Gate) (generation : UInt64) (isLoaded : Bool) :
    (g.settle generation isLoaded).isSome ↔ generation = g.generation := by
  unfold settle
  split <;> simp_all

end Gate

end Dialogue
