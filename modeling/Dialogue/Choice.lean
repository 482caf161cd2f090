/-!
# Computations that choose

A computation may choose between finitely many alternatives and go on
differently after each.  As a tree it fixes what depends on the choices and
what does not: following one stream of draws gives one result, collecting the
leaves gives every result.

Main results:

- `follow_bind`, `mem_outcomes_bind_iff`: both readings of a computation are
  computed step by step.
- `follow_mem_outcomes`: what one stream of draws gives is one of the outcomes.
-/

namespace Dialogue

/-- A computation that may choose. -/
inductive Choice (α : Type) where
  /-- No choice is left. -/
  | done (result : α)
  /-- A choice between `n + 1` alternatives. -/
  | pick (n : Nat) (next : Fin (n + 1) → Choice α)

/-- A stream of draws: the value of each draw, and how many have been used. -/
structure Draws where
  value : Nat → Nat
  used : Nat

/-- Uses one draw for a choice between `n + 1` alternatives. -/
def Draws.next (draws : Draws) (n : Nat) : Fin (n + 1) × Draws :=
  (Fin.ofNat (n + 1) (draws.value draws.used), { draws with used := draws.used + 1 })

namespace Choice

variable {α β γ : Type}

/-! ## Sequencing -/

/-- Goes on with the result of a computation. -/
def bind (x : Choice α) (f : α → Choice β) : Choice β :=
  match x with
  | done a => f a
  | pick n next => pick n fun i => (next i).bind f

instance : Monad Choice where
  pure := done
  bind := bind

/-- A choice between `n + 1` alternatives. -/
def among (n : Nat) : Choice (Fin (n + 1)) := pick n done

/-- Going on by returning changes nothing. -/
theorem bind_done (x : Choice α) : x.bind done = x := by
  induction x with
  | done => rfl
  | pick n next ih => simp [bind, ih]

/-- Sequencing can be regrouped. -/
theorem bind_assoc (x : Choice α) (f : α → Choice β) (g : β → Choice γ) :
    (x.bind f).bind g = x.bind fun a => (f a).bind g := by
  induction x with
  | done => rfl
  | pick n next ih => simp [bind, ih]

instance : LawfulMonad Choice :=
  LawfulMonad.mk' Choice bind_done (fun _ _ => rfl) bind_assoc

/-! ## One stream of draws -/

/-- The result under a stream of draws, and the stream afterwards. -/
def follow (x : Choice α) (draws : Draws) : α × Draws :=
  match x with
  | done a => (a, draws)
  | pick n next =>
    let (i, draws) := draws.next n
    (next i).follow draws

/-- A sequence of computations follows the stream in turn. -/
theorem follow_bind (x : Choice α) (f : α → Choice β) (draws : Draws) :
    (x.bind f).follow draws = (f (x.follow draws).1).follow (x.follow draws).2 := by
  induction x generalizing draws with
  | done => rfl
  | pick n next ih => simp [bind, follow, ih]

/-! ## All outcomes -/

/-- The results over all choices, in the order of the alternatives. -/
def outcomes (x : Choice α) : List α :=
  match x with
  | done a => [a]
  | pick n next => (List.finRange (n + 1)).flatMap fun i => (next i).outcomes

/-- The outcomes of a sequence are those of its second part after any outcome of
its first. -/
theorem mem_outcomes_bind_iff {x : Choice α} {f : α → Choice β} {b : β} :
    b ∈ (x.bind f).outcomes ↔ ∃ a ∈ x.outcomes, b ∈ (f a).outcomes := by
  induction x with
  | done => simp [bind, outcomes]
  | pick n next ih =>
    simp only [bind, outcomes, List.mem_flatMap, ih]
    constructor
    · rintro ⟨i, hi, a, ha, hb⟩
      exact ⟨a, ⟨i, hi, ha⟩, hb⟩
    · rintro ⟨a, ⟨i, hi, ha⟩, hb⟩
      exact ⟨i, hi, a, ha, hb⟩

/-- What one stream of draws gives is one of the outcomes. -/
theorem follow_mem_outcomes (x : Choice α) (draws : Draws) :
    (x.follow draws).1 ∈ x.outcomes := by
  induction x generalizing draws with
  | done => simp [follow, outcomes]
  | pick n next ih =>
    simp only [follow, outcomes, List.mem_flatMap]
    exact ⟨(draws.next n).1, List.mem_finRange _, ih _ _⟩

end Choice

/-! ## Seeds -/

namespace Draws

/-- A word whose bits all depend on all bits of the given one. -/
def mix (word : UInt64) : UInt64 :=
  let word := (word ^^^ (word >>> 30)) * 0xbf58476d1ce4e5b9
  let word := (word ^^^ (word >>> 27)) * 0x94d049bb133111eb
  word ^^^ (word >>> 31)

/-- The distance between the words from which two successive draws are mixed. -/
def stride : UInt64 := 0x9e3779b97f4a7c15

/-- The stream of draws that a seed stands for. -/
def ofSeed (seed : UInt64) : Draws where
  value i := (mix (seed + stride * (UInt64.ofNat i + 1))).toNat
  used := 0

end Draws

end Dialogue
