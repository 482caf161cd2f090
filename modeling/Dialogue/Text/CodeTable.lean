/-!
# Tables over code points

Properties and mappings of characters are given by short sorted tables: a
property by the ranges of code points that have it, a mapping by runs of code
points that are all moved by one distance.
-/

namespace Dialogue.Text

/-! ## Properties -/

/-- Whether a code point lies in one of the ranges, which stand in increasing
order, so that the search ends at the first range that starts above it. -/
def inRanges : List (Nat × Nat) → Nat → Bool
  | [], _ => false
  | (first, last) :: ranges, n =>
    if n < first then false else if n ≤ last then true else inRanges ranges n

/-! ## Mappings -/

/-- A run of code points `first`, `first + step`, … up to `last`, each of which
is mapped to the code point `offset` further on. -/
structure Shift where
  first : Nat
  last : Nat
  step : Nat
  offset : Int

/-- The image of a code point under a mapping given by runs in increasing
order; a code point in no run stays where it is. -/
def shiftBy : List Shift → Nat → Nat
  | [], n => n
  | run :: runs, n =>
    if n < run.first then n
    else if n ≤ run.last then
      if (n - run.first) % run.step = 0 then (n + run.offset).toNat else n
    else shiftBy runs n

/-- The image of a character under a mapping of code points. -/
def shiftChar (runs : List Shift) (c : Char) : Char :=
  Char.ofNat (shiftBy runs c.toNat)

end Dialogue.Text
