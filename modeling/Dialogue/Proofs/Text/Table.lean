import Dialogue.Text.CodeTable

/-!
# Properties kept by a mapping of code points

A property given by ranges is kept by a mapping given by runs when every code
point that a run moves lands on one with the same answer.  Whole runs are
compared with whole ranges, so that the comparison takes one walk over the
ranges for each run.

Main results:

- Theorem `inRanges_of_spanAnswer`: a span with one answer gives it at each of
  its code points.
- Theorem `inRanges_shiftBy`: a mapping whose runs all keep a property keeps it.
- Theorem `toNat_shiftChar`: a mapping that keeps the code points of characters
  moves characters as it moves their code points.
-/

namespace Dialogue.Text

/-! ## Spans with one answer -/

/-- The answer that the ranges give at all code points from `a` to `b`, if it is
the same for all of them. -/
def spanAnswer (a b : Nat) : List (Nat × Nat) → Option Bool
  | [] => some false
  | (first, last) :: ranges =>
    bif Nat.ble first a then
      bif Nat.ble a last then (bif Nat.ble b last then some true else none)
      else spanAnswer a b ranges
    else bif Nat.ble first b then none
    else some false

/-- A span with one answer gives it at each of its code points. -/
theorem inRanges_of_spanAnswer {a b n : Nat} {ranges : List (Nat × Nat)} {answer : Bool}
    (h : spanAnswer a b ranges = some answer) (ha : a ≤ n) (hb : n ≤ b) :
    inRanges ranges n = answer := by
  induction ranges with
  | nil => simpa [spanAnswer, inRanges] using h
  | cons range ranges ih =>
    rcases range with ⟨first, last⟩
    simp only [spanAnswer, cond_eq_ite, Nat.ble_eq] at h
    split at h
    · have hfirst : ¬ n < first := by omega
      split at h
      · split at h
        · have hlast : n ≤ last := by omega
          simpa [inRanges, hfirst, hlast] using h
        · simp at h
      · have hlast : ¬ n ≤ last := by omega
        simpa [inRanges, hfirst, hlast] using ih h
    · split at h
      · simp at h
      · have hbelow : n < first := by omega
        simpa [inRanges, hbelow] using h

/-- A code point in the ranges lies in one of them. -/
theorem exists_of_inRanges {n : Nat} {ranges : List (Nat × Nat)} (h : inRanges ranges n = true) :
    ∃ range ∈ ranges, range.1 ≤ n ∧ n ≤ range.2 := by
  induction ranges with
  | nil => simp [inRanges] at h
  | cons range ranges ih =>
    rcases range with ⟨first, last⟩
    simp only [inRanges] at h
    split at h
    · simp at h
    · rename_i hfirst
      split at h
      · rename_i hlast
        exact ⟨(first, last), List.mem_cons_self, Nat.le_of_not_lt hfirst, hlast⟩
      · rcases ih h with ⟨other, hmem, hother⟩
        exact ⟨other, List.mem_cons_of_mem _ hmem, hother⟩

/-- A code point in ranges that are outside of other ranges is outside of those. -/
theorem inRanges_eq_false_of_spanAnswer {n : Nat} {ranges others : List (Nat × Nat)}
    (h : ∀ range ∈ ranges, spanAnswer range.1 range.2 others = some false)
    (hn : inRanges ranges n = true) : inRanges others n = false := by
  rcases exists_of_inRanges hn with ⟨range, hmem, hfirst, hlast⟩
  exact inRanges_of_spanAnswer (h range hmem) hfirst hlast

/-! ## Runs that keep a property -/

/-- The code points that a run moves. -/
def Shift.codes (run : Shift) : List Nat :=
  (List.range ((run.last - run.first) / run.step + 1)).map fun k => run.first + k * run.step

/-- Whether the code points from `a` to `b` have one answer that they keep when
they are moved by the offset of a run. -/
def Shift.keepsSpan (run : Shift) (ranges : List (Nat × Nat)) (a b : Nat) : Bool :=
  match spanAnswer a b ranges,
    spanAnswer (a + run.offset).toNat (b + run.offset).toNat ranges with
  | some before, some after => before == after
  | _, _ => false

/-- Whether a run keeps the property that the ranges give: as a whole, or at each
code point that it moves. -/
def Shift.keeps (run : Shift) (ranges : List (Nat × Nat)) : Bool :=
  run.keepsSpan ranges run.first run.last || run.codes.all fun n => run.keepsSpan ranges n n

/-- A code point in the reach of a run that lies on one of its steps is moved by
the run. -/
theorem Shift.mem_codes {run : Shift} {n : Nat} (hfirst : run.first ≤ n) (hlast : n ≤ run.last)
    (hstep : (n - run.first) % run.step = 0) : n ∈ run.codes := by
  have hdiv : (n - run.first) / run.step ≤ (run.last - run.first) / run.step :=
    Nat.div_le_div_right (by omega)
  have hmul : (n - run.first) / run.step * run.step = n - run.first := by
    have := Nat.div_add_mod (n - run.first) run.step
    rw [hstep, Nat.mul_comm] at this
    omega
  refine List.mem_map.2 ⟨(n - run.first) / run.step, List.mem_range.2 (by omega), ?_⟩
  omega

/-- A mapping leaves a code point where it is, or one of its runs moves it. -/
theorem shiftBy_eq_self_or (runs : List Shift) (n : Nat) :
    shiftBy runs n = n ∨
      ∃ run ∈ runs, run.first ≤ n ∧ n ≤ run.last ∧ n ∈ run.codes ∧
        shiftBy runs n = (n + run.offset).toNat := by
  induction runs with
  | nil => exact Or.inl rfl
  | cons run runs ih =>
    simp only [shiftBy]
    split
    · exact Or.inl rfl
    · rename_i hfirst
      split
      · rename_i hlast
        split
        · rename_i hstep
          have hn : n ∈ run.codes := Shift.mem_codes (by omega) hlast hstep
          exact Or.inr ⟨run, List.mem_cons_self, by omega, hlast, hn, rfl⟩
        · exact Or.inl rfl
      · rcases ih with hself | ⟨other, hmem, hmoved⟩
        · exact Or.inl hself
        · exact Or.inr ⟨other, List.mem_cons_of_mem run hmem, hmoved⟩

/-- A code point in a span that a run keeps has the same answer after the move. -/
theorem Shift.inRanges_of_keepsSpan {run : Shift} {ranges : List (Nat × Nat)} {a b n : Nat}
    (h : run.keepsSpan ranges a b = true) (ha : a ≤ n) (hb : n ≤ b) :
    inRanges ranges (n + run.offset).toNat = inRanges ranges n := by
  unfold keepsSpan at h
  split at h
  · rename_i before after hbefore hafter
    have heq : before = after := by simpa using h
    rw [inRanges_of_spanAnswer hbefore ha hb, heq]
    exact inRanges_of_spanAnswer hafter (by omega) (by omega)
  · simp at h

/-- A mapping whose runs all keep a property keeps it. -/
theorem inRanges_shiftBy {runs : List Shift} {ranges : List (Nat × Nat)}
    (h : runs.all (·.keeps ranges) = true) (n : Nat) :
    inRanges ranges (shiftBy runs n) = inRanges ranges n := by
  rcases shiftBy_eq_self_or runs n with hself | ⟨run, hmem, hfirst, hlast, hcode, hmoved⟩
  · rw [hself]
  · have hkeeps : run.keeps ranges = true := List.all_eq_true.1 h run hmem
    rw [hmoved]
    rcases Bool.or_eq_true_iff.1 hkeeps with hspan | hcodes
    · exact Shift.inRanges_of_keepsSpan hspan hfirst hlast
    · have hpoint := List.all_eq_true.1 hcodes n hcode
      exact Shift.inRanges_of_keepsSpan hpoint (Nat.le_refl n) (Nat.le_refl n)

/-! ## Characters -/

/-- The code points of characters. -/
def charRanges : List (Nat × Nat) := [(0, 0xD7FF), (0xE000, 0x10FFFF)]

/-- The code points of characters are the valid ones. -/
theorem inRanges_charRanges_iff {n : Nat} : inRanges charRanges n = true ↔ n.isValidChar := by
  simp only [charRanges, inRanges, Nat.isValidChar]
  grind

/-- A mapping that keeps the code points of characters moves characters as it
moves their code points. -/
theorem toNat_shiftChar {runs : List Shift} (h : runs.all (·.keeps charRanges) = true)
    (c : Char) : (shiftChar runs c).toNat = shiftBy runs c.toNat := by
  have hc : inRanges charRanges c.toNat = true := inRanges_charRanges_iff.2 c.valid
  have hmoved : (shiftBy runs c.toNat).isValidChar := by
    rw [← inRanges_charRanges_iff, inRanges_shiftBy h, hc]
  rw [shiftChar, Char.ofNat, dif_pos hmoved]
  rfl

/-- A mapping of characters keeps a property that all its runs keep. -/
theorem inRanges_shiftChar {runs : List Shift} {ranges : List (Nat × Nat)}
    (hchars : runs.all (·.keeps charRanges) = true) (h : runs.all (·.keeps ranges) = true)
    (c : Char) : inRanges ranges (shiftChar runs c).toNat = inRanges ranges c.toNat := by
  rw [toNat_shiftChar hchars, inRanges_shiftBy h]

end Dialogue.Text
