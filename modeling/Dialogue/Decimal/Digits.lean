/-!
# Decimal digits

The value of a text of digits, numbers with zeros before them, as in dates, and
fractions without zeros at their end, as in durations.

Main results:

- `ofDigits_lt`: a number is bounded by its count of digits.
- `dropEndZeros_append_zero`: a zero at the end of a fraction does not matter.
- `length_paddedDigits`: a number is filled up to its width.
-/

namespace Dialogue.Decimal

/-! ## Reading -/

/-- The number that begins with `n` and goes on with digits. -/
def continueWith (n : Nat) (digits : List Char) : Nat :=
  digits.foldl (fun n c => n * 10 + (c.toNat - '0'.toNat)) n

/-- The value of a list of digits. -/
def ofDigits (digits : List Char) : Nat := continueWith 0 digits

/-- The value of a text of digits, at least one. -/
def natural? (s : List Char) : Option Nat :=
  if s.isEmpty ∨ !s.all Char.isDigit then none else some (ofDigits s)

/-- The value of a digit. -/
theorem toNat_sub_lt {c : Char} (h : c.isDigit = true) : c.toNat - '0'.toNat < 10 := by
  simp only [Char.isDigit, Bool.and_eq_true, decide_eq_true_eq, UInt32.le_iff_toNat_le] at h
  have h0 : '0'.toNat = 48 := rfl
  have h9 : c.val.toNat ≤ 57 := h.2
  simp only [Char.toNat] at *
  omega

/-- Each digit makes a number less than ten times as large. -/
theorem continueWith_lt (n : Nat) (digits : List Char) (h : digits.all Char.isDigit = true) :
    continueWith n digits < (n + 1) * Nat.pow 10 digits.length := by
  induction digits generalizing n with
  | nil => simp [continueWith]
  | cons c digits ih =>
    simp only [List.all_cons, Bool.and_eq_true] at h
    have hc := toNat_sub_lt h.1
    refine Nat.lt_of_lt_of_le (ih (n * 10 + (c.toNat - '0'.toNat)) h.2) ?_
    have hpow : Nat.pow 10 (c :: digits).length = Nat.pow 10 digits.length * 10 := rfl
    rw [hpow, Nat.mul_comm (Nat.pow 10 _) 10, ← Nat.mul_assoc]
    refine Nat.mul_le_mul_right _ ?_
    omega

/-- A number is bounded by its count of digits. -/
theorem ofDigits_lt {digits : List Char} (h : digits.all Char.isDigit = true) :
    ofDigits digits < Nat.pow 10 digits.length := by
  have := continueWith_lt 0 digits h
  rwa [Nat.zero_add, Nat.one_mul] at this

/-! ## Writing -/

/-- The digits of a number with leading zeros up to a number of digits. -/
def paddedDigits (width n : Nat) : List Char :=
  let digits := Nat.toDigits 10 n
  List.replicate (width - digits.length) '0' ++ digits

/-- A number with leading zeros up to a number of digits. -/
def padded (width n : Nat) : String := String.ofList (paddedDigits width n)

/-- A number is filled up to its width. -/
theorem length_paddedDigits (width n : Nat) :
    (paddedDigits width n).length = max width (Nat.toDigits 10 n).length := by
  simp only [paddedDigits, List.length_append, List.length_replicate]
  omega

/-- Digits without the zeros at their end. -/
def dropEndZeros (digits : List Char) : List Char := (digits.reverse.dropWhile (· == '0')).reverse

/-- A zero at the end of a fraction does not matter. -/
theorem dropEndZeros_append_zero (digits : List Char) :
    dropEndZeros (digits ++ ['0']) = dropEndZeros digits := by
  simp [dropEndZeros]

/-- The fraction `n / 10 ^ width`, with its point and as few digits as it needs;
nothing if it is zero. -/
def fraction (width n : Nat) : String :=
  let digits := dropEndZeros (paddedDigits width n)
  if digits.isEmpty then "" else "." ++ String.ofList digits

end Dialogue.Decimal
