import Dialogue.Decimal.Digits
import Mathlib.Algebra.Group.Nat.Defs

/-!
# Digits read back

A number that has been filled up with zeros is found again from its digits, and its digits
end where something else begins.

Main results:

- Theorem `ofDigits_paddedDigits`: the value of the digits of a number is the number.
- Theorem `takeWhile_isDigit_append`: digits end before what is not a digit.
-/

namespace Dialogue.Decimal

/-! ## Values -/

/-- The value of digits is that of the standard library. -/
theorem continueWith_eq_ofDigitChars (n : Nat) (digits : List Char) :
    continueWith n digits = Nat.ofDigitChars 10 digits n := by
  have hstep : (fun n (c : Char) => n * 10 + (c.toNat - '0'.toNat)) =
      fun n (c : Char) => 10 * n + (c.toNat - '0'.toNat) := by
    funext n c
    rw [Nat.mul_comm]
  rw [continueWith, Nat.ofDigitChars_eq_foldl, hstep]

/-- The value of the digits of a number is the number, whatever its width. -/
@[simp] theorem ofDigits_paddedDigits (width n : Nat) : ofDigits (paddedDigits width n) = n := by
  rw [ofDigits, continueWith_eq_ofDigitChars, paddedDigits, Nat.ofDigitChars_append,
    Nat.ofDigitChars_replicate_zero, Nat.mul_zero]
  exact Nat.ofDigitChars_ten_toDigits

/-! ## Characters -/

/-- A number is written in digits. -/
theorem isDigit_of_mem_paddedDigits {width n : Nat} {c : Char} (h : c ∈ paddedDigits width n) :
    c.isDigit = true := by
  rcases List.mem_append.1 h with hzero | hdigit
  · rw [List.eq_of_mem_replicate hzero]
    decide
  · exact Nat.isDigit_of_mem_toDigits (by decide) (by decide) hdigit

/-- A number has a digit. -/
theorem paddedDigits_ne_nil (width n : Nat) : paddedDigits width n ≠ [] := by
  intro hnil
  exact Nat.toDigits_ne_nil (List.append_eq_nil_iff.1 hnil).2

/-- A number below a power of ten has as many digits as the exponent says. -/
theorem length_paddedDigits_of_lt {width n : Nat} (hwidth : 0 < width) (hn : n < 10 ^ width) :
    (paddedDigits width n).length = width := by
  have hlength : (Nat.toDigits 10 n).length ≤ width :=
    (Nat.length_toDigits_le_iff (by decide) hwidth).2 hn
  rw [length_paddedDigits]
  omega

/-- Digits end before what is not a digit. -/
theorem takeWhile_isDigit_append {digits rest : List Char}
    (hdigits : ∀ c ∈ digits, c.isDigit = true) (hrest : ∀ c ∈ rest.head?, c.isDigit = false) :
    (digits ++ rest).takeWhile Char.isDigit = digits := by
  have hnone : rest.takeWhile Char.isDigit = [] := by
    cases rest with
    | nil => rfl
    | cons c rest =>
      have hc : c.isDigit = false := hrest c rfl
      simp [hc]
  rw [List.takeWhile_append_of_pos hdigits, hnone, List.append_nil]

end Dialogue.Decimal
