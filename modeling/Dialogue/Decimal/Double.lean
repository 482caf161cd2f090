/-!
# Double-precision numbers

A double-precision number is a significand of at most 53 bits times a power of
two.  This module rounds quotients to such numbers and writes them with the
fewest decimal digits that are read back as the same number.
-/

namespace Dialogue.Decimal

/-! ## Rounding -/

/-- The number `significand * 2 ^ exponent`, which is not negative. -/
structure Double where
  significand : Nat
  exponent : Int
  deriving DecidableEq, Repr

/-- The number of bits of a significand. -/
def significandBits : Nat := 53

/-- The exponent of the smallest numbers. -/
def minExponent : Int := -1074

/-- The greatest exponent. -/
def maxExponent : Int := 971

/-- The nearest whole number to a quotient; of two the even one. -/
def roundQuotient (numerator denominator : Nat) : Nat :=
  let quotient := numerator / denominator
  let rest := 2 * (numerator % denominator)
  if rest < denominator ∨ (rest = denominator ∧ quotient % 2 = 0) then quotient else quotient + 1

/-- `numerator / denominator / 2 ^ exponent` as a quotient of whole numbers. -/
def scaled (numerator denominator : Nat) (exponent : Int) : Nat × Nat :=
  if 0 ≤ exponent then (numerator, denominator * Nat.pow 2 exponent.toNat)
  else (numerator * Nat.pow 2 (-exponent).toNat, denominator)

/-- The double that is nearest to a quotient; none if the quotient is too
large. -/
def nearest? (numerator denominator : Nat) : Option Double :=
  if numerator = 0 then some ⟨0, 0⟩
  else
    let estimate : Int := (Nat.log2 numerator : Int) - Nat.log2 denominator - significandBits
    let fits (exponent : Int) : Bool :=
      let (n, d) := scaled numerator denominator exponent
      roundQuotient n d < Nat.pow 2 significandBits
    let exponent :=
      if fits estimate then estimate
      else if fits (estimate + 1) then estimate + 1
      else estimate + 2
    let exponent := max exponent minExponent
    let (n, d) := scaled numerator denominator exponent
    if exponent ≤ maxExponent then some ⟨roundQuotient n d, exponent⟩ else none

/-- A double as a quotient of whole numbers. -/
def Double.quotient (x : Double) : Nat × Nat :=
  if 0 ≤ x.exponent then (x.significand * Nat.pow 2 x.exponent.toNat, 1)
  else (x.significand, Nat.pow 2 (-x.exponent).toNat)

/-- The double that is nearest to `10 ^ n`. -/
def powerOfTen? (n : Nat) : Option Double := nearest? (Nat.pow 10 n) 1

/-! ## Shortest decimals -/

/-- The decimal `digits * 10 ^ exponent`. -/
structure Scientific where
  digits : Nat
  exponent : Int
  deriving DecidableEq, Repr

/-- A decimal as a quotient of whole numbers. -/
def Scientific.quotient (x : Scientific) : Nat × Nat :=
  if 0 ≤ x.exponent then (x.digits * Nat.pow 10 x.exponent.toNat, 1)
  else (x.digits, Nat.pow 10 (-x.exponent).toNat)

/-- The greatest number of digits before the point of a decimal that is certainly
not too large. -/
def safeDigits : Nat := 308

/-- Whether a decimal is too large for a double.  Only if it has one more digit
before its point than is safe, its value has to be looked at. -/
def Scientific.isTooLarge (s : Scientific) : Bool :=
  let size : Int := (Nat.toDigits 10 s.digits).length + s.exponent
  if s.digits = 0 ∨ size ≤ safeDigits then false
  else if size = safeDigits + 1 then
    let (n, d) := s.quotient
    (nearest? n d).isNone
  else true

/-- Whether a decimal is rounded to a double. -/
def reads (x : Double) (s : Scientific) : Bool :=
  let (n, d) := s.quotient
  match nearest? n d with
  | some y =>
    let (a, b) := x.quotient
    let (a', b') := y.quotient
    a * b' == a' * b
  | none => false

/-- The distance between a double and a decimal, as a quotient. -/
def distance (x : Double) (s : Scientific) : Nat × Nat :=
  let (a, b) := x.quotient
  let (n, d) := s.quotient
  (max (a * d) (n * b) - min (a * d) (n * b), b * d)

/-- The nearer of the two decimals with a given exponent that enclose a double,
among those that are rounded to it. -/
def neighbour? (x : Double) (exponent : Int) : Option Scientific :=
  let (a, b) := x.quotient
  let below :=
    if 0 ≤ exponent then a / (b * Nat.pow 10 exponent.toNat)
    else a * Nat.pow 10 (-exponent).toNat / b
  let lower : Scientific := ⟨below, exponent⟩
  let upper : Scientific := ⟨below + 1, exponent⟩
  match reads x lower, reads x upper with
  | false, false => none
  | true, false => some lower
  | false, true => some upper
  | true, true =>
    let (p, q) := distance x lower
    let (p', q') := distance x upper
    if p * q' < p' * q ∨ (p * q' = p' * q ∧ below % 2 = 0) then some lower else some upper

/-- The first decimal that is rounded to a double, with the given exponent or
one of the next `digits` smaller ones. -/
def shorter? (x : Double) (exponent : Int) : (digits : Nat) → Option Scientific
  | 0 => none
  | digits + 1 =>
    match neighbour? x exponent with
    | some s => some s
    | none => shorter? x (exponent - 1) digits

/-- The greatest exponent that can be needed for a double. -/
def topExponent (x : Double) : Int :=
  let (a, b) := x.quotient
  ((Nat.toDigits 10 a).length : Int) - (Nat.toDigits 10 b).length + 1

/-- A decimal without trailing zeros among its digits, of which there are at most
`count`. -/
def Scientific.normal (s : Scientific) : (count : Nat) → Scientific
  | 0 => s
  | count + 1 =>
    if s.digits ≠ 0 ∧ s.digits % 10 = 0 then normal ⟨s.digits / 10, s.exponent + 1⟩ count else s

/-- The decimal with the fewest digits that is rounded to a double, and of those
the nearest. -/
def shortest (x : Double) : Scientific :=
  if x.significand = 0 then ⟨0, 0⟩
  else ((shorter? x (topExponent x) 21).getD ⟨0, 0⟩).normal 21

/-! ## Writing -/

/-- An exponent as it is shown, with a sign. -/
def writeExponent (n : Int) : String := "e" ++ (if n < 0 then "-" else "+") ++ toString n.natAbs

/-- A decimal as it is shown: positional between `0.00001` and `10 ^ 16`, else
with an exponent. -/
def Scientific.write (s : Scientific) : String :=
  let digits := Nat.toDigits 10 s.digits
  let point : Int := digits.length + s.exponent
  let zeros (n : Int) : List Char := List.replicate n.toNat '0'
  if s.digits = 0 then "0.0"
  else if 0 ≤ s.exponent ∧ point ≤ 16 then String.ofList (digits ++ zeros s.exponent) ++ ".0"
  else if 0 < point ∧ point ≤ 16 then
    String.ofList (digits.take point.toNat ++ '.' :: digits.drop point.toNat)
  else if -5 < point ∧ point ≤ 0 then "0." ++ String.ofList (zeros (-point) ++ digits)
  else
    let tail := if digits.length = 1 then [] else '.' :: digits.drop 1
    String.ofList (digits.take 1 ++ tail) ++ writeExponent (point - 1)

end Dialogue.Decimal
