import Dialogue.Config.Value
import Dialogue.Decimal.Double
import Dialogue.Markup.Entity

/-!
# Numbers in configuration files

An integer is written in decimal, or after a mark in base sixteen, eight or two,
with underscores between its digits, and must fit into 64 bits.  Other numbers
must be well formed and not too large for double precision.

Main results:

- `integerOf_isSome_iff`: an integer is accepted exactly between its bounds.
-/

namespace Dialogue.Config.Toml

open Decimal (Scientific)

/-! ## Digits -/

/-- The digits of a number after its first one, between which underscores may
stand, and what follows them. -/
def moreDigits (isDigit : Char → Bool) : List Char → Option (List Char × List Char)
  | '_' :: c :: s =>
    if isDigit c then (moreDigits isDigit s).map fun (digits, rest) => (c :: digits, rest) else none
  | ['_'] => none
  | c :: s =>
    if isDigit c then (moreDigits isDigit s).map fun (digits, rest) => (c :: digits, rest)
    else some ([], c :: s)
  | [] => some ([], [])

/-- The digits at the beginning of a text, at least one, and what follows
them. -/
def someDigits (isDigit : Char → Bool) : List Char → Option (List Char × List Char)
  | c :: s =>
    if isDigit c then (moreDigits isDigit s).map fun (digits, rest) => (c :: digits, rest) else none
  | [] => none

/-- Whether a character is a digit in a base. -/
def isDigitIn (base : Nat) (c : Char) : Bool := (Markup.digitValue? base c).isSome

/-- The value of digits in a base. -/
def valueOf (base : Nat) (digits : List Char) : Nat :=
  digits.foldl (fun n c => n * base + (Markup.digitValue? base c).getD 0) 0

/-- An integer, if it fits into 64 bits. -/
def integerOf (n : Int) : Option Value :=
  if -0x8000000000000000 ≤ n ∧ n < 0x8000000000000000 then some (.integer n) else none

/-- An integer is accepted exactly between its bounds. -/
theorem integerOf_isSome_iff (n : Int) :
    (integerOf n).isSome ↔ -0x8000000000000000 ≤ n ∧ n < 0x8000000000000000 := by
  unfold integerOf
  split
  · rename_i h
    simp only [Option.isSome_some, and_self, h]
  · rename_i h
    simp only [Option.isSome_none, Bool.false_eq_true, h]

/-! ## Numbers -/

/-- The digits of a decimal number, which begin with zero only if there is no
other, and what follows them. -/
def decimalDigits (s : List Char) : Option (List Char × List Char) :=
  match s with
  | '0' :: rest => some (['0'], rest)
  | s => someDigits Char.isDigit s

/-- An exponent after its letter, and what follows it. -/
def readExponent (s : List Char) : Option (Int × List Char) :=
  let (isNegative, s) :=
    match s with
    | '+' :: s => (false, s)
    | '-' :: s => (true, s)
    | s => (false, s)
  (someDigits Char.isDigit s).map fun (digits, rest) =>
    let n : Int := valueOf 10 digits
    (if isNegative then -n else n, rest)

/-- The fraction and the exponent of a number, and what follows them; nothing if
it has none of them. -/
inductive Tail where
  | none
  | malformed
  | ended (fraction : List Char) (exponent : Int) (rest : List Char)

/-- The exponent of a number after its fraction, if there is one. -/
def Tail.ofExponent (fraction s : List Char) : Tail :=
  match s with
  | c :: rest =>
    if c = 'e' ∨ c = 'E' then
      match readExponent rest with
      | some (exponent, rest) => ended fraction exponent rest
      | Option.none => malformed
    else none
  | [] => none

/-- What stands after the digits of a decimal number. -/
def Tail.of (s : List Char) : Tail :=
  match s with
  | '.' :: rest =>
    match someDigits Char.isDigit rest with
    | some (fraction, rest) =>
      match ofExponent fraction rest with
      | none => ended fraction 0 rest
      | tail => tail
    | Option.none => malformed
  | s => ofExponent [] s

/-- The number with given digits before and after its point and an exponent. -/
def decimalOf (whole fraction : List Char) (exponent : Int) : Scientific :=
  ⟨valueOf 10 (whole ++ fraction), exponent - fraction.length⟩

/-- A decimal number after its sign, and what follows it.  A number that is not an
integer must not be too large, while it can be as far below zero as it likes. -/
def readDecimal (isNegative : Bool) (s : List Char) : Option (Value × List Char) := do
  let (digits, rest) ← decimalDigits s
  match Tail.of rest with
  | .malformed => none
  | .ended fraction exponent rest =>
    if !isNegative && (decimalOf digits fraction exponent).isTooLarge then none
    else return (.number, rest)
  | .none =>
    let n := valueOf 10 digits
    return (← integerOf (if isNegative then -n else n), rest)

/-- A number after its sign, and what follows it. -/
def readUnsigned (isNegative : Bool) (s : List Char) : Option (Value × List Char) :=
  match s with
  | 'i' :: 'n' :: 'f' :: rest => some (.number, rest)
  | 'n' :: 'a' :: 'n' :: rest => some (.number, rest)
  | s => readDecimal isNegative s

/-- An integer in another base, after its mark, and what follows it. -/
def readInBase (base : Nat) (s : List Char) : Option (Value × List Char) := do
  let (digits, rest) ← someDigits (isDigitIn base) s
  return (← integerOf (valueOf base digits), rest)

/-- A number, and what follows it. -/
def readNumber (s : List Char) : Option (Value × List Char) :=
  match s with
  | '+' :: s => readUnsigned false s
  | '-' :: s => readUnsigned true s
  | '0' :: 'x' :: s => readInBase 16 s
  | '0' :: 'o' :: s => readInBase 8 s
  | '0' :: 'b' :: s => readInBase 2 s
  | s => readUnsigned false s

end Dialogue.Config.Toml
