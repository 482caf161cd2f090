import Dialogue.Json.Fault

/-!
# Numbers in JSON

Numbers matter only where they do not belong: they are named in messages, and
they are passed over in values that nobody asks for.  A number without fraction
and exponent is an integer if it fits into 64 bits.
-/

namespace Dialogue.Json

open Decimal

/-! ## Digits -/

/-- The greatest integer that is kept exactly. -/
def maxInteger : Nat := 0xffffffffffffffff

/-- A number continued by digits as long as it does not get too large, and how
many digits have been used. -/
def appendDigits (n : Nat) : List Char → Nat × Nat
  | [] => (n, 0)
  | c :: digits =>
    let next := n * 10 + (c.toNat - '0'.toNat)
    if next ≤ maxInteger then
      let (result, used) := appendDigits next digits
      (result, used + 1)
    else (n, 0)

/-- What follows the digits at the beginning of a text. -/
def skipDigits (s : List Char) : List Char := s.dropWhile Char.isDigit

/-! ## Values -/

/-- The greatest power of ten that is a double. -/
def maxPower : Nat := 308

/-- The double next to a product of two doubles. -/
def product? (x y : Double) : Option Double :=
  let (a, b) := x.quotient
  let (c, d) := y.quotient
  nearest? (a * c) (b * d)

/-- The double next to a quotient of two doubles. -/
def ratio? (x y : Double) : Option Double :=
  let (a, b) := x.quotient
  let (c, d) := y.quotient
  nearest? (a * d) (b * c)

/-- A double divided by a power of ten, in steps of the greatest power that is a
double. -/
def scaleDown (x : Double) : (steps power : Nat) → Option Double
  | 0, power => do ratio? x (← powerOfTen? power)
  | steps + 1, power => do scaleDown (← ratio? x (← powerOfTen? maxPower)) steps power

/-- The double next to a whole number times a power of ten, unless it is too
large. -/
def decimalValue? (significand : Nat) (exponent : Int) : Option Double :=
  if significand = 0 then some ⟨0, 0⟩
  else if 0 ≤ exponent then
    if exponent ≤ maxPower then do
      product? (← nearest? significand 1) (← powerOfTen? exponent.toNat)
    else none
  else
    let power := exponent.natAbs
    if 2000 < power then some ⟨0, 0⟩
    else do
      let steps := (power - 1) / maxPower
      scaleDown (← nearest? significand 1) steps (power - steps * maxPower)

/-- The double next to a whole number times a power of ten. -/
def decimalValue (significand : Nat) (exponent : Int) : Except Fault Double :=
  match decimalValue? significand exponent with
  | some value => .ok value
  | none => .error .numberTooLarge

/-- The exponent after its letter: what it adds to the exponent of the number,
and what follows.  An exponent that is too large to be counted is cut off. -/
def readExponent (s : List Char) : Except Fault (Int × List Char) :=
  let (isNegative, s) := match s with
    | '+' :: s => (false, s)
    | '-' :: s => (true, s)
    | s => (false, s)
  match s with
  | [] => .error .endInValue
  | c :: _ =>
    if c.isDigit then
      let digits := s.takeWhile Char.isDigit
      let n : Int := min (digits.foldl (fun n c => n * 10 + (c.toNat - '0'.toNat)) 0) 0x7fffffff
      .ok (if isNegative then -n else n, skipDigits s)
    else .error .invalidNumber

/-- What follows the digits before the decimal point: whether the number is still
an integer, its significand and exponent, and what follows the number. -/
def readTail (isInteger : Bool) (significand : Nat) (exponent : Int) (s : List Char) :
    Except Fault (Bool × Nat × Int × List Char) :=
  match s with
  | '.' :: s =>
    let digits := s.takeWhile Char.isDigit
    let rest := skipDigits s
    if digits.isEmpty then .error (if rest.isEmpty then .endInValue else .invalidNumber)
    else
      let (significand, used) := appendDigits significand digits
      let exponent := exponent - used
      match rest with
      | c :: rest =>
        if c = 'e' ∨ c = 'E' then do
          let (more, rest) ← readExponent rest
          return (false, significand, exponent + more, rest)
        else .ok (false, significand, exponent, c :: rest)
      | [] => .ok (false, significand, exponent, [])
  | c :: rest =>
    if c = 'e' ∨ c = 'E' then do
      let (more, rest) ← readExponent rest
      return (false, significand, exponent + more, rest)
    else .ok (isInteger, significand, exponent, s)
  | [] => .ok (isInteger, significand, exponent, [])

/-- The value of a number after its sign. -/
def readNumber (isNegative : Bool) (s : List Char) : Except Fault Found := do
  let digits := s.takeWhile Char.isDigit
  match digits with
  | [] => .error (if s.isEmpty then .endInValue else .invalidNumber)
  | '0' :: _ :: _ => .error .invalidNumber
  | _ =>
    let (significand, used) := appendDigits 0 digits
    let ignored : Int := (digits.length - used : Nat)
    let (isInteger, significand, exponent, _) ←
      readTail (used == digits.length) significand ignored (skipDigits s)
    if isInteger && (!isNegative || (significand != 0 && significand ≤ 0x8000000000000000)) then
      return .integer (if isNegative then -significand else significand)
    else return .number isNegative (← decimalValue significand exponent)

/-! ## Passing over -/

/-- What follows an exponent, after its letter. -/
def skipExponent (s : List Char) : Except Fault (List Char) :=
  let s := match s with
    | '+' :: s => s
    | '-' :: s => s
    | s => s
  match s with
  | c :: rest => if c.isDigit then .ok (skipDigits rest) else .error .invalidNumber
  | [] => .error .invalidNumber

/-- What follows a fraction or an exponent, if there is one. -/
def skipTail (s : List Char) : Except Fault (List Char) :=
  match s with
  | '.' :: c :: rest =>
    if c.isDigit then
      match skipDigits rest with
      | e :: rest => if e = 'e' ∨ e = 'E' then skipExponent rest else .ok (e :: rest)
      | [] => .ok []
    else .error .invalidNumber
  | ['.'] => .error .invalidNumber
  | c :: rest => if c = 'e' ∨ c = 'E' then skipExponent rest else .ok (c :: rest)
  | [] => .ok []

/-- What follows a number, after its sign. -/
def skipNumber (s : List Char) : Except Fault (List Char) :=
  match s.takeWhile Char.isDigit with
  | [] => .error .invalidNumber
  | '0' :: _ :: _ => .error .invalidNumber
  | _ => skipTail (skipDigits s)

end Dialogue.Json
