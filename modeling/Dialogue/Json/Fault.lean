import Dialogue.Decimal.Double
import Dialogue.Text.Printable

/-!
# Faults of JSON texts

Everything that can be wrong with a JSON text or with the value in it, with the
wording of its message.
-/

namespace Dialogue.Json

/-- A value that was found where another kind of value is expected. -/
inductive Found where
  | null
  | boolean (value : Bool)
  | integer (value : Int)
  /-- A number that is not kept as an integer. -/
  | number (isNegative : Bool) (magnitude : Decimal.Double)
  | text (value : String)
  | list
  | object
  deriving DecidableEq, Repr

/-- What is wrong with a JSON text. -/
inductive Fault where
  | endInValue
  | endInText
  | endInList
  | endInObject
  | expectedColon
  | expectedListEnd
  | expectedObjectEnd
  | expectedWord
  | expectedValue
  | invalidEscape
  | invalidNumber
  | numberTooLarge
  | invalidKey
  | controlCharacter
  | loneSurrogate
  | endOfSurrogate
  | trailingComma
  | trailing
  /-- A value of another kind than the expected one. -/
  | wrongType (found : Found) (expected : String)
  /-- A list that ends after `count` elements. -/
  | tooShort (count : Nat) (expected : String)
  | missingField (name : String)
  | duplicateField (name : String)
  /-- A text that is no value of its type, for a reason. -/
  | badText (reason : String)
  deriving DecidableEq, Repr

/-- How a value is named in messages. -/
def Found.describe : Found → String
  | null => "null"
  | boolean value => "boolean `" ++ (if value then "true" else "false") ++ "`"
  | integer value => "integer `" ++ toString value ++ "`"
  | number isNegative magnitude =>
    "floating point `" ++ (if isNegative then "-" else "") ++
      (Decimal.shortest magnitude).write ++ "`"
  | text value => "string " ++ Text.quote value
  | list => "sequence"
  | object => "map"

/-- The wording of a fault. -/
def Fault.message : Fault → String
  | endInValue => "EOF while parsing a value"
  | endInText => "EOF while parsing a string"
  | endInList => "EOF while parsing a list"
  | endInObject => "EOF while parsing an object"
  | expectedColon => "expected `:`"
  | expectedListEnd => "expected `,` or `]`"
  | expectedObjectEnd => "expected `,` or `\x7d`"
  | expectedWord => "expected ident"
  | expectedValue => "expected value"
  | invalidEscape => "invalid escape"
  | invalidNumber => "invalid number"
  | numberTooLarge => "number out of range"
  | invalidKey => "key must be a string"
  | controlCharacter => "control character (\\u0000-\\u001F) found while parsing a string"
  | loneSurrogate => "lone leading surrogate in hex escape"
  | endOfSurrogate => "unexpected end of hex escape"
  | trailingComma => "trailing comma"
  | trailing => "trailing characters"
  | wrongType found expected => "invalid type: " ++ found.describe ++ ", expected " ++ expected
  | tooShort count expected => "invalid length " ++ toString count ++ ", expected " ++ expected
  | missingField name => "missing field `" ++ name ++ "`"
  | duplicateField name => "duplicate field `" ++ name ++ "`"
  | badText reason => reason

end Dialogue.Json
