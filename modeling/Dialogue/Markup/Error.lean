/-!
# Faults of markup

Everything that can be wrong with a rule source, with the wording of its
message.  Positions count bytes of the UTF-8 form of the text.
-/

namespace Dialogue.Markup

/-! ## Causes -/

/-- What is wrong with a numeric character reference. -/
inductive ReferenceFault where
  | sign
  | invalidDigit
  | empty
  | tooLarge
  | notCodePoint (number : Nat)
  | zero
  deriving DecidableEq, Repr

/-- What is wrong with an entity in a text or an attribute value. -/
inductive EntityFault where
  /-- The name between byte `first` and byte `last` is not defined. -/
  | unknown (first last : Nat) (name : String)
  /-- The ampersand at byte `first` is never followed by a semicolon. -/
  | unterminated (first last : Nat)
  | reference (cause : ReferenceFault)
  deriving DecidableEq, Repr

/-- What is wrong with the attributes of a tag. -/
inductive AttributeFault where
  | keyNotFollowed (position : Nat)
  | valueMissing (position : Nat)
  | valueUnquoted (position : Nat)
  | duplicated (position previous : Nat)
  | quoteMissing (position : Nat) (quote : Char)
  deriving DecidableEq, Repr

/-- What is wrong with a rule source. -/
inductive Error where
  | unknownMarkup
  | unclosedInstruction
  | unclosedComment
  | unclosedDoctype
  | unclosedCData
  | unclosedTag
  | doctypeWithoutName
  /-- A closing tag while no element is open. -/
  | unmatchedClose (name : String)
  /-- A closing tag with another name than the innermost open element. -/
  | mismatchedClose (expected found : String)
  | inAttribute (cause : AttributeFault)
  | inEntity (cause : EntityFault)
  /-- A closing event while only the document is open. -/
  | unopened (name : String)
  /-- The text ends inside the named element. -/
  | leftOpen (name : String)
  deriving DecidableEq, Repr

/-! ## Wording -/

/-- The wording of a fault in a character reference. -/
def ReferenceFault.message : ReferenceFault → String
  | sign => "unexpected number sign"
  | invalidDigit => "invalid digit found in string"
  | empty => "cannot parse integer from empty string"
  | tooLarge => "number too large to fit in target type"
  | notCodePoint number => "`" ++ toString number ++ "` is not a valid codepoint"
  | zero => "0x0 character is not permitted in XML"

/-- The wording of a range of bytes. -/
def byteRange (first last : Nat) : String := toString first ++ ".." ++ toString last

/-- The wording of a fault in an entity. -/
def EntityFault.message : EntityFault → String
  | unknown first last name =>
    "at " ++ byteRange first last ++ ": unrecognized entity `" ++ name ++ "`"
  | unterminated first last =>
    "Error while escaping character at range " ++ byteRange first last ++
      ": Cannot find ';' after '&'"
  | reference cause => "invalid character reference: " ++ cause.message

/-- The wording of a fault in an attribute, after its position. -/
def AttributeFault.detail : AttributeFault → String
  | keyNotFollowed _ => "attribute key must be directly followed by `=` or space"
  | valueMissing _ => "`=` must be followed by an attribute value"
  | valueUnquoted _ => "attribute value must be enclosed in `\"` or `'`"
  | duplicated _ previous =>
    "duplicated attribute, previous declaration at position " ++ toString previous
  | quoteMissing _ quote => "missing closing quote `" ++ quote.toString ++ "` in attribute value"

/-- The byte of the tag at which a fault in an attribute is reported. -/
def AttributeFault.position : AttributeFault → Nat
  | keyNotFollowed position => position
  | valueMissing position => position
  | valueUnquoted position => position
  | duplicated position _ => position
  | quoteMissing position _ => position

/-- The wording of a fault in an attribute. -/
def AttributeFault.message (fault : AttributeFault) : String :=
  "position " ++ toString fault.position ++ ": " ++ fault.detail

/-- A fault in the division of the text into tags and texts. -/
def malformed (detail : String) : String := "syntax error: " ++ detail

/-- The wording of a construct whose end is missing. -/
def notClosed (construct terminator : String) : String :=
  malformed (construct ++ " not closed: `" ++ terminator ++ "` not found before end of input")

/-- A fault in the nesting of the elements. -/
def illFormed (detail : String) : String := "ill-formed document: " ++ detail

/-- The wording of a fault. -/
def Error.message : Error → String
  | unknownMarkup => malformed "unknown or missed symbol in markup"
  | unclosedInstruction => notClosed "processing instruction or xml declaration" "?>"
  | unclosedComment => notClosed "comment" "-->"
  | unclosedDoctype => notClosed "DOCTYPE" ">"
  | unclosedCData => notClosed "CDATA" "]]>"
  | unclosedTag => notClosed "tag" ">"
  | doctypeWithoutName =>
    illFormed "`<!DOCTYPE>` declaration does not contain a name of a document type"
  | unmatchedClose name => illFormed ("close tag `</" ++ name ++ ">` does not match any open tag")
  | mismatchedClose expected found =>
    illFormed ("expected `</" ++ expected ++ ">`, but `</" ++ found ++ ">` was found")
  | inAttribute cause => "error while parsing attribute: " ++ cause.message
  | inEntity cause => cause.message
  | unopened name => "unexpected closing tag </" ++ name ++ ">"
  | leftOpen name => "unexpected closing tag </EOF (<" ++ name ++ "> left open)>"

end Dialogue.Markup
