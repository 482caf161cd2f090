import Dialogue.Markup.Entity

/-!
# Attributes

The content of a tag is a name and a list of attributes, each a key, an equals
sign and a quoted value.  No two attributes of a tag have the same key.

Main results:

- `readAttributes_nil`: a tag that ends after its name has no attributes.
-/

namespace Dialogue.Markup

/-- Whether a character is white space between the parts of a tag. -/
def isTagBlank (c : Char) : Bool := c == ' ' || c == '\r' || c == '\n' || c == '\t'

/-- Whether a character can be part of a key. -/
def isKeyChar (c : Char) : Bool := c != '=' && !isTagBlank c

/-- Names and values in the order in which they are written. -/
abbrev Attributes := List (String × String)

/-- The value that begins after an equals sign at byte `position` of a tag of
`total` bytes: its text as written, the byte after it, and the rest of the
tag. -/
def readValue (position total : Nat) (s : List Char) :
    Except AttributeFault (List Char × Nat × List Char) :=
  let blanks := s.takeWhile isTagBlank
  match s.dropWhile isTagBlank with
  | [] => .error (.valueMissing total)
  | quote :: rest =>
    if quote = '"' ∨ quote = '\'' then
      let value := rest.takeWhile (· != quote)
      match rest.dropWhile (· != quote) with
      | [] => .error (.quoteMissing total quote)
      | _ :: after => .ok (value, position + byteLength blanks + byteLength value + 2, after)
    else .error (.valueUnquoted (position + byteLength blanks))

/-- What stands between a key and its value: the byte after the equals sign, and
the rest of the tag.  The key ends at byte `position`. -/
def readEquals (position : Nat) (s : List Char) : Except AttributeFault (Nat × List Char) :=
  let next := position + byteLength (s.takeWhile isTagBlank)
  match s.dropWhile isTagBlank with
  | '=' :: after => .ok (next + 1, after)
  | _ => .error (.keyNotFollowed next)

/-- A key must be new. -/
def checkKey (seen : List (List Char × Nat)) (key : List Char) (position : Nat) :
    Except AttributeFault Unit :=
  match seen.lookup key with
  | some previous => .error (.duplicated position previous)
  | none => .ok ()

/-- One attribute, whose first character is `c` at byte `position`: its key and
its value, the byte after it, and the rest of the tag. -/
def readAttribute (seen : List (List Char × Nat)) (position total : Nat) (c : Char)
    (s : List Char) : Except AttributeFault (List Char × List Char × Nat × List Char) := do
  let key := c :: s.takeWhile isKeyChar
  let rest := s.dropWhile isKeyChar
  let equals ← readEquals (position + byteLength key) rest
  checkKey seen key position
  let read ← readValue equals.1 total equals.2
  return (key, read)

/-- The text after a value is shorter than the text before it. -/
theorem length_readValue {position total : Nat} {s value after : List Char} {next : Nat}
    (h : readValue position total s = .ok (value, next, after)) : after.length < s.length := by
  have hb := length_dropWhile_le isTagBlank s
  simp only [readValue] at h
  split at h
  · simp at h
  · rename_i quote rest hs
    rw [hs, List.length_cons] at hb
    split at h
    · have hq := length_dropWhile_le (· != quote) rest
      split at h
      · simp at h
      · rename_i _ tail ht
        rw [ht, List.length_cons] at hq
        simp only [Except.ok.injEq, Prod.mk.injEq] at h
        obtain ⟨-, -, rfl⟩ := h
        omega
    · simp at h

/-- The text after an equals sign is shorter than the text before it. -/
theorem length_readEquals {position : Nat} {s after : List Char} {next : Nat}
    (h : readEquals position s = .ok (next, after)) : after.length < s.length := by
  have hb := length_dropWhile_le isTagBlank s
  simp only [readEquals] at h
  split at h
  · rename_i tail ht
    rw [ht, List.length_cons] at hb
    simp only [Except.ok.injEq, Prod.mk.injEq] at h
    obtain ⟨-, rfl⟩ := h
    omega
  · simp at h

/-- The text after an attribute is shorter than the text before it. -/
theorem length_readAttribute {seen : List (List Char × Nat)} {position total next : Nat}
    {c : Char} {s key value after : List Char}
    (h : readAttribute seen position total c s = .ok (key, value, next, after)) :
    after.length < s.length := by
  have hk := length_dropWhile_le isKeyChar s
  simp only [readAttribute, bind, Except.bind, pure, Except.pure] at h
  split at h
  · simp at h
  · rename_i equals hequals
    split at h
    · simp at h
    · split at h
      · simp at h
      · rename_i read hread
        simp only [Except.ok.injEq, Prod.mk.injEq] at h
        obtain ⟨-, rfl⟩ := h
        have := length_readEquals hequals
        have := length_readValue hread
        omega

/-- The attributes in the rest of a tag of `total` bytes, which begins at byte
`position`; `seen` holds the keys so far with their positions. -/
def readAttributes (seen : List (List Char × Nat)) (position total : Nat) (s : List Char) :
    Except Error Attributes :=
  match s with
  | [] => .ok []
  | c :: rest =>
    if isTagBlank c then readAttributes seen (position + c.utf8Size) total rest
    else
      match _h : readAttribute seen position total c rest with
      | .error fault => .error (.inAttribute fault)
      | .ok (key, value, next, after) => do
        let text ← (unescape value).mapError .inEntity
        let others ← readAttributes ((key, position) :: seen) next total after
        return (String.ofList key, String.ofList text) :: others
termination_by s.length
decreasing_by
  · simp
  · have := length_readAttribute _h
    simp only [List.length_cons]
    omega

/-- A tag that ends after its name has no attributes. -/
theorem readAttributes_nil (seen : List (List Char × Nat)) (position total : Nat) :
    readAttributes seen position total [] = .ok [] := by
  simp [readAttributes]

end Dialogue.Markup
