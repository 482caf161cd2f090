import Dialogue.Config.Toml.Text

/-!
# Texts in environment variables

A text between quotation marks has the escapes of configuration files.  What
stands before its first escape is cut off after as many bytes as it has
characters, so that a text which begins with characters of several bytes loses
some of them; a text without escapes is kept.

Main results:

- `keepBytes_length`: characters of one byte are all kept.
- `byteLength_of_keepBytes`: what is kept has the number of bytes that is asked
  for.
-/

namespace Dialogue.Config.Variable

/-- Why a text does not stand for a value. -/
inductive Fault where
  | malformed
  /-- A text is cut off inside of a character. -/
  | splitCharacter
  deriving DecidableEq, Repr

/-- The first characters that have a number of bytes together; nothing if a
character would have to be split. -/
def keepBytes : (count : Nat) → List Char → Option (List Char)
  | 0, _ => some []
  | _ + 1, [] => none
  | count + 1, c :: s =>
    if c.utf8Size ≤ count + 1 then (keepBytes (count + 1 - c.utf8Size) s).map (c :: ·) else none

/-- Characters of one byte are all kept. -/
theorem keepBytes_length (s : List Char) (h : ∀ c ∈ s, c.utf8Size = 1) :
    keepBytes s.length s = some s := by
  induction s with
  | nil => rfl
  | cons c s ih =>
    have hc := h c List.mem_cons_self
    simp [keepBytes, hc, ih fun d hd => h d (List.mem_cons_of_mem _ hd)]

/-- What is kept is the beginning of the text with that number of bytes. -/
theorem byteLength_of_keepBytes {count : Nat} {s kept : List Char}
    (h : keepBytes count s = some kept) : Markup.byteLength kept = count ∧ kept <+: s := by
  fun_induction keepBytes count s generalizing kept with
  | case1 s =>
    obtain rfl : [] = kept := by simpa using h
    exact ⟨rfl, List.nil_prefix⟩
  | case2 => simp at h
  | case3 count c s hle ih =>
    obtain ⟨rest, hrest, rfl⟩ := Option.map_eq_some_iff.1 h
    obtain ⟨hlen, hpre⟩ := ih hrest
    refine ⟨?_, List.cons_prefix_cons.2 ⟨rfl, hpre⟩⟩
    simp only [Markup.byteLength_cons, hlen]
    omega
  | case4 => simp at h

/-- Whether a text has an end: a quotation mark that is not escaped. -/
def isClosed : List Char → Bool
  | [] => false
  | ['\\'] => false
  | '\\' :: _ :: s => isClosed s
  | c :: s => c == '"' || isClosed s

/-- The result of a reader of which it does not matter why it fails. -/
def orMalformed {α : Type} : Option α → Except Fault α
  | some value => .ok value
  | none => .error .malformed

/-- The rest of a text in quotation marks, and what follows it. -/
def readQuoted (s : List Char) : Except Fault (List Char × List Char) :=
  let plain := s.takeWhile fun c => c != '"' && c != '\\'
  if !isClosed s || !plain.all Toml.isShown then .error .malformed
  else
    match s.drop plain.length with
    | '\\' :: rest =>
      match keepBytes plain.length plain with
      | some kept => orMalformed (Toml.readBasic kept.reverse (rest.length + 2) ('\\' :: rest))
      | none => .error .splitCharacter
    | rest => .ok (plain, rest.drop 1)

end Dialogue.Config.Variable
