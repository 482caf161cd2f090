import Dialogue.Text.Blank

/-!
# Cleaning texts

Rule sources are indented and answers are assembled from pieces.  Line breaks
of a source, with the blanks around them, count as one space; a finished answer
has no carriage returns and no blanks at its ends.

Main results:

- `collapseBreaks_of_not_mem`: a text without line feeds is left alone.
-/

namespace Dialogue.Text

/-! ## Line breaks -/

/-- Whether a text begins with a line break: spaces and tabs, then a line feed
that may follow a carriage return. -/
def startsBreak : List Char → Bool
  | '\n' :: _ => true
  | '\r' :: '\n' :: _ => true
  | ' ' :: s => startsBreak s
  | '\t' :: s => startsBreak s
  | _ => false

/-- The text with one space for every line break together with the blanks after
it.  With `skipping`, blanks at the beginning belong to a line break that has
been written already. -/
def collapseBreaks (skipping : Bool) : List Char → List Char
  | [] => []
  | c :: s =>
    if skipping && isBlank c then collapseBreaks true s
    else if startsBreak (c :: s) then ' ' :: collapseBreaks true s
    else c :: collapseBreaks false s

/-- The text with one space for every line break together with the blanks after
it. -/
def collapseLineBreaks (s : String) : String := String.ofList (collapseBreaks false s.toList)

/-- A line break has a line feed. -/
theorem mem_of_startsBreak {s : List Char} (h : startsBreak s = true) : '\n' ∈ s := by
  fun_induction startsBreak s <;> simp_all

/-- A text without line feeds is left alone. -/
theorem collapseBreaks_of_not_mem {s : List Char} (h : '\n' ∉ s) :
    collapseBreaks false s = s := by
  induction s with
  | nil => rfl
  | cons c s ih =>
    have hb : startsBreak (c :: s) = false := by
      cases hs : startsBreak (c :: s) with
      | false => rfl
      | true => exact absurd (mem_of_startsBreak hs) h
    have hs : '\n' ∉ s := fun hm => h (List.mem_cons_of_mem c hm)
    simp [collapseBreaks, hb, ih hs]

/-! ## Answers -/

/-- The text without carriage returns; a line feed right after one goes with
it. -/
def dropReturns : List Char → List Char
  | [] => []
  | '\r' :: '\n' :: s => dropReturns s
  | c :: s => if c = '\r' then dropReturns s else c :: dropReturns s

/-- The text as part of an answer: without carriage returns, and without blanks
at its ends. -/
def cleanChars (s : List Char) : List Char := trim (dropReturns s)

/-- The text as part of an answer: without carriage returns, and without blanks
at its ends. -/
def clean (s : String) : String := String.ofList (cleanChars s.toList)

end Dialogue.Text
