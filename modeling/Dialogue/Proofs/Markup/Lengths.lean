import Dialogue.Proofs.Markup.Traversal
import Dialogue.Proofs.Text.Words

/-!
# Lengths of texts and sources

The texts of a document are no longer than its source: what is not text itself is markup, and an
entity is longer than the character that it stands for.  In a source with open elements there is
room for their end tags besides.  A source that has no other characters consists of these end tags
and of texts that are written as they are.

Main results:

- Theorem `eq_of_splitAtEnd`, `eq_of_splitAtTagEnd`: the content of markup, its end, and the rest
  make up a source.
- Theorem `read_markup`: a piece of markup takes more room than it needs, unless it is an end tag.
- Theorem `fits_of_readPieces`: a source has room for its texts and for the end tags of the open
  elements, and if there is no other room, then there are no special characters in its texts.
-/

namespace Dialogue.Markup

open Text

/-! ## Room for texts and end tags -/

/-- The number of characters in the texts among marks. -/
def textLength : List Mark → Nat
  | [] => 0
  | .text content :: marks => content.toList.length + textLength marks
  | .opened _ _ :: marks => textLength marks
  | .closed _ :: marks => textLength marks

/-- The number of characters in the end tags of open elements. -/
def closingLength : List String → Nat
  | [] => 0
  | name :: names => name.toList.length + 3 + closingLength names

/-- The texts of marks in a row. -/
theorem textLength_append (marks later : List Mark) :
    textLength (marks ++ later) = textLength marks + textLength later := by
  induction marks with
  | nil => simp [textLength]
  | cons mark marks ih => cases mark <;> simp [textLength, ih, Nat.add_assoc]

/-- The marks of a text have no more characters than the text. -/
theorem textLength_textMarks_le (content : String) :
    textLength (textMarks content) ≤ content.toList.length := by
  unfold textMarks
  split <;> simp [textLength]

/-! ## Entities -/

/-- A text is no longer than it is spelled. -/
theorem Spells.length_le {s t : List Char} (h : Spells s t) : t.length ≤ s.length := by
  induction h with
  | nil => simp
  | char _ _ ih => simpa using ih
  | entity _ _ _ ih =>
    simp only [List.cons_append, List.length_cons, List.length_append]
    omega

/-- A text that is spelled with entities is shorter. -/
theorem Spells.not_mem_of_length_le {s t : List Char} (h : Spells s t)
    (hlength : s.length ≤ t.length) : '&' ∉ s := by
  induction h with
  | nil => simp
  | char hc _ ih =>
    rw [List.mem_cons, not_or]
    exact ⟨hc.symm, ih (by simpa using hlength)⟩
  | entity _ _ h _ =>
    have hle := h.length_le
    simp only [List.cons_append, List.length_cons, List.length_append] at hlength
    omega

/-! ## Ends of markup -/

/-- The content of markup, its end and the rest make up the text. -/
theorem eq_of_splitAtEnd {isEnd : List Char → Bool} {seen s content rest : List Char}
    (h : splitAtEnd isEnd seen s = some (content, rest)) :
    seen.reverse ++ s = content ++ '>' :: rest := by
  induction s generalizing seen with
  | nil => simp [splitAtEnd] at h
  | cons c s ih =>
    rw [splitAtEnd] at h
    split at h
    · rename_i hend
      cases h
      rw [hend.1]
    · rw [← ih h, List.reverse_cons, List.append_assoc]
      rfl

/-- The content of a tag, its end and the rest make up the text. -/
theorem eq_of_splitAtTagEnd {quote : Option Char} {seen s content rest : List Char}
    (h : splitAtTagEnd quote seen s = some (content, rest)) :
    seen.reverse ++ s = content ++ '>' :: rest := by
  induction s generalizing seen quote with
  | nil => simp [splitAtTagEnd] at h
  | cons c s ih =>
    simp only [splitAtTagEnd] at h
    split at h
    · rw [← ih h, List.reverse_cons, List.append_assoc]
      rfl
    · split at h
      · rename_i hend
        cases h
        rw [hend]
      · rw [← ih h, List.reverse_cons, List.append_assoc]
        rfl

/-- An end tag is a slash, its content and an angle bracket. -/
theorem length_of_closeTag {s content rest : List Char}
    (h : markupPiece s = .ok (.closeTag content, rest)) :
    s.length = content.length + rest.length + 2 := by
  unfold markupPiece declarationPiece at h
  repeat' split at h
  all_goals cases h
  rename_i heq
  have hwhole := congrArg List.length (eq_of_splitAtTagEnd heq)
  simp only [List.length_append, List.length_cons, List.length_reverse, List.length_nil] at hwhole ⊢
  omega

/-- The content of a section of characters is shorter than the section. -/
theorem length_of_cdata {s content rest : List Char}
    (h : markupPiece s = .ok (.cdata content, rest)) : content.length + rest.length < s.length := by
  unfold markupPiece declarationPiece at h
  repeat' split at h
  all_goals cases h
  rename_i heq
  have hwhole := congrArg List.length (eq_of_splitAtEnd heq)
  simp only [List.length_append, List.length_cons, List.length_reverse, List.length_nil,
    List.length_take] at hwhole ⊢
  omega

/-- The name in an end tag is no longer than the content of the tag. -/
theorem length_closeName_le (content : List Char) :
    (closeName content).length ≤ content.length := by
  obtain ⟨blanks, hcontent, -⟩ := exists_dropEndWhile isTagBlank content
  unfold closeName
  split
  · exact Nat.le_refl _
  · exact List.IsPrefix.length_le ⟨blanks, hcontent.symm⟩

/-! ## Pieces -/

/-- A piece of markup takes more room than its text and its change of the end tags need, unless it
is an end tag. -/
theorem read_markup {s rest : List Char} {piece : Piece} {names names' : List String}
    {event : Event} (hpiece : markupPiece s = .ok (piece, rest))
    (hread : readPiece names piece = .ok (event, names')) :
    closingLength names + textLength event.marks + rest.length ≤ closingLength names' + s.length ∨
      closingLength names + rest.length ≤ closingLength names' + s.length + 1 ∧
        ∃ name, event = .closed name := by
  have hshorter := length_markupPiece hpiece
  cases piece with
  | text content => exact absurd hpiece markupPiece_ne_text
  | tag content =>
    refine .inl ?_
    rw [readPiece] at hread
    split at hread
    all_goals
      obtain ⟨⟨name, attributes⟩, -, hread⟩ := bind_eq_ok_iff.1 hread
      cases hread
      simp only [Event.marks, textLength, closingLength]
      omega
  | closeTag content =>
    have hlength := length_of_closeTag hpiece
    have hname := length_closeName_le content
    simp only [readPiece] at hread
    split at hread
    · cases hread
    · split at hread
      · rename_i expected outer hfound
        cases hread
        refine .inr ⟨?_, _, rfl⟩
        rw [closingLength, ← hfound, String.toList_ofList]
        omega
      · cases hread
  | cdata content =>
    refine .inl ?_
    cases hread
    have hle := textLength_textMarks_le (String.ofList content)
    have hcontent := length_of_cdata hpiece
    rw [String.toList_ofList] at hle
    simp only [Event.marks]
    omega
  | instruction | comment =>
    refine .inl ?_
    cases hread
    simp only [Event.marks, textLength]
    omega
  | doctype content =>
    refine .inl ?_
    rw [readPiece] at hread
    split at hread
    · cases hread
    · cases hread
      simp only [Event.marks, textLength]
      omega

/-- A text piece has at least as many characters as its text, and if it has no more, then it is
this text, without entities. -/
theorem read_text {content : List Char} {names names' : List String} {event : Event}
    (hread : readPiece names (.text content) = .ok (event, names')) :
    names' = names ∧ textLength event.marks ≤ content.length ∧
      (content.length ≤ textLength event.marks →
        event.marks ⊆ [.text (String.ofList content)] ∧ '&' ∉ content) := by
  obtain ⟨t, hunescape, hread⟩ := bind_eq_ok_iff.1 hread
  cases hread
  cases hspelled : unescape content with
  | error fault =>
    rw [hspelled] at hunescape
    cases hunescape
  | ok t' =>
    rw [hspelled] at hunescape
    cases hunescape
    have hspells := unescape_eq_ok_iff.1 hspelled
    have hle := textLength_textMarks_le (String.ofList t)
    rw [String.toList_ofList] at hle
    refine ⟨rfl, hle.trans hspells.length_le, fun hlength => ?_⟩
    have hentities := hspells.not_mem_of_length_le (hlength.trans hle)
    have hself : t = content := by
      rw [unescape_eq_self hentities] at hspelled
      cases hspelled
      rfl
    refine ⟨?_, hentities⟩
    rw [hself, Event.marks, textMarks]
    split
    · exact List.nil_subset _
    · exact List.Subset.refl _

/-! ## Whole sources -/

/-- A source has room for the texts among marks and for end tags: it has at least as many
characters, and if it has no more, then there are no special characters in the texts. -/
structure Fits (names : List String) (marks : List Mark) (s : List Char) : Prop where
  le : closingLength names + textLength marks ≤ s.length
  tight : s.length ≤ closingLength names + textLength marks →
    ∀ content, Mark.text content ∈ marks → '<' ∉ content.toList ∧ '&' ∉ content.toList

/-- A source has room for its texts if it has room for those behind a piece of markup. -/
theorem Fits.markup {s rest : List Char} {piece : Piece} {names names' : List String}
    {event : Event} {marks : List Mark} (hpiece : markupPiece s = .ok (piece, rest))
    (hread : readPiece names piece = .ok (event, names')) (h : Fits names' marks rest) :
    Fits names (event.marks ++ marks) ('<' :: s) := by
  have hle := h.le
  rcases read_markup hpiece hread with hroom | ⟨hroom, name, rfl⟩
  · constructor <;> rw [textLength_append, List.length_cons]
    · omega
    · intro htight
      omega
  · rw [Event.marks, List.singleton_append]
    constructor <;> rw [textLength, List.length_cons]
    · omega
    · intro htight content hmem
      exact h.tight (by omega) content (List.mem_of_ne_of_mem Mark.noConfusion hmem)

/-- A source has room for its texts if it has room for those behind a text in front of markup. -/
theorem Fits.text {content rest : List Char} {names names' : List String} {event : Event}
    {marks : List Mark} (hcontent : ∀ c ∈ content, isTextChar c = true)
    (hread : readPiece names (.text content) = .ok (event, names')) (h : Fits names' marks rest) :
    Fits names (event.marks ++ marks) (content ++ rest) := by
  obtain ⟨rfl, hlength, hentities⟩ := read_text hread
  have hle := h.le
  constructor <;> rw [textLength_append, List.length_append]
  · omega
  · intro htight text hmem
    rcases List.mem_append.1 hmem with hhere | hlater
    · obtain ⟨hmarks, hnone⟩ := hentities (by omega)
      cases List.mem_singleton.1 (hmarks hhere)
      rw [String.toList_ofList]
      exact ⟨fun hopening => absurd (hcontent '<' hopening) (by decide), hnone⟩
    · exact h.tight (by omega) text hlater

/-- The events of pieces are that of the first one and those of the others. -/
theorem exists_of_readPieces_cons {names : List String} {piece : Piece} {pieces : List Piece}
    {events : List Event} (h : readPieces names (piece :: pieces) = .ok events) :
    ∃ event later, readPiece names piece = .ok (event, openAfter names event) ∧
      readPieces (openAfter names event) pieces = .ok later ∧ events = event :: later := by
  obtain ⟨⟨event, names'⟩, hevent, hrest⟩ := bind_eq_ok_iff.1 h
  obtain ⟨later, hlater, hevents⟩ := bind_eq_ok_iff.1 hrest
  cases hevents
  have hnames := (names_of_readPiece hevent).1
  subst hnames
  exact ⟨event, later, hevent, hlater, rfl⟩

/-- A source has room for the texts that are read from it and for the end tags of the elements that
are open at its beginning, if none is left open at its end. -/
theorem fits_of_readPieces (s : List Char) {names : List String} {events : List Event}
    (hfault : (cutPieces s).fault = none)
    (hread : readPieces names (cutPieces s).pieces = .ok events)
    (hclosed : events.foldl openAfter names = []) :
    Fits names (events.flatMap Event.marks) s := by
  fun_induction cutPieces s generalizing names events with
  | case1 =>
    cases hread
    have hnames : names = [] := hclosed
    subst hnames
    exact ⟨Nat.le_refl _, fun _ _ hmem => absurd hmem List.not_mem_nil⟩
  | case2 s piece rest hpiece ih =>
    obtain ⟨event, later, hevent, hlater, rfl⟩ := exists_of_readPieces_cons hread
    rw [List.flatMap_cons]
    exact .markup hpiece hevent (ih hfault hlater hclosed)
  | case3 => cases hfault
  | case4 c s hc ih =>
    obtain ⟨event, later, hevent, hlater, rfl⟩ := exists_of_readPieces_cons hread
    have hcontent : ∀ d ∈ c :: s.takeWhile isTextChar, isTextChar d = true := by
      rw [List.forall_mem_cons]
      exact ⟨bne_iff_ne.2 hc, fun d hd => List.mem_takeWhile_imp hd⟩
    have hwhole := Fits.text hcontent hevent (ih hfault hlater hclosed)
    rw [List.flatMap_cons]
    rwa [List.cons_append, List.takeWhile_append_dropWhile] at hwhole

end Dialogue.Markup
