import Dialogue.Proofs.Markup.Traversal

/-!
# Open elements of the reader and of the tree

Two stacks are kept while a text is read.  The reader keeps the names of the elements that are
open, since a closing tag must have the name of the innermost one.  The tree is built on a stack of
its own, which has these elements with their content so far, and the document node under them.
Nothing but the events goes from the one to the other, and yet the stacks always go together: so a
closing tag that the reader lets pass always closes an element of the tree.

Main results:

- Theorem `Progress.Sound.read`, `Progress.Sound.readAll`: building the tree does not fail while
  the text is read, and keeps the stacks together.
- Theorem `parse_eq_readThrough`: the document of a text is built in one pass over its pieces.
- Theorem `isUnbalanced_of_readThrough`: no fault of the reader is about an element of the tree.
- Theorem `parse_ne_unopened`, `parse_eq_leftOpen_iff`: which faults about elements there are.
- Theorem `stacks_together`: what the stacks are throughout, and what follows for the document and
  for the faults of a text.
-/

namespace Dialogue.Markup

/-! ## The two stacks -/

namespace Progress

/-- Whether the stack of the tree is the document node under one element for each name of the
reader, with the same local names in the same order. -/
def Together (p : Progress) : Prop :=
  ∃ opened nodes, p.stack = opened ++ [.mk "" [] nodes] ∧
    opened.map Element.name = p.names.map localName

/-- Whether the stack of the tree holds what has been read, in the elements of the reader. -/
def Sound (p : Progress) : Prop := ∃ marks, Holds p.names marks p.stack

/-- Before anything is read there is only the document node. -/
theorem sound_start : start.Sound := ⟨_, .document []⟩

end Progress

/-- Elements that hold what has been read are those that the reader has open. -/
theorem Holds.together {names : List String} {marks : List Mark} {stack : Stack}
    (h : Holds names marks stack) : Progress.Together ⟨names, stack⟩ := by
  induction h with
  | document nodes => exact ⟨[], nodes, rfl, rfl⟩
  | inside name attributes nodes _ ih =>
    obtain ⟨opened, last, hstack, hnames⟩ := ih
    refine ⟨.mk (localName name) attributes nodes :: opened, last, ?_, ?_⟩
    · exact congrArg (_ :: ·) hstack
    · exact congrArg (_ :: ·) hnames

namespace Progress

variable {p q : Progress}

/-- The stacks go together. -/
theorem Sound.together (h : p.Sound) : p.Together := by
  obtain ⟨marks, hholds⟩ := h
  exact hholds.together

/-- When no element is open for the reader, the document is left alone. -/
theorem Sound.stack_of_nil (h : p.Sound) (hnames : p.names = []) :
    ∃ document, p.stack = [document] ∧ finish p.stack = .ok document := by
  obtain ⟨opened, nodes, hstack, hopened⟩ := h.together
  rw [hnames, List.map_nil, List.map_eq_nil_iff] at hopened
  rw [hopened, List.nil_append] at hstack
  rw [hstack]
  exact ⟨_, rfl, rfl⟩

/-- When an element is open for the reader, the tree is not finished, and the innermost element is
the one that is missing its closing tag. -/
theorem Sound.finish_of_cons (h : p.Sound) {inner : String} {outer : List String}
    (hnames : p.names = inner :: outer) :
    finish p.stack = .error (.leftOpen (localName inner)) := by
  obtain ⟨opened, nodes, hstack, hopened⟩ := h.together
  rw [hnames] at hopened
  cases opened with
  | nil => cases hopened
  | cons top others =>
    have htop : top.name = localName inner := (List.cons.inj hopened).1
    rw [hstack, ← htop]
    cases others <;> rfl

/-! ## Reading in one pass -/

/-- A piece is read, and an event is made of it, exactly if the reader takes it; the tree can always
be built on. -/
theorem Sound.read (h : p.Sound) (piece : Piece) :
    (∃ fault, readPiece p.names piece = .error fault ∧ p.read piece = .error fault) ∨
      ∃ event q, readPiece p.names piece = .ok (event, q.names) ∧
        step p.stack event = .ok q.stack ∧ p.read piece = .ok q ∧ q.Sound := by
  obtain ⟨marks, hholds⟩ := h
  cases hpiece : readPiece p.names piece with
  | error fault =>
    refine .inl ⟨fault, rfl, ?_⟩
    rw [Progress.read, hpiece]
    rfl
  | ok result =>
    obtain ⟨event, names⟩ := result
    obtain ⟨next, hstep, hnext⟩ := hholds.read hpiece
    rw [← (names_of_readPiece hpiece).1] at hnext
    have hread : p.read piece = .ok ⟨names, next⟩ :=
      bind_eq_ok_iff.2 ⟨_, hpiece, bind_eq_ok_iff.2 ⟨next, hstep, rfl⟩⟩
    exact .inr ⟨event, ⟨names, next⟩, rfl, hstep, hread, _, hnext⟩

/-- Pieces are read exactly if the reader takes them all, and the fault is that of the reader. -/
theorem Sound.readAll (h : p.Sound) (pieces : List Piece) :
    (∃ fault, readPieces p.names pieces = .error fault ∧ p.readAll pieces = .error fault) ∨
      ∃ events q, readPieces p.names pieces = .ok events ∧
        steps p.stack events = .ok q.stack ∧ p.readAll pieces = .ok q ∧ q.Sound := by
  induction pieces generalizing p with
  | nil => exact .inr ⟨[], p, rfl, rfl, rfl, h⟩
  | cons piece pieces ih =>
    rcases h.read piece with ⟨fault, hpiece, hread⟩ | ⟨event, mid, hpiece, hstep, hread, hmid⟩
    · refine .inl ⟨fault, ?_, ?_⟩
      · rw [readPieces, hpiece]
        rfl
      · rw [Progress.readAll, hread]
        rfl
    · have hpieces : readPieces p.names (piece :: pieces) =
          (readPieces mid.names pieces).bind fun events => .ok (event :: events) := by
        rw [readPieces, hpiece]
        rfl
      have hall : p.readAll (piece :: pieces) = mid.readAll pieces := by
        rw [Progress.readAll, hread]
        rfl
      rw [hpieces, hall]
      rcases ih hmid with ⟨fault, hlater, hrest⟩ | ⟨events, q, hlater, hsteps, hrest, hq⟩
      · refine .inl ⟨fault, ?_, hrest⟩
        rw [hlater]
        rfl
      · refine .inr ⟨event :: events, q, ?_, bind_eq_ok_iff.2 ⟨_, hstep, hsteps⟩, hrest, hq⟩
        rw [hlater]
        rfl

/-- The stacks go together after any pieces that are read. -/
theorem Sound.of_readAll (h : p.Sound) {pieces : List Piece} (hread : p.readAll pieces = .ok q) :
    q.Sound := by
  rcases h.readAll pieces with ⟨fault, -, hfault⟩ | ⟨_, q', -, -, hall, hq'⟩
  · rw [hread] at hfault
    cases hfault
  · rw [hread] at hall
    cases hall
    exact hq'

end Progress

/-- How far a text is read in one pass, in which every piece is built into the tree before the next
one is looked at: to its end, unless there is a fault. -/
def readThrough (text : String) : Except Error Progress := do
  let p ← Progress.start.readAll (cutText text).pieces
  match (cutText text).fault with
  | some fault => .error fault
  | none => return p

/-- The document of a text is what one pass over the text leaves, if nothing is left open. -/
theorem parse_eq_readThrough (text : String) :
    parse text = readThrough text >>= fun p => finish p.stack := by
  rw [parse, readEvents, readThrough]
  rcases Progress.sound_start.readAll (cutText text).pieces with
    ⟨fault, hpieces, hall⟩ | ⟨events, q, hpieces, hsteps, hall, -⟩
  · have hnames : readPieces [] (cutText text).pieces = .error fault := hpieces
    rw [hnames, hall]
    rfl
  · have hnames : readPieces [] (cutText text).pieces = .ok events := hpieces
    have hstack : steps [.document] events = .ok q.stack := hsteps
    rw [hnames, hall]
    cases (cutText text).fault with
    | some fault => rfl
    | none =>
      have hbuild : build events = finish q.stack := by
        rw [build, hstack]
        rfl
      exact hbuild

/-- After one pass over a text the stacks go together. -/
theorem sound_of_readThrough {text : String} {p : Progress} (h : readThrough text = .ok p) :
    p.Sound := by
  obtain ⟨q, hall, hfault⟩ := bind_eq_ok_iff.1 h
  cases hcut : (cutText text).fault with
  | some fault =>
    rw [hcut] at hfault
    cases hfault
  | none =>
    rw [hcut] at hfault
    cases hfault
    exact Progress.sound_start.of_readAll hall

/-! ## Faults of the reader -/

/-- Whether a fault is about an element of the tree: a closing tag without an element, or an element
without a closing tag. -/
def Error.isUnbalanced : Error → Bool
  | .unopened _ => true
  | .leftOpen _ => true
  | _ => false

section Faults

variable {fault : Error}

/-- A fault in an entity is not about an element. -/
theorem isUnbalanced_of_mapError {α : Type} {x : Except EntityFault α}
    (h : x.mapError .inEntity = .error fault) : fault.isUnbalanced = false := by
  cases x with
  | error cause =>
    cases h
    rfl
  | ok a => cases h

/-- A fault in attributes is not about an element. -/
theorem isUnbalanced_of_readAttributes {seen : List (List Char × Nat)} {position total : Nat}
    {s : List Char} (h : readAttributes seen position total s = .error fault) :
    fault.isUnbalanced = false := by
  fun_induction readAttributes seen position total s with
  | case1 => cases h
  | case2 _ _ _ _ _ ih => exact ih h
  | case3 =>
    cases h
    rfl
  | case4 _ _ _ _ _ _ _ _ _ _ ih =>
    rcases bind_eq_error_iff.1 h with htext | ⟨_, -, h⟩
    · exact isUnbalanced_of_mapError htext
    · rcases bind_eq_error_iff.1 h with hothers | ⟨_, -, h⟩
      · exact ih hothers
      · cases h

/-- A fault in a tag is not about an element. -/
theorem isUnbalanced_of_readTag {content : List Char} (h : readTag content = .error fault) :
    fault.isUnbalanced = false := by
  rcases bind_eq_error_iff.1 h with hattributes | ⟨_, -, h⟩
  · exact isUnbalanced_of_readAttributes hattributes
  · cases h

/-- A piece that the reader does not take has a fault of its own. -/
theorem isUnbalanced_of_readPiece {names : List String} {piece : Piece}
    (h : readPiece names piece = .error fault) : fault.isUnbalanced = false := by
  cases piece with
  | text content =>
    rcases bind_eq_error_iff.1 h with htext | ⟨_, -, h⟩
    · exact isUnbalanced_of_mapError htext
    · cases h
  | tag content =>
    rw [readPiece] at h
    split at h
    all_goals
      rcases bind_eq_error_iff.1 h with htag | ⟨_, -, h⟩
      · exact isUnbalanced_of_readTag htag
      · cases h
  | closeTag content =>
    simp only [readPiece] at h
    split at h
    · cases h
      rfl
    · split at h
      · cases h
      · cases h
        rfl
  | doctype content =>
    simp only [readPiece] at h
    split at h
    · cases h
      rfl
    · cases h
  | instruction | comment | cdata => cases h

/-- Pieces that the reader does not take have a fault of their own. -/
theorem isUnbalanced_of_readPieces {names : List String} {pieces : List Piece}
    (h : readPieces names pieces = .error fault) : fault.isUnbalanced = false := by
  induction pieces generalizing names with
  | nil => cases h
  | cons piece pieces ih =>
    rcases bind_eq_error_iff.1 h with hpiece | ⟨_, -, h⟩
    · exact isUnbalanced_of_readPiece hpiece
    · rcases bind_eq_error_iff.1 h with hlater | ⟨_, -, h⟩
      · exact ih hlater
      · cases h

/-- Markup whose end is missing is not about an element. -/
theorem isUnbalanced_of_declarationPiece {s : List Char} (h : declarationPiece s = .error fault) :
    fault.isUnbalanced = false := by
  unfold declarationPiece at h
  repeat' split at h
  all_goals cases h <;> rfl

/-- Markup whose end is missing is not about an element. -/
theorem isUnbalanced_of_markupPiece {s : List Char} (h : markupPiece s = .error fault) :
    fault.isUnbalanced = false := by
  unfold markupPiece at h
  split at h
  · cases h
    rfl
  · exact isUnbalanced_of_declarationPiece h
  all_goals
    repeat' split at h
    all_goals cases h <;> rfl

/-- A text that cannot be cut into pieces has a fault of its own. -/
theorem isUnbalanced_of_cutPieces {s : List Char} (h : (cutPieces s).fault = some fault) :
    fault.isUnbalanced = false := by
  fun_induction cutPieces s with
  | case1 => cases h
  | case2 _ _ _ _ ih => exact ih h
  | case3 _ _ hmarkup =>
    cases h
    exact isUnbalanced_of_markupPiece hmarkup
  | case4 _ _ _ ih => exact ih h

/-- No fault of one pass over a text is about an element of the tree. -/
theorem isUnbalanced_of_readThrough {text : String} (h : readThrough text = .error fault) :
    fault.isUnbalanced = false := by
  rcases bind_eq_error_iff.1 h with hall | ⟨_, -, hfault⟩
  · rcases Progress.sound_start.readAll (cutText text).pieces with
      ⟨other, hpieces, hother⟩ | ⟨_, _, -, -, hread, -⟩
    · rw [hall] at hother
      cases hother
      exact isUnbalanced_of_readPieces hpieces
    · rw [hall] at hread
      cases hread
  · cases hcut : (cutText text).fault with
    | some other =>
      rw [hcut] at hfault
      cases hfault
      rw [cutText_eq] at hcut
      exact isUnbalanced_of_cutPieces hcut
    | none =>
      rw [hcut] at hfault
      cases hfault

end Faults

/-! ## What the stacks are throughout -/

section Outcomes

variable {text : String}

/-- A text that is read to its end has a document if the tree can be finished. -/
theorem parse_of_readThrough {p : Progress} (h : readThrough text = .ok p) :
    parse text = finish p.stack := by
  rw [parse_eq_readThrough, h]
  rfl

/-- What becomes of a text: the reader finds a fault of its own, or an element is left open at the
end, or there is a document. -/
theorem parse_cases (text : String) :
    (∃ fault, parse text = .error fault ∧ fault.isUnbalanced = false) ∨
    (∃ p inner outer, readThrough text = .ok p ∧ p.names = inner :: outer ∧
      parse text = .error (.leftOpen (localName inner))) ∨
    (∃ p document, readThrough text = .ok p ∧ p.names = [] ∧ p.stack = [document] ∧
      parse text = .ok document) := by
  cases hthrough : readThrough text with
  | error fault =>
    have hparse : parse text = .error fault := by
      rw [parse_eq_readThrough, hthrough]
      rfl
    exact .inl ⟨fault, hparse, isUnbalanced_of_readThrough hthrough⟩
  | ok p =>
    have hparse := parse_of_readThrough hthrough
    have hsound := sound_of_readThrough hthrough
    cases hnames : p.names with
    | nil =>
      obtain ⟨document, hstack, hfinish⟩ := hsound.stack_of_nil hnames
      exact .inr (.inr ⟨p, document, rfl, hnames, hstack, hparse.trans hfinish⟩)
    | cons inner outer =>
      have hfinish := hsound.finish_of_cons hnames
      exact .inr (.inl ⟨p, inner, outer, rfl, hnames, hparse.trans hfinish⟩)

/-- A closing tag is never met while no element is open in the tree. -/
theorem parse_ne_unopened (name : String) : parse text ≠ .error (.unopened name) := by
  intro h
  rcases parse_cases text with ⟨fault, hparse, hfault⟩ | ⟨_, _, _, -, -, hparse⟩ |
    ⟨_, _, -, -, -, hparse⟩
  · rw [h] at hparse
    cases hparse
    cases hfault
  · rw [h] at hparse
    cases hparse
  · rw [h] at hparse
    cases hparse

/-- The element that is reported to be left open is the innermost one that the reader has open at
the end of the text. -/
theorem parse_eq_leftOpen_iff {name : String} :
    parse text = .error (.leftOpen name) ↔
      ∃ p inner outer, readThrough text = .ok p ∧ p.names = inner :: outer ∧
        name = localName inner := by
  constructor
  · intro h
    rcases parse_cases text with ⟨fault, hparse, hfault⟩ |
      ⟨p, inner, outer, hthrough, hnames, hparse⟩ | ⟨_, _, -, -, -, hparse⟩
    · rw [h] at hparse
      cases hparse
      cases hfault
    · rw [h] at hparse
      cases hparse
      exact ⟨p, inner, outer, hthrough, hnames, rfl⟩
    · rw [h] at hparse
      cases hparse
  · rintro ⟨p, inner, outer, hthrough, hnames, rfl⟩
    rw [parse_of_readThrough hthrough, (sound_of_readThrough hthrough).finish_of_cons hnames]

/-- There is a document exactly if the reader has no element open at the end of the text, and it is
the only element that is left. -/
theorem parse_eq_ok_iff_stack {document : Element} :
    parse text = .ok document ↔
      ∃ p, readThrough text = .ok p ∧ p.names = [] ∧ p.stack = [document] := by
  constructor
  · intro h
    rcases parse_cases text with ⟨fault, hparse, -⟩ | ⟨_, _, _, -, -, hparse⟩ |
      ⟨p, other, hthrough, hnames, hstack, hparse⟩
    · rw [h] at hparse
      cases hparse
    · rw [h] at hparse
      cases hparse
    · rw [h] at hparse
      cases hparse
      exact ⟨p, hthrough, hnames, hstack⟩
  · rintro ⟨p, hthrough, -, hstack⟩
    rw [parse_of_readThrough hthrough, hstack]
    rfl

end Outcomes

/-- While a text is read in one pass, the stack of the tree is always the document node under one
element for each element that the reader has open, with the same local names in the same order.  So
a closing tag is never met while only the document node is there; the only fault about an element of
the tree is that the innermost element is left open at the end of the text; and if there is no
fault, just the document is left. -/
theorem stacks_together (text : String) :
    (parse text = readThrough text >>= fun p => finish p.stack) ∧
    (∀ before after p, (cutText text).pieces = before ++ after →
      Progress.start.readAll before = .ok p → p.Together) ∧
    (∀ name, parse text ≠ .error (.unopened name)) ∧
    (∀ name, parse text = .error (.leftOpen name) ↔
      ∃ p inner outer, readThrough text = .ok p ∧ p.names = inner :: outer ∧
        name = localName inner) ∧
    (∀ document, parse text = .ok document ↔
      ∃ p, readThrough text = .ok p ∧ p.names = [] ∧ p.stack = [document]) := by
  refine ⟨parse_eq_readThrough text, ?_, parse_ne_unopened, fun _ => parse_eq_leftOpen_iff,
    fun _ => parse_eq_ok_iff_stack⟩
  intro before after p _ hread
  exact (Progress.sound_start.of_readAll hread).together

/-- A text that ends inside of two elements. -/
def openTopic : String := "<aiml><t:topic>Hi"

/-- The pieces of the text that open elements. -/
def openTopicTags : List Piece := [.tag "aiml".toList, .tag "t:topic".toList]

/-- Once the two tags are read the stacks go together, and at the end of the text the inner element
is missing its closing tag. -/
theorem stacks_together_openTopic :
    (∃ after p, (cutText openTopic).pieces = openTopicTags ++ after ∧
      Progress.start.readAll openTopicTags = .ok p ∧ p.names = ["t:topic", "aiml"] ∧
      p.Together) ∧
    parse openTopic = .error (.leftOpen "topic") := by
  have hpieces : (cutText openTopic).pieces = openTopicTags ++ [.text "Hi".toList] := by
    decide +kernel
  have hopen : (Progress.start.readAll openTopicTags).toOption.map Progress.names =
      some ["t:topic", "aiml"] := by
    decide +kernel
  have hend : (readThrough openTopic).toOption.map Progress.names = some ["t:topic", "aiml"] := by
    decide +kernel
  obtain ⟨-, hthroughout, -, hleft, -⟩ := stacks_together openTopic
  constructor
  · cases hread : Progress.start.readAll openTopicTags with
    | error fault =>
      rw [hread] at hopen
      cases hopen
    | ok p =>
      rw [hread] at hopen
      exact ⟨_, p, hpieces, rfl, Option.some.inj hopen, hthroughout _ _ p hpieces hread⟩
  · cases hthrough : readThrough openTopic with
    | error fault =>
      rw [hthrough] at hend
      cases hend
    | ok p =>
      rw [hthrough] at hend
      exact (hleft "topic").2 ⟨p, _, _, hthrough, Option.some.inj hend, by decide +kernel⟩

end Dialogue.Markup
