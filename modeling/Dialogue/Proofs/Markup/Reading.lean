import Dialogue.Markup.Tree
import Dialogue.Proofs.Markup.Cutting

/-!
# Reading piece by piece

A text is cut into pieces, the pieces become events, and the events build a tree.  Here a piece
is followed through all three steps at once: what has been read up to a place is the names of the
elements that are open and these elements with their content so far.

Main results:

- Theorem `unescape_eq_ok_iff`: reading entities is inverse to a relation between texts.
- Theorem `parse_eq_ok_iff`: what the document of a text is, piece by piece.
- Theorem `Progress.readsAs_markup_iff`, `Progress.readsAs_text_iff`: one piece is read in front of
  the others.
-/

namespace Dialogue.Markup

/-! ## Sequences that may fail -/

/-- A sequence that does not fail is one of two parts that do not. -/
theorem bind_eq_ok_iff {ε α β : Type} {x : Except ε α} {f : α → Except ε β} {b : β} :
    x >>= f = .ok b ↔ ∃ a, x = .ok a ∧ f a = .ok b := by
  cases x with
  | error fault =>
    constructor
    · intro h
      cases h
    · rintro ⟨a, ha, -⟩
      cases ha
  | ok a =>
    constructor
    · intro h
      exact ⟨a, rfl, h⟩
    · rintro ⟨a', ha, h⟩
      cases ha
      exact h

/-- A sequence that fails does so in one of its two parts. -/
theorem bind_eq_error_iff {ε α β : Type} {x : Except ε α} {f : α → Except ε β} {fault : ε} :
    x >>= f = .error fault ↔ x = .error fault ∨ ∃ a, x = .ok a ∧ f a = .error fault := by
  cases x with
  | error other =>
    constructor
    · intro h
      cases h
      exact .inl rfl
    · rintro (h | ⟨a, ha, -⟩)
      · cases h
        rfl
      · cases ha
  | ok a =>
    constructor
    · intro h
      exact .inr ⟨a, rfl, h⟩
    · rintro (h | ⟨a', ha, h⟩)
      · cases h
      · cases ha
        exact h

/-! ## Entities -/

/-- Whether a text with entities spells a text. -/
inductive Spells : List Char → List Char → Prop
  | nil : Spells [] []
  | char {c : Char} {s t : List Char} (hc : c ≠ '&') (h : Spells s t) : Spells (c :: s) (c :: t)
  | entity {name : List Char} {c : Char} {s t : List Char}
    (hname : ∀ d ∈ name, isEntityInner d = true)
    (hc : ∀ position, entityChar position name = .ok c) (h : Spells s t) :
    Spells ('&' :: name ++ ';' :: s) (c :: t)

/-- Where an entity begins does not matter for the character that it stands for. -/
theorem entityChar_eq_ok {position : Nat} {name : List Char} {c : Char}
    (h : entityChar position name = .ok c) (position' : Nat) :
    entityChar position' name = .ok c := by
  unfold entityChar at h ⊢
  split at h
  · exact h
  · split at h
    · exact h
    · cases h

/-- A text that is read has been spelled with entities. -/
theorem spells_of_unescapeFrom {position total : Nat} {s t : List Char}
    (h : unescapeFrom position total s = .ok t) : Spells s t := by
  fun_induction unescapeFrom position total s generalizing t with
  | case1 =>
    cases h
    exact .nil
  | @case2 position rest after hrest name ih =>
    rcases bind_eq_ok_iff.1 h with ⟨d, hchar, h⟩
    rcases bind_eq_ok_iff.1 h with ⟨read, hread, h⟩
    cases h
    have hsplit : rest = name ++ ';' :: after := by
      rw [← hrest]
      exact List.takeWhile_append_dropWhile.symm
    rw [hsplit]
    exact .entity (fun d hd => List.mem_takeWhile_imp hd) (entityChar_eq_ok hchar) (ih hread)
  | case3 => cases h
  | @case4 position c rest hc ih =>
    rcases bind_eq_ok_iff.1 h with ⟨read, hread, h⟩
    cases h
    exact .char hc (ih hread)

/-- A text that is spelled with entities is read, wherever it begins. -/
theorem Spells.unescapeFrom {s t : List Char} (h : Spells s t) (position total : Nat) :
    unescapeFrom position total s = .ok t := by
  induction h generalizing position with
  | nil => rw [Markup.unescapeFrom]
  | @char c s t hc _ ih =>
    rw [Markup.unescapeFrom, if_neg hc, ih]
    rfl
  | @entity name c s t hname hc _ ih =>
    have hstop : ∀ d ∈ (';' :: s).head?, isEntityInner d = false := by
      rintro d ⟨⟩
      rfl
    have htake := takeWhile_append_stop hname hstop
    have hdrop := dropWhile_append_stop hname hstop
    rw [List.cons_append, Markup.unescapeFrom, if_pos rfl]
    split
    · rename_i after heq
      rw [hdrop] at heq
      cases heq
      simp only [htake, hc, ih]
      rfl
    · rename_i hother
      exact absurd hdrop (hother s)

/-- What is read is what is spelled with entities. -/
theorem unescape_eq_ok_iff {s t : List Char} : unescape s = .ok t ↔ Spells s t := by
  constructor
  · intro h
    exact spells_of_unescapeFrom h
  · intro h
    exact h.unescapeFrom 0 _

/-- Two texts one after the other are spelled one after the other. -/
theorem Spells.append {s s' t t' : List Char} (h : Spells s t) (h' : Spells s' t') :
    Spells (s ++ s') (t ++ t') := by
  induction h with
  | nil => exact h'
  | char hc _ ih => exact .char hc ih
  | @entity name c s t hname hc _ ih =>
    rw [List.append_assoc, List.cons_append]
    exact .entity hname hc ih

/-- What comes after a text that is spelled is spelled too, if both are together. -/
theorem Spells.of_append {s s' t u : List Char} (h : Spells s t) (hboth : Spells (s ++ s') u) :
    ∃ t', Spells s' t' := by
  induction h generalizing u with
  | nil => exact ⟨u, hboth⟩
  | @char c s t hc _ ih =>
    generalize hwhole : c :: s ++ s' = whole at hboth
    cases hboth with
    | nil => cases hwhole
    | char _ hrest =>
      cases hwhole
      exact ih hrest
    | entity => exact absurd (List.cons.inj hwhole).1 hc
  | @entity name c s t hname _ _ ih =>
    generalize hwhole : '&' :: name ++ ';' :: s ++ s' = whole at hboth
    cases hboth with
    | nil => cases hwhole
    | char hc _ => exact absurd (List.cons.inj hwhole).1.symm hc
    | @entity name' c' rest t' hname' _ hrest =>
      have hstop : ∀ rest : List Char, ∀ d ∈ (';' :: rest).head?, isEntityInner d = false := by
        rintro rest d ⟨⟩
        rfl
      -- Both names end at the first semicolon.
      have hnames : name ++ ';' :: (s ++ s') = name' ++ ';' :: rest := by simpa using hwhole
      have hdrop := congrArg (List.dropWhile isEntityInner) hnames
      rw [dropWhile_append_stop hname (hstop _), dropWhile_append_stop hname' (hstop _)] at hdrop
      rw [← (List.cons.inj hdrop).2] at hrest
      exact ih hrest

/-- An empty text is spelled by no characters only. -/
theorem Spells.eq_nil_iff {s t : List Char} (h : Spells s t) : s = [] ↔ t = [] := by
  cases h <;> simp

/-- The named entities are spelled without the marks around them and without a number sign, and
are told apart by their names. -/
theorem namedEntities_spelled : ∀ entity ∈ namedEntities,
    (∀ d ∈ entity.1.toList, isEntityInner d = true) ∧
      (∀ position, entityChar position entity.1.toList = .ok entity.2) := by
  simp only [namedEntities, List.forall_mem_cons, List.not_mem_nil, false_implies, implies_true,
    and_true]
  simp only [← List.all_eq_true]
  refine ⟨⟨by decide, fun _ => rfl⟩, ⟨by decide, fun _ => rfl⟩, ⟨by decide, fun _ => rfl⟩,
    ⟨by decide, fun _ => rfl⟩, by decide, fun _ => rfl⟩

/-- The five special characters are spelled by their entities, and others by themselves. -/
theorem spells_escapeChar (c : Char) : Spells (escapeChar c) [c] := by
  unfold escapeChar
  split
  · rename_i name d hfind
    have hd : d = c := by simpa using List.find?_some hfind
    rcases namedEntities_spelled _ (List.mem_of_find?_eq_some hfind) with ⟨hname, hchar⟩
    subst hd
    exact .entity hname hchar .nil
  · rename_i hfind
    have hc : c ≠ '&' := by
      rintro rfl
      cases hfind
    exact .char hc .nil

/-- What is written with entities spells the text. -/
theorem spells_escape (t : List Char) : Spells (t.flatMap escapeChar) t := by
  induction t with
  | nil => exact .nil
  | cons c t ih => exact (spells_escapeChar c).append ih

/-! ## Content of elements -/

/-- An element with more nodes at the end of its content. -/
def Element.append : Element → List Node → Element
  | mk name attributes children, nodes => mk name attributes (children ++ nodes)

/-- Without more nodes an element stays as it is. -/
@[simp] theorem Element.append_nil (element : Element) : element.append [] = element := by
  cases element
  rw [append, List.append_nil]

/-- One more node is pushed. -/
theorem Element.append_singleton (element : Element) (node : Node) :
    element.append [node] = element.push node := by
  cases element
  rfl

/-- Nodes may be added one list after the other. -/
theorem Element.append_append (element : Element) (nodes later : List Node) :
    element.append (nodes ++ later) = (element.append nodes).append later := by
  cases element
  rw [append, append, append, List.append_assoc]

/-- More nodes do not change the name. -/
@[simp] theorem Element.name_append (element : Element) (nodes : List Node) :
    (element.append nodes).name = element.name := by
  cases element
  rfl

/-- The nodes that a text is, if it is neither empty nor layout. -/
def textNodes (t : List Char) : List Node :=
  if t.isEmpty || isLayout (String.ofList t) then [] else [.text (String.ofList t)]

/-- A text that is no layout is one node. -/
theorem textNodes_of_not_layout {content : String} (hlayout : isLayout content = false)
    (hempty : content ≠ "") : textNodes content.toList = [.text content] := by
  rw [textNodes, String.ofList_toList, if_neg]
  simp [hlayout, String.toList_eq_nil_iff, hempty]

/-! ## Pieces -/

/-- How far a text has been read: the names of the elements that are open, and these elements,
the innermost first and the document node last. -/
structure Progress where
  names : List String
  stack : Stack

namespace Progress

/-- Nothing has been read. -/
def start : Progress := ⟨[], [.document]⟩

/-- One more piece is read. -/
def read (p : Progress) (piece : Piece) : Except Error Progress := do
  let (event, names) ← readPiece p.names piece
  let stack ← step p.stack event
  return ⟨names, stack⟩

/-- Several more pieces are read. -/
def readAll (p : Progress) : List Piece → Except Error Progress
  | [] => .ok p
  | piece :: pieces => do (← p.read piece).readAll pieces

/-- Pieces are read one list after the other. -/
theorem readAll_append_eq_ok_iff {p q : Progress} {pieces later : List Piece} :
    p.readAll (pieces ++ later) = .ok q ↔
      ∃ mid, p.readAll pieces = .ok mid ∧ mid.readAll later = .ok q := by
  induction pieces generalizing p with
  | nil => simp [readAll]
  | cons piece pieces ih =>
    simp only [List.cons_append, readAll, bind_eq_ok_iff, ih]
    constructor
    · rintro ⟨next, hnext, mid, hmid, hq⟩
      exact ⟨mid, ⟨next, hnext, hmid⟩, hq⟩
    · rintro ⟨mid, ⟨next, hnext, hmid⟩, hq⟩
      exact ⟨next, hnext, mid, hmid, hq⟩

/-- Reading piece by piece is reading all events and building with them. -/
theorem exists_readAll_iff {p : Progress} {pieces : List Piece} {stack : Stack} :
    (∃ names, p.readAll pieces = .ok ⟨names, stack⟩) ↔
      ∃ events, readPieces p.names pieces = .ok events ∧ steps p.stack events = .ok stack := by
  induction pieces generalizing p with
  | nil =>
    constructor
    · rintro ⟨names, h⟩
      cases h
      exact ⟨[], rfl, rfl⟩
    · rintro ⟨events, hevents, hsteps⟩
      cases hevents
      cases hsteps
      exact ⟨p.names, rfl⟩
  | cons piece pieces ih =>
    simp only [readAll, readPieces, read, bind_eq_ok_iff]
    constructor
    · rintro ⟨names, next, ⟨⟨event, names'⟩, hpiece, stack', hstep, hnext⟩, hlast⟩
      cases hnext
      rcases ih.1 ⟨names, hlast⟩ with ⟨events, hevents, hsteps⟩
      refine ⟨event :: events, ⟨_, hpiece, events, hevents, rfl⟩, ?_⟩
      exact bind_eq_ok_iff.2 ⟨stack', hstep, hsteps⟩
    · rintro ⟨_, ⟨⟨event, names'⟩, hpiece, events, hevents, hall⟩, hsteps⟩
      cases hall
      rcases bind_eq_ok_iff.1 hsteps with ⟨stack', hstep, hsteps⟩
      rcases (ih (p := ⟨names', stack'⟩)).2 ⟨events, hevents, hsteps⟩ with ⟨names, hlast⟩
      exact ⟨names, ⟨names', stack'⟩, ⟨_, hpiece, stack', hstep, rfl⟩, hlast⟩

/-- A text is added to the content of the innermost open element. -/
theorem readAll_textPieces {p : Progress} {s t : List Char} {top : Element} {outer : Stack}
    (h : Spells s t) (hstack : p.stack = top :: outer) :
    p.readAll (textPieces s) = .ok ⟨p.names, top.append (textNodes t) :: outer⟩ := by
  cases s with
  | nil =>
    cases h
    rw [textNodes, List.isEmpty_nil, Bool.true_or, if_pos rfl, Element.append_nil, ← hstack]
    rfl
  | cons c s =>
    have hpiece : readPiece p.names (.text (c :: s)) = .ok (.text (String.ofList t), p.names) := by
      rw [readPiece, unescape_eq_ok_iff.2 h]
      rfl
    have hne : t.isEmpty = false := by
      rw [List.isEmpty_eq_false_iff, ne_eq, ← h.eq_nil_iff]
      exact List.cons_ne_nil c s
    have hstep : step p.stack (.text (String.ofList t)) =
        .ok (top.append (textNodes t) :: outer) := by
      rw [step, pushText, hstack, textNodes, hne, Bool.false_or]
      split
      · rw [Element.append_nil]
      · rw [pushNode, Element.append_singleton]
    simp only [textPieces, readAll, read, hpiece, hstep, bind, Except.bind, pure, Except.pure]

/-- Only a text that is spelled is read. -/
theorem exists_spells_of_readAll {p q : Progress} {s : List Char}
    (h : p.readAll (textPieces s) = .ok q) : ∃ t, Spells s t := by
  cases s with
  | nil => exact ⟨[], .nil⟩
  | cons c s =>
    rcases bind_eq_ok_iff.1 h with ⟨next, hnext, -⟩
    rcases bind_eq_ok_iff.1 hnext with ⟨_, hpiece, -⟩
    cases hunescape : unescape (c :: s) with
    | error fault =>
      rw [readPiece, hunescape] at hpiece
      cases hpiece
    | ok t => exact ⟨t, unescape_eq_ok_iff.1 hunescape⟩

/-- Whether the rest of a text makes a document of what has been read. -/
def ReadsAs (p : Progress) (s : List Char) (document : Element) : Prop :=
  (cutPieces s).fault = none ∧
    ∃ q, p.readAll (cutPieces s).pieces = .ok q ∧ finish q.stack = .ok document

section Front

variable {p q : Progress} {s rest : List Char} {document : Element}

/-- Pieces that are cut off are read in front of the rest. -/
theorem readsAs_iff_of_cut {pieces : List Piece}
    (hcut : cutPieces s = (cutPieces rest).after pieces)
    (hread : p.readAll pieces = .ok q) : p.ReadsAs s document ↔ q.ReadsAs rest document := by
  have hall : ∀ last, p.readAll (pieces ++ (cutPieces rest).pieces) = .ok last ↔
      q.readAll (cutPieces rest).pieces = .ok last := by
    intro last
    rw [readAll_append_eq_ok_iff]
    constructor
    · rintro ⟨mid, hmid, hlast⟩
      cases hread.symm.trans hmid
      exact hlast
    · intro hlast
      exact ⟨q, hread, hlast⟩
  rw [ReadsAs, ReadsAs, hcut]
  simp only [Cut.after, hall]

/-- Closed markup is read in front of the rest. -/
theorem readsAs_markup_iff {piece : Piece} (hpiece : markupPiece s = .ok (piece, rest))
    (hread : p.read piece = .ok q) : p.ReadsAs ('<' :: s) document ↔ q.ReadsAs rest document := by
  have hcut : cutPieces ('<' :: s) = (cutPieces rest).after [piece] := cutPieces_markup hpiece
  refine readsAs_iff_of_cut hcut ?_
  rw [readAll, hread]
  rfl

/-- A text in front of markup is read in front of it. -/
theorem readsAs_text_iff (hs : ∀ c ∈ s, isTextChar c = true)
    (hrest : ∀ c ∈ rest.head?, isTextChar c = false) (hread : p.readAll (textPieces s) = .ok q) :
    p.ReadsAs (s ++ rest) document ↔ q.ReadsAs rest document :=
  readsAs_iff_of_cut (cutPieces_text hs hrest) hread

end Front

end Progress

/-- A text without a byte order mark at its beginning. -/
def withoutMark : List Char → List Char
  | '\ufeff' :: s => s
  | s => s

/-- A text is cut without the byte order mark. -/
theorem cutText_eq (text : String) : cutText text = cutPieces (withoutMark text.toList) := by
  unfold cutText
  generalize text.toList = s
  split
  · rfl
  · rename_i hother
    have hself : withoutMark s = s := by
      unfold withoutMark
      split
      · exact absurd rfl (hother _)
      · rfl
    rw [hself]

/-- The events of a text are those of its pieces, if it is cut without a fault. -/
theorem readEvents_eq_ok_iff {text : String} {events : List Event} :
    readEvents text = .ok events ↔
      (cutPieces (withoutMark text.toList)).fault = none ∧
        readPieces [] (cutPieces (withoutMark text.toList)).pieces = .ok events := by
  simp only [readEvents, cutText_eq, bind_eq_ok_iff]
  cases (cutPieces (withoutMark text.toList)).fault with
  | none => simp [pure, Except.pure]
  | some fault => simp

/-- What the document of a text is, piece by piece. -/
theorem parse_eq_ok_iff {text : String} {document : Element} :
    parse text = .ok document ↔ Progress.start.ReadsAs (withoutMark text.toList) document := by
  simp only [parse, bind_eq_ok_iff, readEvents_eq_ok_iff, build]
  constructor
  · rintro ⟨events, ⟨hfault, hevents⟩, stack, hsteps, hfinish⟩
    rcases (Progress.exists_readAll_iff (p := .start)).2 ⟨events, hevents, hsteps⟩ with
      ⟨names, hall⟩
    exact ⟨hfault, ⟨names, stack⟩, hall, hfinish⟩
  · rintro ⟨hfault, q, hall, hfinish⟩
    rcases Progress.exists_readAll_iff.1 ⟨q.names, hall⟩ with ⟨events, hevents, hsteps⟩
    exact ⟨events, ⟨hfault, hevents⟩, q.stack, hsteps, hfinish⟩

end Dialogue.Markup
