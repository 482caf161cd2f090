import Dialogue.Proofs.Markup.Reading

/-!
# Trees in document order

A tree is written back in the order of its document: the start of an element with its name and its
attributes, its content, and its end.  While a source is read, the open elements hold the marks of
everything that has been read so far, and an event adds its own marks at the end.  So the document
that is read has the marks of the events, and no other tree has them.

Main results:

- Theorem `Holds.read`: whatever event is read, its marks are added.
- Theorem `nodesMarks_injective`: nodes are determined by their marks.
- Theorem `parse_of_readEvents`: what becomes of the events of a text.
- Theorem `parse_eq_ok_iff_marks`: the document of a text is the tree with the marks of its events.
-/

namespace Dialogue.Markup

/-! ## Marks -/

/-- A step on the way through a tree in document order.  Names are local names, and attributes and
texts have their entities replaced. -/
inductive Mark where
  | opened (name : String) (attributes : Attributes)
  | text (content : String)
  | closed (name : String)
  deriving DecidableEq, Repr

mutual

/-- The marks of an element: its start, those of its content, and its end. -/
def Element.marks : Element → List Mark
  | .mk name attributes children => .opened name attributes :: nodesMarks children ++ [.closed name]

/-- The marks of a list of nodes. -/
def nodesMarks : List Node → List Mark
  | [] => []
  | .element element :: nodes => element.marks ++ nodesMarks nodes
  | .text content :: nodes => .text content :: nodesMarks nodes

end

/-- The marks of a text: none if it is layout. -/
def textMarks (content : String) : List Mark := if isLayout content then [] else [.text content]

/-- The marks of an event.  An element that is written as one tag begins and ends, and what is
neither an element nor a text has no marks. -/
def Event.marks : Event → List Mark
  | .opened name attributes => [.opened (localName name) (localAttributes attributes)]
  | .empty name attributes =>
    [.opened (localName name) (localAttributes attributes), .closed (localName name)]
  | .closed name => [.closed (localName name)]
  | .text content => textMarks content
  | .cdata content => textMarks content
  | .comment _ => []
  | .instruction _ => []
  | .doctype _ => []

/-- The names of the open elements after one more event, the innermost first. -/
def openAfter (names : List String) : Event → List String
  | .opened name _ => name :: names
  | .closed _ => names.tail
  | _ => names

/-- The names of the elements that are left open by a list of events, the innermost first. -/
def leftOpen (events : List Event) : List String := events.foldl openAfter []

/-- The marks of two lists of nodes follow one another. -/
theorem nodesMarks_append (nodes later : List Node) :
    nodesMarks (nodes ++ later) = nodesMarks nodes ++ nodesMarks later := by
  induction nodes with
  | nil => rfl
  | cons node nodes ih => cases node <;> simp [nodesMarks, ih]

/-! ## Trees are determined by their marks -/

/-- Marks that do not go on with another node: there are none, or an element ends. -/
def EndsNodes (marks : List Mark) : Prop := ∀ mark ∈ marks.head?, ∃ name, mark = .closed name

/-- The marks of a node go on with a node. -/
theorem not_endsNodes (node : Node) (nodes : List Node) (rest : List Mark) :
    ¬EndsNodes (nodesMarks (node :: nodes) ++ rest) := by
  intro h
  match node with
  | .text _ =>
    obtain ⟨_, hmark⟩ := h _ rfl
    cases hmark
  | .element (.mk _ _ _) =>
    obtain ⟨_, hmark⟩ := h _ rfl
    cases hmark

/-- Nodes are determined by their marks in front of the end of an element. -/
theorem nodesMarks_append_inj :
    ∀ {nodes nodes' : List Node} {rest rest' : List Mark}, EndsNodes rest → EndsNodes rest' →
      nodesMarks nodes ++ rest = nodesMarks nodes' ++ rest' → nodes = nodes' ∧ rest = rest'
  | [], [], _, _, _, _, h => ⟨rfl, h⟩
  | [], node :: nodes, rest, rest', hrest, _, h => by
    have hnode : rest = nodesMarks (node :: nodes) ++ rest' := h
    rw [hnode] at hrest
    exact absurd hrest (not_endsNodes node nodes rest')
  | node :: nodes, [], rest, rest', _, hrest', h => by
    have hnode : nodesMarks (node :: nodes) ++ rest = rest' := h
    rw [← hnode] at hrest'
    exact absurd hrest' (not_endsNodes node nodes rest)
  | .text content :: nodes, .text content' :: nodes', _, _, hrest, hrest', h => by
    simp only [nodesMarks, List.cons_append, List.cons.injEq, Mark.text.injEq] at h
    obtain ⟨rfl, hlater⟩ := h
    obtain ⟨rfl, hends⟩ := nodesMarks_append_inj hrest hrest' hlater
    exact ⟨rfl, hends⟩
  | .text _ :: _, .element (.mk _ _ _) :: _, _, _, _, _, h => by
    simp [nodesMarks, Element.marks] at h
  | .element (.mk _ _ _) :: _, .text _ :: _, _, _, _, _, h => by
    simp [nodesMarks, Element.marks] at h
  | .element (.mk name attributes children) :: nodes,
      .element (.mk name' attributes' children') :: nodes', rest, rest', hrest, hrest', h => by
    simp only [nodesMarks, Element.marks, List.cons_append, List.append_assoc, List.cons.injEq,
      Mark.opened.injEq, List.nil_append] at h
    obtain ⟨⟨rfl, rfl⟩, hinner⟩ := h
    -- The content ends with the element, and the nodes after the element come next.
    have hend : ∀ marks, EndsNodes (.closed name :: marks) := by
      rintro marks _ ⟨⟩
      exact ⟨name, rfl⟩
    obtain ⟨rfl, hlater⟩ := nodesMarks_append_inj (hend _) (hend _) hinner
    obtain ⟨rfl, hends⟩ := nodesMarks_append_inj hrest hrest' (List.cons.inj hlater).2
    exact ⟨rfl, hends⟩

/-- Nodes are determined by their marks: none can be missing, doubled, in another order or in
another element. -/
theorem nodesMarks_injective : Function.Injective nodesMarks := by
  intro nodes nodes' h
  have hnone : EndsNodes [] := nofun
  have happend : nodesMarks nodes ++ [] = nodesMarks nodes' ++ [] := by rw [h]
  exact (nodesMarks_append_inj hnone hnone happend).1

/-! ## What the open elements hold -/

/-- Whether the open elements of a stack have names as they are written, and hold some marks: those
of the document, and for each open element its start and those of its content. -/
inductive Holds : List String → List Mark → Stack → Prop
  | document (nodes : List Node) : Holds [] (nodesMarks nodes) [.mk "" [] nodes]
  | inside {names : List String} {marks : List Mark} {outer : Stack} (name : String)
    (attributes : Attributes) (nodes : List Node) (h : Holds names marks outer) :
    Holds (name :: names) (marks ++ .opened (localName name) attributes :: nodesMarks nodes)
      (.mk (localName name) attributes nodes :: outer)

namespace Holds

variable {names names' : List String} {marks : List Mark} {stack : Stack}

/-- A node is added to the innermost open element. -/
theorem pushNode (h : Holds names marks stack) (node : Node) :
    Holds names (marks ++ nodesMarks [node]) (pushNode node stack) := by
  cases h with
  | document nodes =>
    rw [← nodesMarks_append]
    exact .document (nodes ++ [node])
  | inside name attributes nodes h =>
    rw [List.append_assoc, List.cons_append, ← nodesMarks_append]
    exact .inside name attributes (nodes ++ [node]) h

/-- A text is added, unless it is layout. -/
theorem pushText (h : Holds names marks stack) (content : String) :
    Holds names (marks ++ textMarks content) (pushText content stack) := by
  unfold Markup.pushText textMarks
  split
  · rwa [List.append_nil]
  · exact h.pushNode (.text content)

/-- An element begins. -/
theorem opened (h : Holds names marks stack) (name : String) (attributes : Attributes) :
    Holds (name :: names) (marks ++ [.opened (localName name) attributes])
      (.mk (localName name) attributes [] :: stack) :=
  .inside name attributes [] h

/-- The innermost open element ends, and becomes the last child of the one around it. -/
theorem closed {name : String} (h : Holds (name :: names) marks stack) :
    ∃ next, step stack (.closed name) = .ok next ∧
      Holds names (marks ++ [.closed (localName name)]) next := by
  cases h with
  | inside _ attributes nodes h =>
    have hclosed := h.pushNode (.element (.mk (localName name) attributes nodes))
    simp only [nodesMarks, Element.marks, List.append_nil, List.cons_append] at hclosed
    rw [List.append_assoc, List.cons_append]
    cases h with
    | document => exact ⟨_, rfl, hclosed⟩
    | inside => exact ⟨_, rfl, hclosed⟩

end Holds

/-! ## Reading -/

/-- The event of a piece opens and closes elements as the reader does; it closes the innermost open
one. -/
theorem names_of_readPiece {names names' : List String} {piece : Piece} {event : Event}
    (h : readPiece names piece = .ok (event, names')) :
    names' = openAfter names event ∧ ∀ name, event = .closed name → names = name :: names' := by
  cases piece with
  | text content =>
    obtain ⟨_, -, h⟩ := bind_eq_ok_iff.1 h
    cases h
    exact ⟨rfl, by simp⟩
  | tag content =>
    rw [readPiece] at h
    split at h
    all_goals
      obtain ⟨_, -, h⟩ := bind_eq_ok_iff.1 h
      cases h
      exact ⟨rfl, by simp⟩
  | closeTag content =>
    simp only [readPiece] at h
    split at h
    · cases h
    · split at h
      · rename_i hfound
        cases h
        refine ⟨rfl, ?_⟩
        rintro _ ⟨⟩
        rw [hfound]
      · cases h
  | doctype content =>
    simp only [readPiece] at h
    split at h
    · cases h
    · cases h
      exact ⟨rfl, by simp⟩
  | instruction | comment | cdata =>
    cases h
    exact ⟨rfl, by simp⟩

/-- Whatever event is read, the elements that are open after it hold its marks as well. -/
theorem Holds.read {names names' : List String} {marks : List Mark} {stack : Stack} {piece : Piece}
    {event : Event} (h : Holds names marks stack)
    (hpiece : readPiece names piece = .ok (event, names')) :
    ∃ next, step stack event = .ok next ∧
      Holds (openAfter names event) (marks ++ event.marks) next := by
  cases event with
  | opened name attributes => exact ⟨_, rfl, h.opened name (localAttributes attributes)⟩
  | empty name attributes =>
    exact ⟨_, rfl, h.pushNode (.element (.mk (localName name) (localAttributes attributes) []))⟩
  | closed name =>
    have hopen := (names_of_readPiece hpiece).2 name rfl
    subst hopen
    exact h.closed
  | text content | cdata content => exact ⟨_, rfl, h.pushText content⟩
  | comment | instruction | doctype =>
    refine ⟨_, rfl, ?_⟩
    rwa [Event.marks, List.append_nil]

/-- Whatever events are read, the elements that are open after them hold their marks as well. -/
theorem Holds.readAll {names : List String} {marks : List Mark} {stack : Stack}
    {pieces : List Piece} {events : List Event} (h : Holds names marks stack)
    (hpieces : readPieces names pieces = .ok events) :
    ∃ next, steps stack events = .ok next ∧
      Holds (events.foldl openAfter names) (marks ++ events.flatMap Event.marks) next := by
  induction pieces generalizing names marks stack events with
  | nil =>
    cases hpieces
    refine ⟨stack, rfl, ?_⟩
    rwa [List.flatMap_nil, List.append_nil]
  | cons piece pieces ih =>
    obtain ⟨⟨event, names'⟩, hpiece, hrest⟩ := bind_eq_ok_iff.1 hpieces
    obtain ⟨later, hlater, hall⟩ := bind_eq_ok_iff.1 hrest
    cases hall
    obtain ⟨mid, hstep, hmid⟩ := h.read hpiece
    rw [← (names_of_readPiece hpiece).1] at hmid
    obtain ⟨next, hsteps, hnext⟩ := ih hmid hlater
    refine ⟨next, bind_eq_ok_iff.2 ⟨mid, hstep, hsteps⟩, ?_⟩
    rw [List.foldl_cons, List.flatMap_cons, ← List.append_assoc, ← (names_of_readPiece hpiece).1]
    exact hnext

/-- What becomes of the events of a text: a document with their marks if no element is left open,
and otherwise a fault. -/
theorem parse_of_readEvents {text : String} {events : List Event}
    (h : readEvents text = .ok events) :
    match leftOpen events with
    | [] => ∃ nodes, parse text = .ok (.mk "" [] nodes) ∧
        nodesMarks nodes = events.flatMap Event.marks
    | name :: _ => parse text = .error (.leftOpen (localName name)) := by
  obtain ⟨-, hpieces⟩ := readEvents_eq_ok_iff.1 h
  obtain ⟨stack, hsteps, hholds⟩ := (Holds.document []).readAll hpieces
  have hparse : parse text = finish stack := by
    have hbuild : build events = finish stack := by
      rw [build, Element.document, hsteps]
      rfl
    rw [parse, h]
    exact hbuild
  rw [nodesMarks, List.nil_append, ← leftOpen] at hholds
  rw [hparse]
  generalize leftOpen events = names at hholds
  generalize events.flatMap Event.marks = marks at hholds
  cases hholds with
  | document nodes => exact ⟨nodes, rfl, rfl⟩
  | inside name attributes nodes houter => cases houter <;> rfl

/-- The document of a text is the tree whose marks are those of the events of the text: its
elements begin and end, and its texts stand, where they do in the text, except that comments,
instructions, document types and layout are left out.  There is a document only if no element is
left open at the end of the text. -/
theorem parse_eq_ok_iff_marks {text : String} {document : Element} :
    parse text = .ok document ↔
      ∃ events nodes, readEvents text = .ok events ∧ leftOpen events = [] ∧
        document = .mk "" [] nodes ∧ nodesMarks nodes = events.flatMap Event.marks := by
  constructor
  · intro hparse
    obtain ⟨events, hevents, -⟩ := bind_eq_ok_iff.1 hparse
    have hcases := parse_of_readEvents hevents
    cases hopen : leftOpen events with
    | nil =>
      rw [hopen] at hcases
      obtain ⟨nodes, hnodes, hmarks⟩ := hcases
      rw [hparse, Except.ok.injEq] at hnodes
      exact ⟨events, nodes, hevents, hopen, hnodes, hmarks⟩
    | cons name outer =>
      rw [hopen] at hcases
      rw [hparse] at hcases
      cases hcases
  · rintro ⟨events, nodes, hevents, hopen, rfl, hmarks⟩
    have hcases := parse_of_readEvents hevents
    rw [hopen] at hcases
    obtain ⟨nodes', hparse, hmarks'⟩ := hcases
    rw [hparse, nodesMarks_injective (hmarks'.trans hmarks.symm)]

end Dialogue.Markup
