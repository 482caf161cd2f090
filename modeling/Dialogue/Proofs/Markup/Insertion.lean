import Dialogue.Proofs.Markup.Reading

/-!
# Comments and instructions in a source

A comment or an instruction is put into a source that can be read, at a place between two pieces
of markup or inside a text.  What is read is the same tree, except that the text at this place
comes in two halves: each of them is a node by itself, or none if it is empty or layout.

Main results:

- Theorem `Stack.Differs.step`: two trees that are built with the same events differ at one place
  only, if they did before.
- Theorem `exists_place`: a remark can be put wherever the source can be read up to.
- Theorem `parse_insert`: the tree with a comment or an instruction in its source differs at the
  place where it has been put only.
-/

namespace Dialogue.Markup

/-! ## Trees that differ at one place -/

variable {whole halves : List Node}

/-- Whether an element has some nodes `whole` at one place, where another one has the nodes
`halves`.  The elements around the place have the names `tags`, the innermost first. -/
inductive Element.Differs (whole halves : List Node) : List String → Element → Element → Prop
  | here (name : String) (attributes : Attributes) (before after : List Node) :
    Differs whole halves [name] (.mk name attributes (before ++ whole ++ after))
      (.mk name attributes (before ++ halves ++ after))
  | inside {tags : List String} {element element' : Element} (name : String)
    (attributes : Attributes) (before after : List Node)
    (h : Differs whole halves tags element element') :
    Differs whole halves (tags ++ [name])
      (.mk name attributes (before ++ .element element :: after))
      (.mk name attributes (before ++ .element element' :: after))

namespace Element.Differs

variable {tags : List String} {element element' : Element}

/-- Elements that differ in their content have the same name. -/
theorem name_eq (h : Differs whole halves tags element element') :
    element.name = element'.name := by
  cases h <;> rfl

/-- Elements that differ in their content have the same attributes. -/
theorem attributes_eq (h : Differs whole halves tags element element') :
    element.attributes = element'.attributes := by
  cases h <;> rfl

/-- The outermost of the names around the place is that of the element. -/
theorem exists_tags (h : Differs whole halves tags element element') :
    ∃ inner, tags = inner ++ [element.name] := by
  cases h with
  | here name attributes before after => exact ⟨[], rfl⟩
  | inside name attributes before after h => exact ⟨_, rfl⟩

/-- Some element is around the place. -/
theorem tags_ne_nil (h : Differs whole halves tags element element') : tags ≠ [] := by
  rcases h.exists_tags with ⟨inner, rfl⟩
  exact List.append_ne_nil_of_right_ne_nil inner (List.cons_ne_nil _ _)

/-- One more node at the end does not matter. -/
theorem push (h : Differs whole halves tags element element') (node : Node) :
    Differs whole halves tags (element.push node) (element'.push node) := by
  cases h with
  | here name attributes before after =>
    have hpush : Differs whole halves [name]
        (.mk name attributes (before ++ whole ++ (after ++ [node])))
        (.mk name attributes (before ++ halves ++ (after ++ [node]))) := .here _ _ _ _
    simpa only [Element.push, List.append_assoc] using hpush
  | inside name attributes before after h =>
    have hpush := inside name attributes before (after ++ [node]) h
    simpa only [Element.push, List.append_assoc, List.cons_append] using hpush

end Element.Differs

/-- Whether the open elements differ at one place, in the content of one of them. -/
inductive Stack.Differs (whole halves : List Node) : List String → Stack → Stack → Prop
  | here {tags : List String} {element element' : Element} (outer : Stack)
    (h : Element.Differs whole halves tags element element') :
    Differs whole halves (tags ++ outer.map Element.name) (element :: outer) (element' :: outer)
  | under {tags : List String} {stack stack' : Stack} (element : Element)
    (h : Differs whole halves tags stack stack') :
    Differs whole halves tags (element :: stack) (element :: stack')

namespace Stack.Differs

variable {tags : List String} {stack stack' next : Stack}

/-- A node is added to both. -/
theorem pushNode (h : Differs whole halves tags stack stack') (node : Node) :
    Differs whole halves tags (pushNode node stack) (pushNode node stack') := by
  cases h with
  | here outer h => exact .here outer (h.push node)
  | under element h => exact .under (element.push node) h

/-- A text is added to both, or to none if it is layout. -/
theorem pushText (h : Differs whole halves tags stack stack') (content : String) :
    Differs whole halves tags (pushText content stack) (pushText content stack') := by
  unfold Markup.pushText
  split
  · exact h
  · exact h.pushNode _

/-- The innermost open element is closed in both. -/
theorem closed (h : Differs whole halves tags stack stack') {name : String}
    (hstep : step stack (.closed name) = .ok next) :
    ∃ next', step stack' (.closed name) = .ok next' ∧ Differs whole halves tags next next' := by
  cases h with
  | @here tags element element' outer h =>
    cases outer with
    | nil => cases hstep
    | cons parent outer =>
      cases hstep
      refine ⟨_, rfl, ?_⟩
      rcases parent with ⟨name, attributes, children⟩
      have hparent := Stack.Differs.here outer (.inside name attributes children [] h)
      simpa [Element.push, Element.name] using hparent
  | @under _ stack stack' element h =>
    cases h with
    | here outer h =>
      cases hstep
      exact ⟨_, rfl, .here outer (h.push _)⟩
    | under parent h =>
      cases hstep
      exact ⟨_, rfl, .under _ h⟩

/-- After every event they differ at the same place. -/
theorem step (h : Differs whole halves tags stack stack') {event : Event}
    (hstep : step stack event = .ok next) :
    ∃ next', Markup.step stack' event = .ok next' ∧ Differs whole halves tags next next' := by
  cases event with
  | opened name attributes =>
    cases hstep
    exact ⟨_, rfl, .under _ h⟩
  | empty name attributes =>
    cases hstep
    exact ⟨_, rfl, h.pushNode _⟩
  | closed name => exact h.closed hstep
  | text content | cdata content =>
    cases hstep
    exact ⟨_, rfl, h.pushText content⟩
  | comment | instruction | doctype =>
    cases hstep
    exact ⟨_, rfl, h⟩

/-- At the end the documents differ at the same place. -/
theorem finish (h : Differs whole halves tags stack stack') {document : Element}
    (hfinish : finish stack = .ok document) :
    ∃ document', Markup.finish stack' = .ok document' ∧
      Element.Differs whole halves tags document document' := by
  cases h with
  | @here tags element element' outer h =>
    cases outer with
    | nil =>
      cases hfinish
      refine ⟨element', rfl, ?_⟩
      rwa [List.map_nil, List.append_nil]
    | cons parent outer => cases hfinish
  | @under _ stack stack' element h =>
    cases h <;> cases hfinish

end Stack.Differs

namespace Progress

variable {tags : List String} {p q : Progress} {stack : Stack}

/-- Whatever pieces are read, what has been read differs at the same place. -/
theorem readAll_differs (h : Stack.Differs whole halves tags p.stack stack) {pieces : List Piece}
    (hread : p.readAll pieces = .ok q) :
    ∃ stack', Progress.readAll ⟨p.names, stack⟩ pieces = .ok ⟨q.names, stack'⟩ ∧
      Stack.Differs whole halves tags q.stack stack' := by
  induction pieces generalizing p stack with
  | nil =>
    cases hread
    exact ⟨stack, rfl, h⟩
  | cons piece pieces ih =>
    rcases bind_eq_ok_iff.1 hread with ⟨next, hnext, hrest⟩
    rcases bind_eq_ok_iff.1 hnext with ⟨⟨event, names⟩, hpiece, hstep⟩
    rcases bind_eq_ok_iff.1 hstep with ⟨after, hafter, hnext⟩
    cases hnext
    rcases h.step hafter with ⟨after', hafter', hdiffers⟩
    rcases ih (p := ⟨names, after⟩) hdiffers hrest with ⟨stack', hall, hlast⟩
    refine ⟨stack', ?_, hlast⟩
    rw [readAll, read, hpiece]
    simp only [bind, Except.bind, pure, Except.pure, hafter']
    exact hall

/-- Whatever the rest of a text is, the documents differ at the same place. -/
theorem ReadsAs.differs {s : List Char} {document : Element} (hread : p.ReadsAs s document)
    (h : Stack.Differs whole halves tags p.stack stack) :
    ∃ document', Progress.ReadsAs ⟨p.names, stack⟩ s document' ∧
      Element.Differs whole halves tags document document' := by
  rcases hread with ⟨hfault, q, hall, hfinish⟩
  rcases readAll_differs h hall with ⟨stack', hall', hdiffers⟩
  rcases hdiffers.finish hfinish with ⟨document', hfinish', hdocument⟩
  exact ⟨document', ⟨hfault, _, hall', hfinish'⟩, hdocument⟩

end Progress

/-! ## Places in a source -/

/-- The text at the end of what has been read. -/
def textAtEnd (events : List Event) : List Char :=
  match events.getLast? with
  | some (.text content) => content.toList
  | _ => []

/-- A place in a source where character data may be: the events before it, the elements that are
open there, and the text that follows. -/
structure Place (before after : String) where
  events : List Event
  stack : Stack
  ahead : List Char
  reads : readEvents before = .ok events
  builds : steps [.document] events = .ok stack
  spells : unescape (after.toList.takeWhile isTextChar) = .ok ahead

namespace Place

variable {before after : String}

/-- The text in front of a place. -/
def behind (place : Place before after) : List Char := textAtEnd place.events

/-- The names of the elements around a place, the innermost first. -/
def tags (place : Place before after) : List String := place.stack.map Element.name

end Place

/-- Whether a text is a comment or an instruction. -/
def IsRemark (mark : String) : Prop :=
  ∃ content piece, mark.toList = '<' :: content ∧ Remark content piece

/-! ## Reading a remark -/

/-- A remark does not change what has been read. -/
theorem Remark.read {mark : List Char} {piece : Piece} (h : Remark mark piece) (p : Progress) :
    p.read piece = .ok p := by
  cases h <;> rfl

/-- Only a text becomes the event of one. -/
theorem exists_text_of_readPiece {names names' : List String} {piece : Piece} {content : String}
    (h : readPiece names piece = .ok (.text content, names')) :
    ∃ written, piece = .text written ∧ Spells written content.toList := by
  cases piece with
  | text written =>
    rcases bind_eq_ok_iff.1 h with ⟨t, ht, h⟩
    cases h
    refine ⟨written, rfl, ?_⟩
    rw [String.toList_ofList, ← unescape_eq_ok_iff]
    cases hunescape : unescape written with
    | error fault =>
      rw [hunescape] at ht
      cases ht
    | ok t' =>
      rw [hunescape] at ht
      cases ht
      rfl
  | tag written =>
    rw [readPiece] at h
    split at h
    all_goals
      rcases bind_eq_ok_iff.1 h with ⟨_, _, h⟩
      cases h
  | closeTag written =>
    simp only [readPiece] at h
    split at h
    · cases h
    · split at h <;> cases h
  | doctype written =>
    simp only [readPiece] at h
    split at h <;> cases h
  | instruction | comment | cdata => cases h

/-- The text at the end is that of the last event. -/
theorem textAtEnd_cons (event : Event) {events : List Event} (h : events ≠ []) :
    textAtEnd (event :: events) = textAtEnd events := by
  have hlast : (event :: events).getLast? = events.getLast? := by
    rw [List.getLast?_cons, List.getLast?_eq_some_getLast h]
    rfl
  rw [textAtEnd, textAtEnd, hlast]

/-- There is no text at the end if the last piece is none. -/
theorem textAtEnd_singleton {names names' : List String} {piece : Piece} {event : Event}
    (hpiece : readPiece names piece = .ok (event, names'))
    (hnot : ∀ content, piece ≠ .text content) : textAtEnd [event] = [] := by
  cases event with
  | text content =>
    rcases exists_text_of_readPiece hpiece with ⟨written, rfl, -⟩
    exact absurd rfl (hnot written)
  | _ => rfl

/-- The text at the end is that of the last piece. -/
theorem spells_textAtEnd {names : List String} {pieces : List Piece} {tail : List Char}
    {events : List Event} (hlast : ∀ content, pieces.getLast? ≠ some (.text content))
    (hread : readPieces names (pieces ++ textPieces tail) = .ok events) :
    Spells tail (textAtEnd events) := by
  induction pieces generalizing names events with
  | nil =>
    cases tail with
    | nil =>
      cases hread
      exact .nil
    | cons c s =>
      rcases bind_eq_ok_iff.1 hread with ⟨⟨event, names'⟩, hpiece, hrest⟩
      cases hrest
      rcases bind_eq_ok_iff.1 hpiece with ⟨t, -, hevent⟩
      cases hevent
      rcases exists_text_of_readPiece hpiece with ⟨written, heq, hspells⟩
      cases heq
      exact hspells
  | cons piece pieces ih =>
    rcases bind_eq_ok_iff.1 hread with ⟨⟨event, names'⟩, hpiece, hrest⟩
    rcases bind_eq_ok_iff.1 hrest with ⟨events', hevents', hall⟩
    cases hall
    have hlast' : ∀ content, pieces.getLast? ≠ some (.text content) := by
      intro content hcontent
      apply hlast content
      rw [List.getLast?_cons, hcontent]
      rfl
    have hspells := ih hlast' hevents'
    by_cases hnil : events' = []
    · -- The piece is the last one, and it is no text.
      subst hnil
      cases hspells.eq_nil_iff.2 rfl
      cases pieces with
      | cons next pieces =>
        rcases bind_eq_ok_iff.1 hevents' with ⟨_, -, hrest⟩
        rcases bind_eq_ok_iff.1 hrest with ⟨_, -, hnil⟩
        cases hnil
      | nil =>
        have hnot : ∀ content, piece ≠ .text content := by
          rintro content rfl
          exact hlast content rfl
        rw [textAtEnd_singleton hpiece hnot]
        exact .nil
    · rw [textAtEnd_cons event hnil]
      exact hspells

/-- Some element is open after every event. -/
theorem ne_nil_of_step {stack next : Stack} {event : Event} (hstack : stack ≠ [])
    (hstep : step stack event = .ok next) : next ≠ [] := by
  rcases List.exists_cons_of_ne_nil hstack with ⟨top, outer, rfl⟩
  cases event with
  | closed name =>
    cases outer with
    | nil => cases hstep
    | cons parent outer =>
      cases hstep
      exact List.cons_ne_nil _ _
  | text content | cdata content =>
    cases hstep
    unfold pushText
    split <;> exact List.cons_ne_nil _ _
  | opened | empty | comment | instruction | doctype =>
    cases hstep
    exact List.cons_ne_nil _ _

/-- Some element is open whatever has been read. -/
theorem Progress.ne_nil_of_readAll {p q : Progress} {pieces : List Piece} (hstack : p.stack ≠ [])
    (hread : p.readAll pieces = .ok q) : q.stack ≠ [] := by
  induction pieces generalizing p with
  | nil =>
    cases hread
    exact hstack
  | cons piece pieces ih =>
    rcases bind_eq_ok_iff.1 hread with ⟨next, hnext, hrest⟩
    rcases bind_eq_ok_iff.1 hnext with ⟨⟨event, names⟩, -, hstep⟩
    rcases bind_eq_ok_iff.1 hstep with ⟨after, hafter, hnext⟩
    cases hnext
    exact ih (ne_nil_of_step hstack hafter) hrest

/-- A byte order mark can be at the beginning only. -/
theorem withoutMark_append {s : List Char} (hs : s ≠ []) (rest : List Char) :
    withoutMark (s ++ rest) = withoutMark s ++ rest := by
  rcases List.exists_cons_of_ne_nil hs with ⟨c, s, rfl⟩
  by_cases hc : c = '\ufeff'
  · subst hc
    rfl
  · have hself : ∀ t : List Char, withoutMark (c :: t) = c :: t := by
      intro t
      unfold withoutMark
      split
      · rename_i heq
        exact absurd (List.cons.inj heq).1 hc
      · rfl
    rw [List.cons_append, hself, hself, List.cons_append]

/-- A place is behind what has been read up to it, with the text in front of it still to come. -/
theorem Place.exists_progress {before after : String} (place : Place before after)
    (hbefore : before ≠ "") :
    ∃ (p : Progress) (top : Element) (outer : Stack) (tail : List Char),
      p.stack = top :: outer ∧ place.tags = top.name :: outer.map Element.name ∧
      (∀ c ∈ tail, isTextChar c = true) ∧ Spells tail place.behind ∧
      ∀ (s : String) (document : Element),
        parse (before ++ s) = .ok document ↔ p.ReadsAs (tail ++ s.toList) document := by
  rcases readEvents_eq_ok_iff.1 place.reads with ⟨hfault, hevents⟩
  rcases cutPieces_append _ hfault with ⟨pieces, tail, htail, hlast, hcut, happend⟩
  rcases (Progress.exists_readAll_iff (p := .start)).2 ⟨_, hevents, place.builds⟩ with
    ⟨names, hall⟩
  rw [hcut] at hevents hall
  rcases Progress.readAll_append_eq_ok_iff.1 hall with ⟨p, hp, htext⟩
  have hne := Progress.ne_nil_of_readAll (p := .start) (List.cons_ne_nil _ _) hp
  obtain ⟨top, outer, hstack⟩ := List.exists_cons_of_ne_nil hne
  have hbehind : Spells tail place.behind := spells_textAtEnd hlast hevents
  rw [Progress.readAll_textPieces hbehind hstack] at htext
  have hplace : top.append (textNodes place.behind) :: outer = place.stack :=
    (Progress.mk.inj (Except.ok.inj htext)).2
  refine ⟨p, top, outer, tail, hstack, ?_, htail, hbehind, fun s document => ?_⟩
  · rw [Place.tags, ← hplace, List.map_cons, Element.name_append]
  · have hchars : before.toList ≠ [] := fun hnil => hbefore (String.toList_eq_nil_iff.1 hnil)
    rw [parse_eq_ok_iff, String.toList_append, withoutMark_append hchars]
    exact Progress.readsAs_iff_of_cut (happend s.toList) hp

/-- There is a place wherever a source can be read up to, which is anywhere but in markup and in an
entity. -/
theorem exists_place {before after : String} (hbefore : before ≠ "") {document : Element}
    (hparse : parse (before ++ after) = .ok document) {events : List Event}
    (hreads : readEvents before = .ok events) :
    ∃ place : Place before after, place.events = events := by
  rcases readEvents_eq_ok_iff.1 hreads with ⟨hfault, hevents⟩
  rcases cutPieces_append _ hfault with ⟨pieces, tail, htail, hlast, hcut, happend⟩
  rw [hcut] at hevents
  have hbehind : Spells tail (textAtEnd events) := spells_textAtEnd hlast hevents
  have hchars : before.toList ≠ [] := fun hnil => hbefore (String.toList_eq_nil_iff.1 hnil)
  rw [parse_eq_ok_iff, String.toList_append, withoutMark_append hchars] at hparse
  rcases hparse with ⟨-, q, hall, -⟩
  rw [happend] at hall
  rcases Progress.readAll_append_eq_ok_iff.1 hall with ⟨p, hp, hrest⟩
  -- What comes before the place is read and builds some open elements.
  have hne := Progress.ne_nil_of_readAll (p := .start) (List.cons_ne_nil _ _) hp
  obtain ⟨top, outer, hstack⟩ := List.exists_cons_of_ne_nil hne
  have hend := Progress.readAll_append_eq_ok_iff.2
    ⟨p, hp, Progress.readAll_textPieces hbehind hstack⟩
  rcases Progress.exists_readAll_iff.1 ⟨_, hend⟩ with ⟨events', hevents', hbuilds⟩
  cases hevents.symm.trans hevents'
  -- The text around the place is spelled, and so is the part of it behind the place.
  have htext : ∀ c ∈ after.toList.takeWhile isTextChar, isTextChar c = true :=
    fun c hc => List.mem_takeWhile_imp hc
  have hafter : after.toList.takeWhile isTextChar ++ after.toList.dropWhile isTextChar =
      after.toList := List.takeWhile_append_dropWhile
  rw [← hafter, ← List.append_assoc, cutPieces_text (List.forall_mem_append.2 ⟨htail, htext⟩)
    (head?_dropWhile_eq_false isTextChar after.toList)] at hrest
  rcases Progress.readAll_append_eq_ok_iff.1 hrest with ⟨_, haround, -⟩
  rcases Progress.exists_spells_of_readAll haround with ⟨around, haround⟩
  rcases hbehind.of_append haround with ⟨ahead, hahead⟩
  exact ⟨⟨events, _, ahead, hreads, hbuilds, unescape_eq_ok_iff.2 hahead⟩, rfl⟩

/-- A comment or an instruction changes the document at its place only: the text that it is put
into comes in two halves. -/
theorem parse_insert {before after mark : String} (place : Place before after)
    (hbefore : before ≠ "") (hmark : IsRemark mark) {document : Element}
    (hparse : parse (before ++ after) = .ok document) :
    ∃ document', parse (before ++ (mark ++ after)) = .ok document' ∧
      Element.Differs (textNodes (place.behind ++ place.ahead))
        (textNodes place.behind ++ textNodes place.ahead) place.tags document document' := by
  rcases place.exists_progress hbefore with
    ⟨p, top, outer, tail, hstack, htags, htail, hbehind, hrest⟩
  rcases hmark with ⟨content, piece, hcontent, hremark⟩
  have hahead := unescape_eq_ok_iff.1 place.spells
  have htext : ∀ c ∈ after.toList.takeWhile isTextChar, isTextChar c = true :=
    fun c hc => List.mem_takeWhile_imp hc
  have hstop := head?_dropWhile_eq_false isTextChar after.toList
  have hafter : after.toList.takeWhile isTextChar ++ after.toList.dropWhile isTextChar =
      after.toList := List.takeWhile_append_dropWhile
  -- Without the remark, the text around the place is read in one.
  rw [hrest, ← hafter, ← List.append_assoc,
    Progress.readsAs_text_iff (List.forall_mem_append.2 ⟨htail, htext⟩) hstop
      (Progress.readAll_textPieces (hbehind.append hahead) hstack)] at hparse
  have hdiffers : Stack.Differs (textNodes (place.behind ++ place.ahead))
      (textNodes place.behind ++ textNodes place.ahead) place.tags
      (top.append (textNodes (place.behind ++ place.ahead)) :: outer)
      (top.append (textNodes place.behind ++ textNodes place.ahead) :: outer) := by
    rcases top with ⟨name, attributes, children⟩
    have htop : Element.Differs (textNodes (place.behind ++ place.ahead))
        (textNodes place.behind ++ textNodes place.ahead) [name] _ _ :=
      .here name attributes children []
    rw [List.append_nil, List.append_nil] at htop
    rw [htags]
    exact Stack.Differs.here outer htop
  rcases hparse.differs hdiffers with ⟨document', hread, hdocument⟩
  refine ⟨document', ?_, hdocument⟩
  -- With it, the two halves are read one after the other.
  have hmarkStop : ∀ c ∈ ('<' :: (content ++ after.toList)).head?, isTextChar c = false := by
    rintro c ⟨⟩
    rfl
  rw [hrest, String.toList_append, hcontent, List.cons_append,
    Progress.readsAs_text_iff htail hmarkStop (Progress.readAll_textPieces hbehind hstack),
    Progress.readsAs_markup_iff (hremark.markupPiece after.toList) (hremark.read _), ← hafter,
    Progress.readsAs_text_iff htext hstop (Progress.readAll_textPieces hahead rfl),
    ← Element.append_append]
  exact hread

end Dialogue.Markup
