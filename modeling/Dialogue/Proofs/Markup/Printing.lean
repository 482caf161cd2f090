import Dialogue.Proofs.Markup.Reading

/-!
# Printed trees

An element is printed as its start tag, its content and its end tag, or as one tag if it has no
content; the special characters in texts and in values are written as entities.  Reading what has
been printed gives the tree again, as long as names are made of letters, no key is repeated, and
no text is lost in a tree: it has characters, no other text next to it, and is more than the
layout of a source.  A single tag is read again with any name in which it neither ends nor leaves
a quote open.

Main results:

- Theorem `staysInTag_iff`: which texts can stand in a tag in front of anything.
- Theorem `readTag_writeTag`: the content of a printed tag is read.
- Theorem `readsAs_write`: a printed element is read as a child of the innermost open element.
- Theorem `parse_write`: a printed tree is read as the only child of its document.
-/

namespace Dialogue.Markup

open Text

/-! ## Printing -/

/-- An attribute as it is printed, with a space in front. -/
def writeAttribute : String × String → List Char
  | (key, value) => ' ' :: key.toList ++ '=' :: '"' :: value.toList.flatMap escapeChar ++ ['"']

/-- The content of the start tag of an element. -/
def writeTag (name : String) (attributes : Attributes) : List Char :=
  name.toList ++ attributes.flatMap writeAttribute

mutual

/-- An element as it is printed.  Of the elements without content, those that are `brief` are
printed as one tag. -/
def Element.write (brief : Element → Bool) : Element → List Char
  | .mk name attributes children =>
    if children.isEmpty && brief (.mk name attributes children) then
      '<' :: writeTag name attributes ++ "/>".toList
    else
      '<' :: writeTag name attributes ++ '>' :: writeNodes brief children ++
        '<' :: '/' :: name.toList ++ ['>']

/-- Nodes as they are printed. -/
def writeNodes (brief : Element → Bool) : List Node → List Char
  | [] => []
  | .element element :: nodes => element.write brief ++ writeNodes brief nodes
  | .text content :: nodes => content.toList.flatMap escapeChar ++ writeNodes brief nodes

end

/-! ## Trees that can be printed -/

/-- Whether a name is made of letters. -/
def isName (name : String) : Bool := name != "" && name.toList.all Char.isAlpha

/-- Whether attributes have names, and no two of them the same one. -/
def areAttributes (attributes : Attributes) : Bool :=
  (attributes.map Prod.fst).all isName && (attributes.map Prod.fst).Nodup

/-- Whether nodes begin with a text. -/
def beginsWithText : List Node → Bool
  | .text _ :: _ => true
  | _ => false

mutual

/-- Whether an element can be printed and read again. -/
def Element.isPrintable : Element → Bool
  | .mk name attributes children =>
    isName name && areAttributes attributes && arePrintable children

/-- Whether nodes can be printed and read again: no text is empty, layout or next to another. -/
def arePrintable : List Node → Bool
  | [] => true
  | .element element :: nodes => element.isPrintable && arePrintable nodes
  | .text content :: nodes =>
    content != "" && !isLayout content && !beginsWithText nodes && arePrintable nodes

end

/-! ## Ends of tags -/

/-- Whether a tag does not end inside of a text that begins and ends outside of quotes. -/
def Passes (s : List Char) : Prop :=
  ∀ seen rest, splitAtTagEnd none seen (s ++ rest) = splitAtTagEnd none (s.reverse ++ seen) rest

/-- A tag does not end in the empty text. -/
theorem Passes.nil : Passes [] := fun _ _ => rfl

/-- A tag does not end inside of one text after another. -/
theorem Passes.append {s t : List Char} (hs : Passes s) (ht : Passes t) : Passes (s ++ t) := by
  intro seen rest
  rw [List.append_assoc, hs, ht, List.reverse_append, List.append_assoc]

/-- A tag does not end at a character that is neither an angle bracket nor a quote. -/
theorem Passes.cons {c : Char} {s : List Char} (hend : c ≠ '>') (hdouble : c ≠ '"')
    (hsingle : c ≠ '\'') (hs : Passes s) : Passes (c :: s) := by
  intro seen rest
  rw [List.cons_append, splitAtTagEnd]
  simp only [hend, hdouble, hsingle, if_false, or_self]
  rw [hs, List.reverse_cons, List.append_assoc]
  rfl

/-- Inside of quotes a tag does not end. -/
theorem splitAtTagEnd_quoted {quote : Char} {s : List Char} (hs : quote ∉ s)
    (seen rest : List Char) :
    splitAtTagEnd (some quote) seen (s ++ quote :: rest) =
      splitAtTagEnd none (quote :: s.reverse ++ seen) rest := by
  induction s generalizing seen with
  | nil =>
    rw [List.nil_append, splitAtTagEnd]
    simp only [if_true]
    rfl
  | cons c s ih =>
    rw [List.mem_cons, not_or] at hs
    rw [List.cons_append, splitAtTagEnd]
    simp only [if_neg (Ne.symm hs.1)]
    rw [ih hs.2, List.reverse_cons, ← List.cons_append, List.append_assoc]
    rfl

/-- Whether a tag goes on behind a text: no angle bracket in it ends the tag, and no quote in it is
left open. -/
def staysInTag (s : List Char) : Bool := splitAtTagEnd none [] (s ++ ['>']) == some (s, [])

/-- If the first angle bracket that ends a tag is the one behind a text, then the tag goes on behind
the text in front of anything. -/
theorem splitAtTagEnd_stays {quote : Option Char} {s : List Char} {seen content : List Char}
    (h : splitAtTagEnd quote seen (s ++ ['>']) = some (content, [])) (before rest : List Char) :
    splitAtTagEnd quote before (s ++ rest) = splitAtTagEnd none (s.reverse ++ before) rest := by
  induction s generalizing quote seen before with
  | nil =>
    cases quote with
    | none => rfl
    | some q => cases h
  | cons c s ih =>
    rw [List.cons_append] at h ⊢
    rw [List.reverse_cons, List.append_assoc]
    cases quote with
    | some q =>
      rw [splitAtTagEnd] at h ⊢
      exact ih h (c :: before)
    | none =>
      rw [splitAtTagEnd] at h ⊢
      by_cases hc : c = '>'
      · simp [hc] at h
      · rw [if_neg hc] at h ⊢
        exact ih h (c :: before)

/-- A tag goes on behind a text exactly if it does so in front of anything. -/
theorem staysInTag_iff {s : List Char} : staysInTag s = true ↔ Passes s := by
  rw [staysInTag, beq_iff_eq]
  constructor
  · exact fun h seen rest => splitAtTagEnd_stays h seen rest
  · intro h
    rw [h, splitAtTagEnd, List.append_nil, List.reverse_reverse]
    rfl

/-! ## Names -/

/-- Whether a name can be that of an element in its tags: they neither end inside of the name nor
begin as other markup. -/
def isPlainName (name : String) : Bool :=
  name != "" && name.toList.all (!isTagBlank ·) && staysInTag name.toList &&
    name.toList.head?.all (· ∉ ['/', '!', '?'])

/-- Whether a name can be that of an attribute in a tag. -/
def isPlainKey (key : String) : Bool :=
  key.toList.head?.any (!isTagBlank ·) && key.toList.tail.all isKeyChar && staysInTag key.toList

/-- Whether attributes have names that can be written and read again, and no two of them the same
one. -/
def arePlainAttributes (attributes : Attributes) : Bool :=
  (attributes.map Prod.fst).all isPlainKey && (attributes.map Prod.fst).Nodup

section Names

variable {name key : String}

/-- What it takes to be the name of an element. -/
theorem isPlainName_iff : isPlainName name = true ↔
    name ≠ "" ∧ (∀ c ∈ name.toList, isTagBlank c = false) ∧ Passes name.toList ∧
      ∀ c ∈ name.toList.head?, c ∉ ['/', '!', '?'] := by
  simp [isPlainName, staysInTag_iff, Option.all_eq_true, and_assoc]

example : isPlainName "a=\">\"" = true ∧ isPlainName "a\"b" = false := by decide +kernel

/-- What it takes to be the name of an attribute. -/
theorem isPlainKey_iff : isPlainKey key = true ↔
    ∃ first others, key.toList = first :: others ∧ isTagBlank first = false ∧
      (∀ c ∈ others, isKeyChar c = true) ∧ Passes key.toList := by
  cases hkey : key.toList with
  | nil => simp [isPlainKey, hkey]
  | cons first others => simp [isPlainKey, hkey, staysInTag_iff, and_assoc]

/-- The name of an element has characters. -/
theorem toList_ne_nil_of_isPlainName (h : isPlainName name = true) : name.toList ≠ [] :=
  fun hnil => (isPlainName_iff.1 h).1 (String.toList_eq_nil_iff.1 hnil)

/-- White space cannot be part of a key. -/
theorem isTagBlank_of_isKeyChar {c : Char} (h : isKeyChar c = true) : isTagBlank c = false := by
  rw [isKeyChar, Bool.and_eq_true, Bool.not_eq_true'] at h
  exact h.2

/-- There is no white space in the name of an attribute. -/
theorem isTagBlank_of_isPlainKey (h : isPlainKey key = true) :
    ∀ c ∈ key.toList, isTagBlank c = false := by
  obtain ⟨first, others, hchars, hfirst, hothers, -⟩ := isPlainKey_iff.1 h
  rw [hchars, List.forall_mem_cons]
  exact ⟨hfirst, fun c hc => isTagBlank_of_isKeyChar (hothers c hc)⟩

/-- A name is a local name exactly if it has no colon. -/
theorem localName_eq_self_iff : localName name = name ↔ ':' ∉ name.toList := by
  rw [localName, localChars]
  split
  · rename_i hnone
    rw [String.ofList_toList, eq_self_iff_true, true_iff]
    intro hmem
    exact absurd (dropWhile_eq_nil_iff.1 hnone ':' hmem) (by decide)
  · rename_i c rest hsome
    have hsuffix : c :: rest <:+ name.toList := hsome ▸ List.dropWhile_suffix _
    have hc : c = ':' := by
      have hstop := head?_dropWhile_eq_false (· != ':') name.toList c (by rw [hsome]; rfl)
      simpa using hstop
    constructor
    · intro heq
      have hlength := hsuffix.length_le
      rw [← heq, String.toList_ofList, List.length_cons] at hlength
      omega
    · intro hnone
      exact absurd (hsuffix.subset List.mem_cons_self) (hc ▸ hnone)

/-- The name in a closing tag is found. -/
theorem closeName_of_isPlainName (h : isPlainName name = true) :
    closeName name.toList = name.toList := by
  rcases List.eq_nil_or_concat name.toList with hnil | ⟨front, last, hconcat⟩
  · exact absurd hnil (toList_ne_nil_of_isPlainName h)
  · have hlast : isTagBlank last = false := by
      apply (isPlainName_iff.1 h).2.1
      simp [hconcat]
    have hclose : closeName (front ++ [last] ++ []) = front ++ [last] :=
      closeName_of_last hlast nofun
    rwa [List.append_nil, ← List.concat_eq_append, ← hconcat] at hclose

/-- A letter is none of the characters with a meaning in a tag. -/
theorem ne_of_isAlpha {c : Char} (h : c.isAlpha = true) {d : Char} (hd : d.isAlpha = false) :
    c ≠ d := by
  rintro rfl
  rw [h] at hd
  cases hd

/-- A letter can be part of a key. -/
theorem isKeyChar_of_isAlpha {c : Char} (h : c.isAlpha = true) : isKeyChar c = true := by
  simp [isKeyChar, isTagBlank, ne_of_isAlpha h]

/-- A tag does not end inside of letters. -/
theorem passes_of_isAlpha {s : List Char} (h : ∀ c ∈ s, c.isAlpha = true) : Passes s := by
  induction s with
  | nil => exact .nil
  | cons c s ih =>
    rw [List.forall_mem_cons] at h
    exact .cons (ne_of_isAlpha h.1 rfl) (ne_of_isAlpha h.1 rfl) (ne_of_isAlpha h.1 rfl) (ih h.2)

/-- A name that is made of letters has characters, and all of them are letters. -/
theorem isName_iff : isName name = true ↔ name ≠ "" ∧ ∀ c ∈ name.toList, c.isAlpha = true := by
  rw [isName, Bool.and_eq_true, bne_iff_ne, List.all_eq_true]

/-- A name that is made of letters has no colon. -/
theorem localName_of_isName (h : isName name = true) : localName name = name :=
  localName_eq_self_iff.2 fun hmem => absurd ((isName_iff.1 h).2 _ hmem) (by decide)

/-- A name that is made of letters does not end with a slash. -/
theorem getLast?_ne_of_isName (h : isName name = true) : name.toList.getLast? ≠ some '/' := by
  intro hlast
  exact absurd ((isName_iff.1 h).2 '/' (List.mem_of_getLast? hlast)) (by decide)

/-- A name that is made of letters can be that of an element. -/
theorem isPlainName_of_isName (h : isName name = true) : isPlainName name = true := by
  obtain ⟨hne, hletters⟩ := isName_iff.1 h
  refine isPlainName_iff.2 ⟨hne, fun c hc => ?_, passes_of_isAlpha hletters, fun c hc => ?_⟩
  · exact isTagBlank_of_isKeyChar (isKeyChar_of_isAlpha (hletters c hc))
  · have hletter := hletters c (List.mem_of_mem_head? hc)
    simp [ne_of_isAlpha hletter]

/-- A name that is made of letters can be that of an attribute. -/
theorem isPlainKey_of_isName (h : isName name = true) : isPlainKey name = true := by
  obtain ⟨hne, hletters⟩ := isName_iff.1 h
  obtain ⟨first, others, hchars⟩ :=
    List.exists_cons_of_ne_nil fun hnil => hne (String.toList_eq_nil_iff.1 hnil)
  have hpasses := passes_of_isAlpha hletters
  rw [hchars, List.forall_mem_cons] at hletters
  have hfirst := isTagBlank_of_isKeyChar (isKeyChar_of_isAlpha hletters.1)
  exact isPlainKey_iff.2 ⟨first, others, hchars, hfirst,
    fun c hc => isKeyChar_of_isAlpha (hletters.2 c hc), hpasses⟩

/-- Attributes whose names are made of letters can be written and read again. -/
theorem arePlainAttributes_of_areAttributes {attributes : Attributes}
    (h : areAttributes attributes = true) : arePlainAttributes attributes = true := by
  rw [areAttributes, Bool.and_eq_true] at h
  rw [arePlainAttributes, Bool.and_eq_true]
  refine ⟨List.all_eq_true.2 fun key hkey => ?_, h.2⟩
  exact isPlainKey_of_isName (List.all_eq_true.1 h.1 key hkey)

end Names

/-! ## Values -/

/-- What is written for a character has none of the characters that end a value or a text. -/
theorem not_mem_escapeChar {d : Char} (hd : d ∈ ['<', '>', '"', '\'']) (c : Char) :
    d ∉ escapeChar c := by
  unfold escapeChar
  split
  · rename_i name e hfind
    have hentities : ∀ entity ∈ namedEntities,
        (['<', '>', '"', '\''].all fun d => d ∉ '&' :: entity.1.toList ++ [';']) = true := by
      decide
    have hentity := List.all_eq_true.1 (hentities _ (List.mem_of_find?_eq_some hfind)) d hd
    exact of_decide_eq_true hentity
  · rename_i hfind
    rw [List.mem_singleton]
    rintro rfl
    have hspecial :
        (['<', '>', '"', '\''].all fun d => (namedEntities.find? (·.2 == d)).isSome) = true := by
      decide
    have hsome := List.all_eq_true.1 hspecial d hd
    rw [hfind] at hsome
    cases hsome

/-- What is written for a text has none of them either. -/
theorem not_mem_escape {d : Char} (hd : d ∈ ['<', '>', '"', '\'']) (t : List Char) :
    d ∉ t.flatMap escapeChar := by
  intro hmem
  rcases List.mem_flatMap.1 hmem with ⟨c, -, hc⟩
  exact not_mem_escapeChar hd c hc

/-- What is written for a text spells it between quotes. -/
theorem readValue_write (position total : Nat) (t rest : List Char) :
    ∃ next, readValue position total ('"' :: (t.flatMap escapeChar ++ '"' :: rest)) =
      .ok (t.flatMap escapeChar, next, rest) := by
  have hvalue : ∀ c ∈ t.flatMap escapeChar, (c != '"') = true := by
    intro c hc
    rw [bne_iff_ne]
    rintro rfl
    exact not_mem_escape (by decide) t hc
  have hstop : ∀ c ∈ ('"' :: rest).head?, (c != '"') = false := by
    rintro c ⟨⟩
    rfl
  have htake := takeWhile_append_stop hvalue hstop
  have hdrop := dropWhile_append_stop hvalue hstop
  have hblank : ('"' :: (t.flatMap escapeChar ++ '"' :: rest)).dropWhile isTagBlank =
      '"' :: (t.flatMap escapeChar ++ '"' :: rest) := rfl
  simp only [readValue, hblank, true_or, if_true, hdrop, htake]
  exact ⟨_, rfl⟩

/-! ## Tags -/

section Tags

/-- A printed attribute is read if its key is new. -/
theorem readAttribute_write {seen : List (List Char × Nat)} {key : String} {first : Char}
    {others : List Char} (hothers : ∀ c ∈ others, isKeyChar c = true)
    (hchars : key.toList = first :: others) (hnew : seen.lookup key.toList = none)
    (position total : Nat) (t rest : List Char) :
    ∃ next, readAttribute seen position total first
        (others ++ '=' :: '"' :: (t.flatMap escapeChar ++ '"' :: rest)) =
      .ok (key.toList, t.flatMap escapeChar, next, rest) := by
  have hstop : ∀ c ∈ ('=' :: '"' :: (t.flatMap escapeChar ++ '"' :: rest)).head?,
      isKeyChar c = false := by
    rintro c ⟨⟩
    rfl
  have htake := takeWhile_append_stop hothers hstop
  have hdrop := dropWhile_append_stop hothers hstop
  have hcheck : checkKey seen (first :: others) position = .ok () := by
    rw [checkKey, ← hchars, hnew]
  have hequals : readEquals (position + byteLength (first :: others))
      ('=' :: '"' :: (t.flatMap escapeChar ++ '"' :: rest)) =
        .ok (position + byteLength (first :: others) + 1,
          '"' :: (t.flatMap escapeChar ++ '"' :: rest)) := rfl
  rcases readValue_write (position + byteLength (first :: others) + 1) total t rest with
    ⟨next, hvalue⟩
  refine ⟨next, ?_⟩
  simp only [readAttribute, htake, hdrop, hequals, bind, Except.bind, hcheck, hvalue]
  rw [hchars]
  rfl

/-- Printed attributes are read if their keys are new and all different. -/
theorem readAttributes_write {attributes : Attributes}
    (hnames : ∀ key ∈ attributes.map Prod.fst, isPlainKey key = true)
    (hnodup : (attributes.map Prod.fst).Nodup) (seen : List (List Char × Nat))
    (hnew : ∀ key ∈ attributes.map Prod.fst, seen.lookup key.toList = none)
    (position total : Nat) :
    readAttributes seen position total (attributes.flatMap writeAttribute) = .ok attributes := by
  induction attributes generalizing seen position with
  | nil => exact readAttributes_nil seen position total
  | cons entry attributes ih =>
    rcases entry with ⟨key, value⟩
    rw [List.map_cons, List.forall_mem_cons] at hnames hnew
    rw [List.map_cons, List.nodup_cons] at hnodup
    obtain ⟨first, others, hchars, hfirst, hkey, -⟩ := isPlainKey_iff.1 hnames.1
    have hwritten : (((key, value) :: attributes).flatMap writeAttribute) =
        ' ' :: first :: (others ++ '=' :: '"' :: (value.toList.flatMap escapeChar ++
          '"' :: attributes.flatMap writeAttribute)) := by
      simp [writeAttribute, hchars]
    rcases readAttribute_write hkey hchars hnew.1 (position + ' '.utf8Size) total value.toList
      (attributes.flatMap writeAttribute) with ⟨next, hread⟩
    have hothers : ∀ key' ∈ attributes.map Prod.fst,
        ((key.toList, position + ' '.utf8Size) :: seen).lookup key'.toList = none := by
      intro key' hkey'
      have hne : (key'.toList == key.toList) = false := by
        rw [beq_eq_false_iff_ne]
        intro heq
        exact hnodup.1 (String.toList_inj.1 heq ▸ hkey')
      rw [List.lookup_cons, hne]
      exact hnew.2 key' hkey'
    have hrest := ih hnames.2 hnodup.2 _ hothers next
    have htext := unescape_eq_ok_iff.2 (spells_escape value.toList)
    have hspace : isTagBlank ' ' = true := rfl
    rw [hwritten, readAttributes, if_pos hspace, readAttributes, hfirst]
    simp only [Bool.false_eq_true, if_false]
    split
    · rename_i heq
      rw [hread] at heq
      cases heq
    · rename_i heq
      rw [hread] at heq
      cases heq
      simp only [htext, Except.mapError, hrest, bind, Except.bind, String.ofList_toList]
      rfl

/-- Printed attributes are nothing, or they begin with a space. -/
theorem head?_flatMap_writeAttribute (attributes : Attributes) :
    ∀ c ∈ (attributes.flatMap writeAttribute).head?, c = ' ' := by
  intro c hc
  cases attributes with
  | nil => cases hc
  | cons entry attributes =>
    rcases entry with ⟨key, value⟩
    cases hc
    rfl

/-- The content of a printed tag is read. -/
theorem readTag_writeTag {name : String} {attributes : Attributes} (hname : isPlainName name = true)
    (hattributes : arePlainAttributes attributes = true) :
    readTag (writeTag name attributes) = .ok (name, attributes) := by
  rw [arePlainAttributes, Bool.and_eq_true, List.all_eq_true, decide_eq_true_iff] at hattributes
  have hletters : ∀ c ∈ name.toList, (!isTagBlank c) = true := by
    intro c hc
    rw [(isPlainName_iff.1 hname).2.1 c hc]
    rfl
  have hstop : ∀ c ∈ (attributes.flatMap writeAttribute).head?, (!isTagBlank c) = false := by
    intro c hc
    rw [head?_flatMap_writeAttribute attributes c hc]
    rfl
  have hread := readAttributes_write hattributes.1 hattributes.2 [] (fun _ _ => rfl)
    (byteLength name.toList) (byteLength (writeTag name attributes))
  simp only [readTag, writeTag, takeWhile_append_stop hletters hstop,
    dropWhile_append_stop hletters hstop]
  rw [writeTag] at hread
  rw [hread, String.ofList_toList]
  rfl

/-- A tag does not end inside of a quoted value. -/
theorem passes_value (t : List Char) : Passes ('"' :: (t.flatMap escapeChar ++ ['"'])) := by
  intro seen rest
  have hquoted := splitAtTagEnd_quoted (not_mem_escape (d := '"') (by decide) t) ('"' :: seen) rest
  rw [List.cons_append, List.append_assoc, splitAtTagEnd]
  simp only [Char.reduceEq, if_false, true_or, if_true]
  rw [List.singleton_append, hquoted]
  simp

/-- A tag does not end inside of a printed attribute. -/
theorem passes_writeAttribute {key : String} (h : Passes key.toList) (value : String) :
    Passes (writeAttribute (key, value)) := by
  have hequals : Passes ('=' :: ('"' :: (value.toList.flatMap escapeChar ++ ['"']))) :=
    .cons (by decide) (by decide) (by decide) (passes_value value.toList)
  have hwhole : Passes (' ' :: (key.toList ++
      '=' :: ('"' :: (value.toList.flatMap escapeChar ++ ['"'])))) :=
    .cons (by decide) (by decide) (by decide) (h.append hequals)
  simpa [writeAttribute] using hwhole

/-- A tag does not end inside of the content of its printed form. -/
theorem passes_writeTag {name : String} {attributes : Attributes} (hname : isPlainName name = true)
    (hattributes : arePlainAttributes attributes = true) : Passes (writeTag name attributes) := by
  rw [arePlainAttributes, Bool.and_eq_true, List.all_eq_true] at hattributes
  obtain ⟨-, -, hpasses, -⟩ := isPlainName_iff.1 hname
  refine hpasses.append ?_
  have hnames := hattributes.1
  clear hattributes
  induction attributes with
  | nil => exact .nil
  | cons entry attributes ih =>
    rw [List.map_cons, List.forall_mem_cons] at hnames
    rw [List.flatMap_cons]
    obtain ⟨-, -, -, -, -, hkey⟩ := isPlainKey_iff.1 hnames.1
    exact (passes_writeAttribute hkey entry.2).append (ih hnames.2)

/-- A text in which a tag does not end, and which begins as a name, is the content of a tag. -/
theorem markupPiece_of_passes {first : Char} {others s : List Char} (hs : s = first :: others)
    (hfirst : first ∉ ['/', '!', '?']) (h : Passes s) (rest : List Char) :
    markupPiece (s ++ '>' :: rest) = .ok (.tag s, rest) := by
  have hsplit := h [] ('>' :: rest)
  rw [List.append_nil, splitAtTagEnd] at hsplit
  simp only [if_true, List.reverse_reverse] at hsplit
  have hmarks : first ≠ '!' ∧ first ≠ '?' ∧ first ≠ '/' := by
    simp only [List.mem_cons, List.not_mem_nil, or_false, not_or] at hfirst
    exact ⟨hfirst.2.1, hfirst.2.2, hfirst.1⟩
  have hdispatch := markupPiece_tag hmarks.1 hmarks.2.1 hmarks.2.2 (others ++ '>' :: rest)
  rw [← List.cons_append, ← hs, hsplit] at hdispatch
  exact hdispatch

end Tags

/-! ## Pieces -/

section Pieces

variable {p : Progress} {top : Element} {outer : Stack} {name : String} {attributes : Attributes}
  {rest : List Char} {document : Element}

/-- Attributes whose names have no colons keep them. -/
theorem localAttributes_eq_self (h : ∀ entry ∈ attributes, ':' ∉ entry.1.toList) :
    localAttributes attributes = attributes := by
  have hentry : ∀ entry ∈ attributes, (localName entry.1, entry.2) = entry := by
    intro entry hentry
    rw [localName_eq_self_iff.2 (h entry hentry)]
  exact (List.map_congr_left hentry).trans (List.map_id attributes)

/-- Attributes whose names are made of letters keep them. -/
theorem localAttributes_of_areAttributes (h : areAttributes attributes = true) :
    localAttributes attributes = attributes := by
  rw [areAttributes, Bool.and_eq_true, List.all_eq_true] at h
  refine localAttributes_eq_self fun entry hentry => ?_
  exact localName_eq_self_iff.1 (localName_of_isName (h.1 _ (List.mem_map_of_mem hentry)))

/-- The content of a tag does not begin as other markup. -/
theorem exists_writeTag (hname : isPlainName name = true) (attributes : Attributes) :
    ∃ first others, writeTag name attributes = first :: others ∧ first ∉ ['/', '!', '?'] := by
  obtain ⟨first, others, hchars⟩ := List.exists_cons_of_ne_nil (toList_ne_nil_of_isPlainName hname)
  obtain ⟨-, -, -, hhead⟩ := isPlainName_iff.1 hname
  refine ⟨first, others ++ attributes.flatMap writeAttribute, ?_, ?_⟩
  · rw [writeTag, hchars, List.cons_append]
  · apply hhead
    rw [hchars]
    rfl

/-- The content of a tag does not end with a slash if its name does not. -/
theorem getLast?_writeTag (hname : name.toList.getLast? ≠ some '/') (attributes : Attributes) :
    (writeTag name attributes).getLast? ≠ some '/' := by
  rcases List.eq_nil_or_concat attributes with rfl | ⟨front, ⟨key, value⟩, rfl⟩
  · rwa [writeTag, List.flatMap_nil, List.append_nil]
  · have hlast : (writeTag name (front.concat (key, value))).getLast? = some '"' := by
      rw [writeTag, List.concat_eq_append, List.flatMap_append, List.flatMap_singleton,
        writeAttribute, ← List.append_assoc, ← List.append_assoc, List.getLast?_concat]
    rw [hlast]
    decide

/-- A printed start tag opens an element. -/
theorem readsAs_startTag (hname : isPlainName name = true)
    (hattributes : arePlainAttributes attributes = true)
    (hslash : (writeTag name attributes).getLast? ≠ some '/')
    (h : Progress.ReadsAs
      ⟨name :: p.names, .mk (localName name) (localAttributes attributes) [] :: p.stack⟩ rest
      document) :
    p.ReadsAs ('<' :: writeTag name attributes ++ '>' :: rest) document := by
  rcases exists_writeTag hname attributes with ⟨first, others, hchars, hfirst⟩
  have hpiece := markupPiece_of_passes hchars hfirst (passes_writeTag hname hattributes) rest
  refine (Progress.readsAs_markup_iff hpiece ?_).2 h
  rw [Progress.read, readPiece, if_neg hslash, readTag_writeTag hname hattributes]
  rfl

/-- A printed tag of an element without content adds the element. -/
theorem readsAs_emptyTag (hname : isPlainName name = true)
    (hattributes : arePlainAttributes attributes = true)
    (hstack : p.stack = top :: outer)
    (h : Progress.ReadsAs
      ⟨p.names, top.push (.element (.mk (localName name) (localAttributes attributes) [])) :: outer⟩
      rest document) :
    p.ReadsAs ('<' :: writeTag name attributes ++ '/' :: '>' :: rest) document := by
  rcases exists_writeTag hname attributes with ⟨first, others, hchars, hfirst⟩
  have hslash : Passes ['/'] := .cons (by decide) (by decide) (by decide) .nil
  have hpasses := (passes_writeTag hname hattributes).append hslash
  have hwhole : writeTag name attributes ++ ['/'] = first :: (others ++ ['/']) := by
    rw [hchars, List.cons_append]
  have hpiece := markupPiece_of_passes hwhole hfirst hpasses rest
  rw [List.append_assoc] at hpiece
  refine (Progress.readsAs_markup_iff hpiece ?_).2 h
  rw [Progress.read, readPiece, if_pos List.getLast?_concat, List.dropLast_concat,
    readTag_writeTag hname hattributes]
  simp only [bind, Except.bind, pure, Except.pure, step, hstack, pushNode]

/-- A printed end tag closes the element of its name. -/
theorem readsAs_endTag {names : List String} {parent : Element} (hname : isPlainName name = true)
    (h : Progress.ReadsAs ⟨names, parent.push (.element top) :: outer⟩ rest document) :
    Progress.ReadsAs ⟨name :: names, top :: parent :: outer⟩
      ('<' :: '/' :: name.toList ++ '>' :: rest) document := by
  have hsplit := (isPlainName_iff.1 hname).2.2.1 [] ('>' :: rest)
  rw [List.append_nil, splitAtTagEnd] at hsplit
  simp only [if_true, List.reverse_reverse] at hsplit
  have hpiece : markupPiece ('/' :: name.toList ++ '>' :: rest) =
      .ok (.closeTag name.toList, rest) := by
    rw [List.cons_append]
    simp only [markupPiece, hsplit]
  refine (Progress.readsAs_markup_iff hpiece ?_).2 h
  rw [Progress.read, readPiece, closeName_of_isPlainName hname, String.ofList_toList]
  simp only [if_true]
  rfl

/-- A printed text in front of markup is added, if it is more than layout. -/
theorem readsAs_writtenText {content : String} (hlayout : isLayout content = false)
    (hempty : content ≠ "") (hrest : ∀ c ∈ rest.head?, c = '<') (hstack : p.stack = top :: outer)
    (h : Progress.ReadsAs ⟨p.names, top.append [.text content] :: outer⟩ rest document) :
    p.ReadsAs (content.toList.flatMap escapeChar ++ rest) document := by
  have htext : ∀ c ∈ content.toList.flatMap escapeChar, isTextChar c = true :=
    isTextChar_of_not_mem (not_mem_escape (by decide) content.toList)
  have hstop : ∀ c ∈ rest.head?, isTextChar c = false := by
    intro c hc
    rw [hrest c hc]
    rfl
  have hread := Progress.readAll_textPieces (spells_escape content.toList) hstack
  rw [textNodes_of_not_layout hlayout hempty] at hread
  exact (Progress.readsAs_text_iff htext hstop hread).2 h

end Pieces

/-! ## Whole trees -/

/-- Printed nodes that do not begin with a text begin with a tag. -/
theorem head?_writeNodes (brief : Element → Bool) {nodes : List Node}
    (h : beginsWithText nodes = false) {rest : List Char} (hrest : ∀ c ∈ rest.head?, c = '<') :
    ∀ c ∈ (writeNodes brief nodes ++ rest).head?, c = '<' := by
  intro c hc
  match nodes with
  | [] => exact hrest c hc
  | .text _ :: _ => cases h
  | .element (.mk name attributes children) :: nodes =>
    rw [writeNodes, Element.write] at hc
    split at hc <;> cases hc <;> rfl

mutual

/-- A printed element is read as one more child of the innermost open element. -/
theorem readsAs_write (brief : Element → Bool) {p : Progress} {top : Element} {outer : Stack}
    {rest : List Char} {document : Element} (hstack : p.stack = top :: outer) :
    ∀ element : Element, element.isPrintable = true →
      Progress.ReadsAs ⟨p.names, top.append [.element element] :: outer⟩ rest document →
      p.ReadsAs (element.write brief ++ rest) document
  | .mk name attributes children, hprintable, h => by
    simp only [Element.isPrintable, Bool.and_eq_true] at hprintable
    obtain ⟨⟨hletters, hnames⟩, hchildren⟩ := hprintable
    have hname := isPlainName_of_isName hletters
    have hattributes := arePlainAttributes_of_areAttributes hnames
    have hlocal := localName_of_isName hletters
    have hlocals := localAttributes_of_areAttributes hnames
    have hslash := getLast?_ne_of_isName hletters
    rw [Element.append_singleton] at h
    rw [Element.write]
    split
    · rename_i hbrief
      rw [Bool.and_eq_true, List.isEmpty_iff] at hbrief
      obtain ⟨rfl, -⟩ := hbrief
      have hempty := readsAs_emptyTag hname hattributes hstack (by rwa [hlocal, hlocals])
      simpa using hempty
    · have hend := readsAs_endTag hname h
      have hclosing : ∀ c ∈ ('<' :: '/' :: name.toList ++ '>' :: rest).head?, c = '<' := by
        rintro c ⟨⟩
        rfl
      have hopen : (⟨name :: p.names, .mk name attributes [] :: top :: outer⟩ : Progress).stack =
        .mk name attributes [] :: top :: outer := rfl
      have hcontent := readsAs_writeNodes brief hopen hclosing children hchildren hend
      have hstart := readsAs_startTag hname hattributes (getLast?_writeTag hslash attributes)
        (by rwa [hlocal, hlocals, hstack])
      simpa using hstart

/-- Printed nodes in front of a tag are read as more children of the innermost open element. -/
theorem readsAs_writeNodes (brief : Element → Bool) {p : Progress} {top : Element} {outer : Stack}
    {rest : List Char} {document : Element} (hstack : p.stack = top :: outer)
    (hrest : ∀ c ∈ rest.head?, c = '<') :
    ∀ nodes : List Node, arePrintable nodes = true →
      Progress.ReadsAs ⟨p.names, top.append nodes :: outer⟩ rest document →
      p.ReadsAs (writeNodes brief nodes ++ rest) document
  | [], _, h => by
    rw [Element.append_nil, ← hstack] at h
    rw [writeNodes, List.nil_append]
    exact h
  | .element element :: nodes, hprintable, h => by
    simp only [arePrintable, Bool.and_eq_true] at hprintable
    have happend := Element.append_append top [.element element] nodes
    rw [List.singleton_append] at happend
    rw [happend] at h
    rw [writeNodes, List.append_assoc]
    have hothers := readsAs_writeNodes brief (p := ⟨p.names, _⟩) rfl hrest nodes hprintable.2 h
    exact readsAs_write brief hstack element hprintable.1 hothers
  | .text content :: nodes, hprintable, h => by
    simp only [arePrintable, Bool.and_eq_true, bne_iff_ne, Bool.not_eq_true'] at hprintable
    obtain ⟨⟨⟨hempty, hlayout⟩, hnext⟩, hnodes⟩ := hprintable
    have happend := Element.append_append top [.text content] nodes
    rw [List.singleton_append] at happend
    rw [happend] at h
    rw [writeNodes, List.append_assoc]
    have hothers := readsAs_writeNodes brief (p := ⟨p.names, _⟩) rfl hrest nodes hnodes h
    exact readsAs_writtenText hlayout hempty (head?_writeNodes brief hnext hrest) hstack hothers

end

/-- A printed tree is read as the only child of its document, however elements without content
are printed. -/
theorem parse_write (brief : Element → Bool) {root : Element} (hroot : root.isPrintable = true) :
    parse (String.ofList (root.write brief)) = .ok (.mk "" [] [.element root]) := by
  have hend : Progress.ReadsAs ⟨[], [Element.document.append [.element root]]⟩ []
      (.mk "" [] [.element root]) := by
    refine ⟨by rw [cutPieces], ⟨[], [Element.document.append [.element root]]⟩, ?_, rfl⟩
    rw [cutPieces]
    rfl
  have hread := readsAs_write brief (p := .start) rfl root hroot hend
  have hmark : withoutMark (root.write brief ++ []) = root.write brief ++ [] := by
    rcases root with ⟨name, attributes, children⟩
    rw [Element.write]
    split <;> rfl
  rw [parse_eq_ok_iff, String.toList_ofList]
  rw [← hmark, List.append_nil] at hread
  exact hread

/-- A template with an attribute, two texts and an element without content. -/
def farewell : Element :=
  .mk "template" [("lang", "\"en\" > 'de'")]
    [.text "Bye & ", .element (.mk "get" [("name", "user")] []), .text "\n<3"]

/-- The template is printed with entities, and read again. -/
theorem parse_write_farewell :
    farewell.isPrintable = true ∧
      String.ofList (farewell.write fun _ => true) =
        "<template lang=\"&quot;en&quot; &gt; &apos;de&apos;\">" ++
          "Bye &amp; <get name=\"user\"/>\n&lt;3</template>" ∧
      parse (String.ofList (farewell.write fun _ => true)) =
        .ok (.mk "" [] [.element farewell]) := by
  have hprintable : farewell.isPrintable = true := by decide +kernel
  refine ⟨hprintable, ?_, parse_write _ hprintable⟩
  decide +kernel

end Dialogue.Markup
