import Dialogue.Proofs.Category.Templates
import Dialogue.Proofs.Category.Wordings
import Dialogue.Proofs.Resolution.Alike
import Mathlib.Tactic.MkIffOfInductiveProp

/-!
# Rule sources with remarks

A comment or an instruction in a rule source is read as nothing, but the text that it is put into
comes in two halves, and these are treated one by one.  This is noticed if a word of a pattern
comes apart, if there is a line break at the seam, or if the value of a variable no longer begins
with a wildcard that stands alone.  Everywhere else the categories of the source match and answer
as before.

Main results:

- Theorem `Unnoticed.nil_left`, `Unnoticed.nil_right`, `Unnoticed.of_isLayout`,
  `Unnoticed.of_plain`: places where a remark is not noticed.
- Theorem `Category.alike_ofElement?`: a remark that is not noticed leaves the category alone.
- Theorem `categoriesIn_alike`: it leaves all categories of a document alone.
- Theorem `parseCategories_insert`: a rule source with a remark that is not noticed has categories
  that match and answer as those of the source without it.
-/

namespace Dialogue

open Text Markup

/-! ## Seams in the elements of a category -/

/-- Whether the content of an element with a name is a wording. -/
def isWordingTag (tag : String) : Bool :=
  Element.sameTag tag "pattern" || Element.sameTag tag "that"

/-- When it does not matter that a text comes in two halves `s` and `t`, in elements with the names
`tags`, the innermost first. -/
@[mk_iff]
structure Unnoticed (s t : List Char) (tags : List String) : Prop where
  /-- Right in a wording, no word comes apart. -/
  undivided : ∀ tag ∈ tags.head?, isWordingTag tag = true → words (s ++ t) = words s ++ words t
  /-- Deeper in a wording, the halves stand for what the text stands for. -/
  inWording : ∀ tag ∈ tags.tail, isWordingTag tag = true → Seamless s t
  /-- So they do anywhere in a template. -/
  inTemplate : ∀ tag ∈ tags, Element.sameTag tag "template" = true → Seamless s t
  /-- Right in the value of a variable, the first half stands for a capture if the text does. -/
  inValue : ∀ tag ∈ tags.head?, TagMeaning.ofName tag = .set → KeepsCaptureMark s t

variable {s t : List Char} {tags : List String} {element element' : Element}

instance : Decidable (Unnoticed s t tags) := decidable_of_iff' _ (unnoticed_iff s t tags)

namespace Unnoticed

/-- What is not noticed in an element is not noticed in an element inside of it. -/
theorem inner {name : String} (h : Unnoticed s t (tags ++ [name])) (hne : tags ≠ []) :
    Unnoticed s t tags := by
  rcases List.exists_cons_of_ne_nil hne with ⟨first, outer, rfl⟩
  exact ⟨h.undivided, fun tag htag => h.inWording tag (List.mem_append_left _ htag),
    fun tag htag => h.inTemplate tag (List.mem_append_left _ htag), h.inValue⟩

/-- Halves that stand for what the text stands for are not noticed unless a word or the value of a
variable comes apart. -/
theorem of_seamless (hseam : Seamless s t)
    (hword : ∀ tag ∈ tags.head?, isWordingTag tag = true → words (s ++ t) = words s ++ words t)
    (hvalue : ∀ tag ∈ tags.head?, TagMeaning.ofName tag = .set → KeepsCaptureMark s t) :
    Unnoticed s t tags :=
  ⟨hword, fun _ _ _ => hseam, fun _ _ _ => hseam, hvalue⟩

/-- At the beginning of a text nothing is noticed. -/
theorem nil_left (t : List Char) (tags : List String) : Unnoticed [] t tags :=
  .of_seamless (seamless_nil_left t) (fun _ _ _ => rfl) fun _ _ _ => .inl rfl

/-- At the end of a text nothing is noticed. -/
theorem nil_right (s : List Char) (tags : List String) : Unnoticed s [] tags := by
  refine .of_seamless (seamless_nil_right s) (fun _ _ _ => ?_) fun _ _ _ => .inr (.inl rfl)
  rw [List.append_nil]
  exact (List.append_nil _).symm

/-- Between lines without content nothing is noticed. -/
theorem of_isLayout (hs : isLayout (String.ofList s) = true)
    (ht : isLayout (String.ofList t) = true) (tags : List String) : Unnoticed s t tags := by
  refine .of_seamless (seamless_of_isLayout hs ht) (fun _ _ _ => ?_) fun _ _ _ => .inl ?_
  · rw [words_append_of_blank t (List.all_eq_true.1 (isLayout_iff.1 hs).1),
      words_eq_nil_iff.2 (isLayout_iff.1 hs).1, List.nil_append]
  · rw [prose, if_pos hs]

/-- In an element that is neither a wording nor the value of a variable, nothing is noticed unless
there is a line feed among the blanks at the seam. -/
theorem of_plain {tag : String} (hs : '\n' ∉ s.rtakeWhile isBlank)
    (ht : '\n' ∉ t.takeWhile isBlank) (hwording : isWordingTag tag = false)
    (hvalue : TagMeaning.ofName tag ≠ .set) (tags : List String) : Unnoticed s t (tag :: tags) := by
  refine .of_seamless (seamless_of_plain hs ht) ?_ ?_
  · rintro tag ⟨⟩ hwording'
    rw [hwording] at hwording'
    cases hwording'
  · rintro tag ⟨⟩ hset
    exact absurd hset hvalue

end Unnoticed

/-! ## Children -/

/-- The elements in two lists of nodes come one after the other. -/
theorem elements_append (name : String) (attributes : Attributes) (nodes later : List Node) :
    (Element.mk name attributes (nodes ++ later)).elements =
      (Element.mk name attributes nodes).elements ++ (Element.mk name attributes later).elements :=
  List.filterMap_append

/-- Text is no element. -/
theorem elements_textNodes (name : String) (attributes : Attributes) (s : List Char) :
    (Element.mk name attributes (textNodes s)).elements = [] := by
  rw [textNodes]
  split <;> rfl

/-- What depends on a child element is the same if the text that comes in two halves is in another
child, or if it does not matter in this one. -/
theorem map_child?_congr {α : Type} {f : Element → α} {tag : String}
    (h : Element.Differs (textNodes (s ++ t)) (textNodes s ++ textNodes t) tags element element')
    (hf : ∀ inner child child', tags = inner ++ [element.name] → child.is tag = true →
      Element.Differs (textNodes (s ++ t)) (textNodes s ++ textNodes t) inner child child' →
        f child = f child') :
    (element.child? tag).map f = (element'.child? tag).map f := by
  cases h with
  | here name attributes before after =>
    simp only [Element.child?, elements_append, elements_textNodes, List.append_nil]
  | @inside inner child child' name attributes before after h =>
    have helements : ∀ child, (Element.mk name attributes
        (before ++ .element child :: after)).elements =
          (Element.mk name attributes before).elements ++
            child :: (Element.mk name attributes after).elements :=
      fun child => elements_append name attributes before (.element child :: after)
    have hsame : child'.is tag = child.is tag := by rw [Element.is, Element.is, h.name_eq]
    simp only [Element.child?, helements, List.find?_append, List.find?_cons, hsame]
    cases (Element.mk name attributes before).elements.find? (·.is tag) with
    | some found => rfl
    | none =>
      cases htag : child.is tag with
      | false => rfl
      | true => exact congrArg some (hf inner child child' rfl htag h)

/-! ## Categories -/

/-- A seam that is not noticed leaves all captures of a wording alone. -/
theorem captures?_congr_of_unnoticed (hunnoticed : Unnoticed s t tags)
    (h : Element.Differs (textNodes (s ++ t)) (textNodes s ++ textNodes t) tags element element')
    (hwording : isWordingTag element.name = true) :
    (Wording.ofElement element).captures? = (Wording.ofElement element').captures? := by
  funext profile vars input
  refine captures?_congr_of_differs h (fun htags => ?_) (fun htags => ?_) profile vars input
  · exact hunnoticed.undivided element.name (by rw [htags]; rfl) hwording
  · rcases h.exists_tags with ⟨inner, rfl⟩
    cases inner with
    | nil => exact absurd rfl htags
    | cons first inner =>
      exact hunnoticed.inWording element.name
        (List.mem_append_right inner (List.mem_singleton.2 rfl)) hwording

/-- A seam that is not noticed leaves every answer of a template alone. -/
theorem respond_congr_of_unnoticed (hunnoticed : Unnoticed s t tags)
    (h : Element.Differs (textNodes (s ++ t)) (textNodes s ++ textNodes t) tags element element')
    (htemplate : element.is "template" = true) (setting : Setting) :
    respond setting (fragmentsOf element.children) =
      respond setting (fragmentsOf element'.children) := by
  have hmem : element.name ∈ tags := by
    rcases h.exists_tags with ⟨inner, rfl⟩
    exact List.mem_append_right inner (List.mem_singleton.2 rfl)
  have hseam := hunnoticed.inTemplate element.name hmem htemplate
  exact (alike_of_differs hseam hunnoticed.inValue h).1.fragments.answer setting

/-- A seam that is not noticed leaves all captures of the wordings in a category alone. -/
theorem wordings_congr_of_unnoticed (hunnoticed : Unnoticed s t tags)
    (h : Element.Differs (textNodes (s ++ t)) (textNodes s ++ textNodes t) tags element element')
    (tag : String) (htag : ∀ child : Element, child.is tag = true →
      isWordingTag child.name = true) :
    (element.child? tag).map (fun child => (Wording.ofElement child).captures?) =
      (element'.child? tag).map (fun child => (Wording.ofElement child).captures?) := by
  refine map_child?_congr h ?_
  rintro inner child child' rfl his hchild
  exact captures?_congr_of_unnoticed (hunnoticed.inner hchild.tags_ne_nil) hchild (htag child his)

/-- A seam that is not noticed leaves every answer of the template in a category alone. -/
theorem template_congr_of_unnoticed (hunnoticed : Unnoticed s t tags)
    (h : Element.Differs (textNodes (s ++ t)) (textNodes s ++ textNodes t) tags element element')
    (setting : Setting) :
    (element.child? "template").map
        (fun child => respond setting (fragmentsOf child.children)) =
      (element'.child? "template").map
        (fun child => respond setting (fragmentsOf child.children)) := by
  refine map_child?_congr h ?_
  rintro inner child child' rfl his hchild
  exact respond_congr_of_unnoticed (hunnoticed.inner hchild.tags_ne_nil) hchild his setting

/-- A seam that is not noticed leaves the category alone that an element is. -/
theorem Category.alike_ofElement? (hunnoticed : Unnoticed s t tags)
    (h : Element.Differs (textNodes (s ++ t)) (textNodes s ++ textNodes t) tags element element') :
    Option.Rel Category.Alike (ofElement? element) (ofElement? element') := by
  have hpattern := wordings_congr_of_unnoticed hunnoticed h "pattern"
    fun child his => Bool.or_eq_true_iff.2 (.inl his)
  have hthat := wordings_congr_of_unnoticed hunnoticed h "that"
    fun child his => Bool.or_eq_true_iff.2 (.inr his)
  have htemplate := template_congr_of_unnoticed hunnoticed h
  rw [ofElement?, ofElement?]
  cases hfirst : element.child? "pattern" with
  | none =>
    cases hfirst' : element'.child? "pattern" with
    | none => exact .none
    | some pattern' =>
      rw [hfirst, hfirst'] at hpattern
      cases hpattern
  | some pattern =>
    cases hfirst' : element'.child? "pattern" with
    | none =>
      rw [hfirst, hfirst'] at hpattern
      cases hpattern
    | some pattern' =>
      rw [hfirst, hfirst', Option.map_some, Option.map_some, Option.some_inj] at hpattern
      refine .some ⟨fun profile vars question => ?_, fun profile vars answer => ?_,
        fun setting => ?_, rfl⟩
      · exact congrFun₃ hpattern profile vars question
      · have hanswer := congrArg (Option.map fun captures => captures profile vars answer) hthat
        rw [Option.map_map, Option.map_map] at hanswer ⊢
        exact hanswer
      · have hgetD := congrArg (Option.getD · (respond setting [])) (htemplate setting)
        rw [← Option.getD_map (respond setting), ← Option.getD_map (respond setting),
          Option.map_map, Option.map_map]
        exact hgetD

/-- Related values, if there are any, are related lists. -/
theorem forall₂_toList {α : Type} {R : α → α → Prop} {a b : Option α} (h : Option.Rel R a b) :
    List.Forall₂ R a.toList b.toList := by
  cases h with
  | none => exact .nil
  | some h => exact .cons h .nil

/-- The categories in two lists of nodes come one after the other. -/
theorem categoriesOf_append (nodes later : List Node) :
    categoriesOf (nodes ++ later) = categoriesOf nodes ++ categoriesOf later := by
  induction nodes with
  | nil => rw [List.nil_append, categoriesOf, List.nil_append]
  | cons node nodes ih =>
    cases node <;> simp only [List.cons_append, categoriesOf, ih, List.append_assoc]

/-- Text is no category. -/
theorem categoriesOf_textNodes (s : List Char) : categoriesOf (textNodes s) = [] := by
  rw [textNodes]
  split <;> simp only [categoriesOf]

/-- A seam that is not noticed leaves all categories in an element alone. -/
theorem categoriesIn_alike (hunnoticed : Unnoticed s t tags)
    (h : Element.Differs (textNodes (s ++ t)) (textNodes s ++ textNodes t) tags element element') :
    List.Forall₂ Category.Alike (categoriesIn element) (categoriesIn element') := by
  induction h with
  | here name attributes before after =>
    simp only [categoriesIn, categoriesOf_append, categoriesOf_textNodes, List.append_nil]
    exact List.forall₂_refl _
  | @inside tags inner inner' name attributes before after h ih =>
    have hinner := hunnoticed.inner h.tags_ne_nil
    have hsame : inner'.is "category" = inner.is "category" := by
      rw [Element.is, Element.is, h.name_eq]
    simp only [categoriesIn, categoriesOf_append, categoriesOf, hsame]
    refine List.rel_append (List.forall₂_refl _) (List.rel_append ?_ (List.forall₂_refl _))
    split
    · exact forall₂_toList (Category.alike_ofElement? hinner h)
    · exact ih hinner

/-! ## Rule sources -/

/-- The categories of a rule source are those of the document that its events build. -/
theorem parseCategories_of_readEvents {text : String} {events : List Event} {document : Element}
    (hread : readEvents text = .ok events) (hbuild : build events = .ok document) :
    parseCategories text = .ok (categoriesIn document) := by
  rw [parseCategories, parse, hread]
  exact congrArg (Except.map categoriesIn) hbuild

/-- A rule source with a remark that is not noticed has categories that match the same questions
with the same captures and whose templates give the same answers, whatever is bound; a request
comes to the same with them, whatever else is loaded. -/
theorem parseCategories_insert {before after mark : String} (place : Place before after)
    (hbefore : before ≠ "") (hmark : IsRemark mark)
    (hunnoticed : Unnoticed place.behind place.ahead place.tags) {categories : List Category}
    (hparse : parseCategories (before ++ after) = .ok categories) :
    ∃ categories', parseCategories (before ++ (mark ++ after)) = .ok categories' ∧
      List.Forall₂ Category.Alike categories categories' ∧
      ∀ (kb : KnowledgeBase) (later : List (List Category)) (profile : Bindings) (limit : Nat)
        (conversation : Conversation) (question : String),
        resolve (later.foldl KnowledgeBase.append (kb.append categories)) profile limit
            conversation question =
          resolve (later.foldl KnowledgeBase.append (kb.append categories')) profile limit
            conversation question := by
  rw [parseCategories] at hparse
  cases hdocument : parse (before ++ after) with
  | error fault =>
    rw [hdocument] at hparse
    cases hparse
  | ok document =>
    rw [hdocument] at hparse
    cases hparse
    rcases parse_insert place hbefore hmark hdocument with ⟨document', hdocument', hdiffers⟩
    have halike := categoriesIn_alike hunnoticed hdiffers
    refine ⟨categoriesIn document', ?_, halike, fun kb later => ?_⟩
    · rw [parseCategories, hdocument']
      rfl
    · exact resolve_alike (KnowledgeBase.foldl_append_alike (kb.append_alike halike) rfl later)

/-- The place in front of a wildcard. -/
def wildcardPlace : Place "<category><pattern>HELLO "
    "*</pattern><template>Hi <star/></template></category>" where
  events := [.opened "category" [], .opened "pattern" [], .text "HELLO "]
  stack := [.mk "pattern" [] [.text "HELLO "], .mk "category" [] [], .document]
  ahead := ['*']
  reads := by decide +kernel
  builds := rfl
  spells := by decide +kernel

/-- A comment in front of a wildcard is not noticed. -/
theorem parseCategories_insert_wildcard :
    ∃ categories', parseCategories ("<category><pattern>HELLO " ++ ("<!-- the name -->" ++
        "*</pattern><template>Hi <star/></template></category>")) = .ok categories' ∧
      List.Forall₂ Category.Alike [⟨⟨[.text "HELLO *"]⟩, none, [.text "Hi ", .star], 0⟩]
        categories' ∧
      ∀ (kb : KnowledgeBase) (later : List (List Category)) (profile : Bindings) (limit : Nat)
        (conversation : Conversation) (question : String),
        resolve (later.foldl KnowledgeBase.append
            (kb.append [⟨⟨[.text "HELLO *"]⟩, none, [.text "Hi ", .star], 0⟩])) profile limit
            conversation question =
          resolve (later.foldl KnowledgeBase.append (kb.append categories')) profile limit
            conversation question := by
  have hmark : IsRemark "<!-- the name -->" :=
    ⟨_, _, rfl, .comment (by decide : ¬['-', '-'] <:+: " the name ".toList ++ ['-'])⟩
  have hunnoticed : Unnoticed wildcardPlace.behind wildcardPlace.ahead wildcardPlace.tags :=
    by decide +kernel
  have hread : readEvents ("<category><pattern>HELLO " ++
      "*</pattern><template>Hi <star/></template></category>") =
        .ok [.opened "category" [], .opened "pattern" [], .text "HELLO *", .closed "pattern",
          .opened "template" [], .text "Hi ", .empty "star" [], .closed "template",
          .closed "category"] := by decide +kernel
  refine parseCategories_insert wildcardPlace (by decide) hmark hunnoticed ?_
  exact parseCategories_of_readEvents hread rfl

/-- The place in the middle of a word. -/
def wordPlace : Place "<category><pattern>HEL"
    "LO</pattern><template>Hi</template></category>" where
  events := [.opened "category" [], .opened "pattern" [], .text "HEL"]
  stack := [.mk "pattern" [] [.text "HEL"], .mk "category" [] [], .document]
  ahead := ['L', 'O']
  reads := by decide +kernel
  builds := rfl
  spells := by decide +kernel

/-- A comment in the middle of a word of a pattern is noticed: the pattern no longer matches the
word. -/
theorem exists_noticed_remark :
    wordPlace.tags.head? = some "pattern" ∧ IsRemark "<!-- x -->" ∧
      ∃ categories categories',
        parseCategories ("<category><pattern>HEL" ++
          "LO</pattern><template>Hi</template></category>") = .ok categories ∧
        parseCategories ("<category><pattern>HEL" ++ ("<!-- x -->" ++
          "LO</pattern><template>Hi</template></category>")) = .ok categories' ∧
        categories.map (·.pattern.captures? .empty .empty "HELLO") = [some []] ∧
        categories'.map (·.pattern.captures? .empty .empty "HELLO") = [none] := by
  have hmark : IsRemark "<!-- x -->" :=
    ⟨_, _, rfl, .comment (by decide : ¬['-', '-'] <:+: " x ".toList ++ ['-'])⟩
  have hread : readEvents ("<category><pattern>HEL" ++
      "LO</pattern><template>Hi</template></category>") =
        .ok [.opened "category" [], .opened "pattern" [], .text "HELLO", .closed "pattern",
          .opened "template" [], .text "Hi", .closed "template", .closed "category"] := by
    decide +kernel
  have hread' : readEvents ("<category><pattern>HEL" ++ ("<!-- x -->" ++
      "LO</pattern><template>Hi</template></category>")) =
        .ok [.opened "category" [], .opened "pattern" [], .text "HEL", .comment " x ", .text "LO",
          .closed "pattern", .opened "template" [], .text "Hi", .closed "template",
          .closed "category"] := by decide +kernel
  exact ⟨rfl, hmark, _, _, parseCategories_of_readEvents hread rfl,
    parseCategories_of_readEvents hread' rfl, by decide +kernel, by decide +kernel⟩

end Dialogue
