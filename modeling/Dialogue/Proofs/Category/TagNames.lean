import Dialogue.Category.OfMarkup
import Mathlib.Data.Option.Basic

/-!
# Small and capital letters in tag names

A source is read the same whether its tags are written in small or in capital letters, wherever
their names have a meaning: around categories, right in a category, in patterns, and for the tags
of templates.  Only an element of a template that has no meaning of its own keeps its name, because
it is part of the answer.

Main results:

- Theorem `TagMeaning.ofName_congr`: tags that differ in the case of letters have one meaning.
- Theorem `sameFragments_of_recased`: a template with other letters has the same fragments.
- Theorem `child?_recased`: the same parts of a category are found.
- Theorem `categoriesIn_recased`: a document with other letters has the same categories.
-/

namespace Dialogue

open Markup

/-! ## Documents with other letters -/

/-- The parts of a source, which differ in what the names of elements mean in them. -/
inductive Region where
  /-- Outside categories, where every element but a category is a wrapper. -/
  | outside
  /-- Right in a category. -/
  | category
  /-- In a pattern, or in an element of a category that is not read. -/
  | wording
  /-- In a template. -/
  | template
  deriving DecidableEq, Repr

/-- The part of a source that the content of an element is, if the element is in a given part. -/
def Region.within (region : Region) (name : String) : Region :=
  match region with
  | outside => if Element.sameTag name "category" then category else outside
  | category => if Element.sameTag name "template" then template else wording
  | wording => wording
  | template => template

/-- The tags that have a meaning in templates. -/
def templateTags : List String :=
  ["bot", "get", "set", "star", "sr", "srai", "random", "li", "condition", "br", "think",
    "template", "uppercase", "lowercase", "formal", "sentence"]

/-- Whether a name may be changed into another one in a part of a source: in the case of letters
only, and in templates only if it is one of their tags. -/
def Region.Allows (region : Region) (name name' : String) : Prop :=
  Element.sameTag name name' = true ∧
    (region = template → name' = name ∨ templateTags.any (Element.sameTag name) = true)

instance (region : Region) (name name' : String) : Decidable (region.Allows name name') :=
  inferInstanceAs (Decidable (_ ∧ _))

/-- Whether nodes in a part of a source differ only in the case of names, where it may be
changed. -/
inductive Recased : Region → List Node → List Node → Prop
  | nil (region : Region) : Recased region [] []
  | text {region : Region} {nodes nodes' : List Node} (content : String)
    (h : Recased region nodes nodes') :
    Recased region (.text content :: nodes) (.text content :: nodes')
  | element {region : Region} {nodes nodes' children children' : List Node} {name name' : String}
    (attributes : Attributes) (hname : region.Allows name name')
    (hchildren : Recased (region.within name) children children')
    (h : Recased region nodes nodes') :
    Recased region (.element (.mk name attributes children) :: nodes)
      (.element (.mk name' attributes children') :: nodes')

/-! ## Names -/

section Names

variable {name name' : String}

/-- A name with other letters is the same tag as before. -/
theorem sameTag_congr (h : Element.sameTag name name' = true) (tag : String) :
    Element.sameTag name tag = Element.sameTag name' tag := by
  rw [Element.sameTag, beq_iff_eq] at h
  rw [Element.sameTag, Element.sameTag, h]

/-- Tags that differ in the case of letters have one meaning. -/
theorem TagMeaning.ofName_congr (h : Element.sameTag name name' = true) :
    TagMeaning.ofName name = TagMeaning.ofName name' := by
  rw [Element.sameTag, beq_iff_eq] at h
  rw [ofName, ofName, h]

/-- The tags of templates have a meaning. -/
theorem TagMeaning.ofName_ne_unknown (h : templateTags.any (Element.sameTag name) = true) :
    ofName name ≠ .unknown := by
  have hlist : ∀ tag ∈ templateTags, ofName tag ≠ .unknown := by decide
  obtain ⟨tag, htag, hsame⟩ := List.any_eq_true.1 h
  rw [ofName_congr hsame]
  exact hlist tag htag

/-- In a template, a tag that may be changed has the same meaning afterwards, and a name that is
shown is not changed. -/
theorem Region.Allows.sameMeaning (h : Region.template.Allows name name') :
    TagMeaning.ofName name' = TagMeaning.ofName name ∧
      (TagMeaning.ofName name = .unknown → name' = name) := by
  refine ⟨(TagMeaning.ofName_congr h.1).symm, fun hunknown => ?_⟩
  rcases h.2 rfl with hself | htag
  · exact hself
  · exact absurd hunknown (TagMeaning.ofName_ne_unknown htag)

end Names

/-! ## Patterns -/

section Patterns

variable {region : Region} {nodes nodes' : List Node}

/-- The texts stay the same. -/
theorem nodesText_recased (h : Recased region nodes nodes') :
    nodesText nodes = nodesText nodes' := by
  induction h with
  | nil => rfl
  | text content _ ih => rw [nodesText, nodesText, ih]
  | element attributes _ _ _ ihchildren ih =>
    rw [nodesText, nodesText, Node.allText, Node.allText, Element.text, Element.text, ihchildren,
      ih]

/-- The parts of a pattern stay the same. -/
theorem map_ofNode_recased (h : Recased region nodes nodes') :
    nodes.map Wording.Part.ofNode = nodes'.map Wording.Part.ofNode := by
  induction h with
  | nil => rfl
  | text content _ ih => rw [List.map_cons, List.map_cons, ih]
  | @element _ _ _ children children' name name' attributes hname hchildren _ _ ih =>
    have htag : ∀ tag, (Element.mk name attributes children).is tag =
        (Element.mk name' attributes children').is tag := sameTag_congr hname.1
    have htext : (Element.mk name attributes children).text =
        (Element.mk name' attributes children').text := nodesText_recased hchildren
    have hnode : Wording.Part.ofNode (.element (.mk name attributes children)) =
        Wording.Part.ofNode (.element (.mk name' attributes children')) := by
      rw [Wording.Part.ofNode, Wording.Part.ofNode, htag, htag, htext]
      rfl
    rw [List.map_cons, List.map_cons, hnode, ih]

end Patterns

/-! ## Templates -/

/-- Whether nodes are the same fragments, the same alternatives and the same branches. -/
structure SameFragments (nodes nodes' : List Node) : Prop where
  fragments : fragmentsOf nodes = fragmentsOf nodes'
  alternatives : elementFragmentsOf nodes = elementFragmentsOf nodes'
  branches : branchesOf nodes = branchesOf nodes'

/-- An element with other letters and the same fragments in it is the same fragment. -/
theorem Fragment.ofElement_recased {name name' : String} (attributes : Attributes)
    {children children' : List Node} (hname : Region.template.Allows name name')
    (h : SameFragments children children') :
    Fragment.ofElement (.mk name attributes children) =
      Fragment.ofElement (.mk name' attributes children') := by
  obtain ⟨hmeaning, hself⟩ := hname.sameMeaning
  simp only [Fragment.ofElement, hmeaning, h.fragments, h.alternatives, h.branches]
  cases hunknown : TagMeaning.ofName name with
  | unknown => rw [hself hunknown]
  | _ => rfl

/-- A template with other letters has the same fragments. -/
theorem sameFragments_of_recased {nodes nodes' : List Node}
    (h : Recased .template nodes nodes') : SameFragments nodes nodes' := by
  generalize hregion : Region.template = region at h
  induction h with
  | nil => exact ⟨rfl, rfl, rfl⟩
  | text content _ ih =>
    have hlater := ih hregion
    constructor
    · rw [fragmentsOf, fragmentsOf, hlater.fragments]
    · rw [elementFragmentsOf, elementFragmentsOf, hlater.alternatives]
    · rw [branchesOf, branchesOf, hlater.branches]
  | element attributes hname _ _ ihchildren ih =>
    subst hregion
    have hchildren := ihchildren rfl
    have hlater := ih rfl
    have hfragment := Fragment.ofElement_recased attributes hname hchildren
    constructor
    · rw [fragmentsOf, fragmentsOf, hfragment, hlater.fragments]
    · rw [elementFragmentsOf, elementFragmentsOf, hfragment, hlater.alternatives]
    · rw [branchesOf, branchesOf, sameTag_congr hname.1, hchildren.fragments, hlater.branches]

/-! ## Categories -/

/-- Whether two elements in a part of a source are the same up to the case of names, where it may
be changed. -/
structure Counterpart (region : Region) (element element' : Element) : Prop where
  name : region.Allows element.name element'.name
  attributes : element.attributes = element'.attributes
  children : Recased (region.within element.name) element.children element'.children

/-- The same child is found under every tag. -/
theorem child?_recased {region : Region} {element element' : Element}
    (h : Recased region element.children element'.children) (tag : String) :
    Option.Rel (Counterpart region) (element.child? tag) (element'.child? tag) := by
  rcases element with ⟨name, attributes, children⟩
  rcases element' with ⟨name', attributes', children'⟩
  simp only [Element.children, Element.child?, Element.elements] at h ⊢
  induction h with
  | nil => exact .none
  | text content _ ih => exact ih
  | @element _ _ _ children children' name name' attributes hname hchildren _ _ ih =>
    have hsame : (Element.mk name attributes children).is tag =
        (Element.mk name' attributes children').is tag := sameTag_congr hname.1 tag
    simp only [List.filterMap_cons, List.find?_cons, ← hsame]
    cases (Element.mk name attributes children).is tag with
    | true => exact .some ⟨hname, rfl, hchildren⟩
    | false => exact ih

/-- The same wording is found under every tag. -/
theorem map_ofElement_recased {region : Region} {element element' : Element}
    (h : Recased region element.children element'.children) (tag : String) :
    (element.child? tag).map Wording.ofElement = (element'.child? tag).map Wording.ofElement := by
  have hrel := child?_recased h tag
  generalize element.child? tag = child at hrel
  generalize element'.child? tag = child' at hrel
  cases hrel with
  | none => rfl
  | some hchild =>
    rw [Option.map_some, Option.map_some, Wording.ofElement, Wording.ofElement,
      map_ofNode_recased hchild.children]

/-- The same template is found in a category element. -/
theorem map_fragmentsOf_recased {element element' : Element}
    (h : Recased .category element.children element'.children) :
    (element.child? "template").map (fragmentsOf ·.children) =
      (element'.child? "template").map (fragmentsOf ·.children) := by
  have hrel := child?_recased h "template"
  have htag : ∀ t ∈ element.child? "template", Element.sameTag t.name "template" = true := by
    intro t ht
    have his : t.is "template" = true := by simpa using List.find?_some ht
    exact his
  generalize element.child? "template" = child at hrel htag
  generalize element'.child? "template" = child' at hrel
  cases hrel with
  | none => rfl
  | some hchild =>
    have hchildren := hchild.children
    rw [Region.within, htag _ rfl, if_pos rfl] at hchildren
    rw [Option.map_some, Option.map_some, (sameFragments_of_recased hchildren).fragments]

/-- A category element with other letters is the same category. -/
theorem Category.ofElement?_recased {element element' : Element}
    (h : Recased .category element.children element'.children) :
    Category.ofElement? element = Category.ofElement? element' := by
  have hpattern := map_ofElement_recased h "pattern"
  simp only [Category.ofElement?, map_ofElement_recased h "that", map_fragmentsOf_recased h]
  cases hfound : element.child? "pattern" with
  | none =>
    rw [hfound, Option.map_none, eq_comm, Option.map_eq_none_iff] at hpattern
    rw [hpattern]
  | some pattern =>
    rw [hfound, Option.map_some, eq_comm, Option.map_eq_some_iff] at hpattern
    obtain ⟨pattern', hfound', heq⟩ := hpattern
    rw [hfound', Option.map_some, Option.map_some, heq]

/-- Nodes outside categories with other letters have the same categories in them. -/
theorem categoriesOf_recased {nodes nodes' : List Node} (h : Recased .outside nodes nodes') :
    categoriesOf nodes = categoriesOf nodes' := by
  generalize hregion : Region.outside = region at h
  induction h with
  | nil => rfl
  | text content _ ih => rw [categoriesOf, categoriesOf, ih hregion]
  | @element _ _ _ children children' name name' attributes hname hchildren _ ihchildren ih =>
    subst hregion
    have hsame : (Element.mk name' attributes children').is "category" =
        (Element.mk name attributes children).is "category" :=
      (sameTag_congr hname.1 "category").symm
    rw [categoriesOf, categoriesOf, hsame, ih rfl]
    cases hcategory : (Element.mk name attributes children).is "category" with
    | true =>
      rw [Element.is, Element.name] at hcategory
      rw [Region.within, hcategory, if_pos rfl] at hchildren
      have hread : Category.ofElement? (.mk name attributes children) =
          Category.ofElement? (.mk name' attributes children') :=
        Category.ofElement?_recased hchildren
      rw [if_pos rfl, if_pos rfl, hread]
    | false =>
      rw [Element.is, Element.name] at hcategory
      rw [Region.within, hcategory] at ihchildren
      simp only [Bool.false_eq_true, if_false, categoriesIn, ihchildren rfl]

/-- A document has the same categories when the case of letters is changed in the names of any
elements around categories, of any elements right in a category, of any elements in patterns, and
of any elements in templates, however deep, that have a meaning there. -/
theorem categoriesIn_recased {document document' : Element}
    (h : Recased .outside document.children document'.children) :
    categoriesIn document = categoriesIn document' := by
  rcases document with ⟨name, attributes, children⟩
  rcases document' with ⟨name', attributes', children'⟩
  rw [categoriesIn, categoriesIn]
  exact categoriesOf_recased h

/-- A name in capital letters. -/
def capitals (name : String) : String := String.ofList (name.toList.map Char.toUpper)

/-- A rule with one wrapper around it, a reference in its pattern, and an alternative and a branch
in its template.  All tags but an unknown one in the template are written with given letters. -/
def plainMeeting (letters : String → String) : List Node :=
  [.element (.mk (letters "topic") [("name", "people")] [.element (.mk (letters "category") [] [
    .element (.mk (letters "pattern") [] [.text "I MET ",
      .element (.mk (letters "bot") [("name", "name")] []),
      .element (.mk (letters "em") [] [.text " AND *"])]),
    .element (.mk (letters "template") [] [
      .element (.mk (letters "random") [] [
        .element (.mk (letters "li") [] [.element (.mk (letters "star") [] [])]),
        .element (.mk "em" [] [.element (.mk (letters "srai") [] [.text "WHO"])])]),
      .element (.mk (letters "condition") [("name", "mood")] [
        .element (.mk (letters "li") [("value", "sad")] [
          .element (.mk (letters "sentence") [] [.text "oh"])])])])])])]

/-- The rule is the same category in small and in capital letters. -/
theorem categoriesIn_recased_meeting :
    Recased .outside (plainMeeting id) (plainMeeting capitals) ∧
      (categoriesIn (.mk "" [] (plainMeeting id))).length = 1 ∧
      categoriesIn (.mk "" [] (plainMeeting id)) =
        categoriesIn (.mk "" [] (plainMeeting capitals)) := by
  have hrecased : Recased .outside (plainMeeting id) (plainMeeting capitals) := by
    unfold plainMeeting
    repeat' first
      | exact .nil _
      | refine .text _ ?_
      | refine .element _ (by decide +kernel) ?_ ?_
  exact ⟨hrecased, by decide +kernel, categoriesIn_recased hrecased⟩

end Dialogue
