import Dialogue.Proofs.Category.Remarks

/-!
# Where the categories of a document stand

A place in a document is given by the positions of the nodes that lead to it, from the outside to
the inside.  The categories of a document are its outermost category elements, in the order of
their places; what is wrapped around them does not matter.

Main results:

- Theorem `mem_placesIn_iff`: the places that are found are those of the outermost category
  elements.
- Theorem `inOrder_placesIn`: they are found in the order of the document.
- Theorem `categoriesIn_eq`: the categories of a document are at these places.
- Theorem `categoriesIn_wrap`: another element around some nodes outside categories does not
  matter.
-/

namespace Dialogue

open Markup

/-! ## Places -/

/-- Whether an element is an outermost category element in another one, with the positions of the
nodes that lead to it.  The outer element may be called a category itself. -/
inductive Outermost : Element → List Nat → Element → Prop
  | here {element category : Element} {i : Nat}
    (hchild : element.children[i]? = some (.element category))
    (hcategory : category.is "category" = true) : Outermost element [i] category
  | inside {element child category : Element} {i : Nat} {path : List Nat}
    (hchild : element.children[i]? = some (.element child))
    (hother : child.is "category" = false) (h : Outermost child path category) :
    Outermost element (i :: path) category

mutual

/-- The outermost category elements in an element, with their places. -/
def placesIn : Element → List (List Nat × Element)
  | .mk _ _ children => placesFrom 0 children

/-- The outermost category elements in a list of nodes, the first of which has position `i`. -/
def placesFrom (i : Nat) : List Node → List (List Nat × Element)
  | [] => []
  | .text _ :: nodes => placesFrom (i + 1) nodes
  | .element element :: nodes =>
    (if element.is "category" then [([i], element)]
      else (placesIn element).map fun (path, category) => (i :: path, category)) ++
      placesFrom (i + 1) nodes

end

/-! ## Which places are found -/

/-- Whether a child of an element is an outermost category element, or leads to one. -/
def LeadsTo (child : Element) (path : List Nat) (category : Element) : Prop :=
  if child.is "category" = true then path = [] ∧ category = child
  else Outermost child path category

/-- An outermost category element is a child or in a child that is not one. -/
theorem outermost_iff {element category : Element} {path : List Nat} :
    Outermost element path category ↔
      ∃ i child rest, element.children[i]? = some (.element child) ∧ path = i :: rest ∧
        LeadsTo child rest category := by
  constructor
  · intro h
    cases h with
    | here hchild hcategory =>
      refine ⟨_, _, [], hchild, rfl, ?_⟩
      rw [LeadsTo, if_pos hcategory]
      exact ⟨rfl, rfl⟩
    | inside hchild hother h =>
      refine ⟨_, _, _, hchild, rfl, ?_⟩
      rw [LeadsTo, hother, if_neg Bool.false_ne_true]
      exact h
  · rintro ⟨i, child, rest, hchild, rfl, hleads⟩
    unfold LeadsTo at hleads
    cases hcategory : child.is "category" with
    | true =>
      rw [if_pos hcategory] at hleads
      rcases hleads with ⟨rfl, rfl⟩
      exact .here hchild hcategory
    | false =>
      rw [hcategory, if_neg Bool.false_ne_true] at hleads
      exact .inside hchild hcategory hleads

/-- Whether one of some nodes, the first of which has position `i`, leads to a category element. -/
def LeadsFrom (i : Nat) (nodes : List Node) (path : List Nat) (category : Element) : Prop :=
  ∃ k child rest, nodes[k]? = some (.element child) ∧ path = (i + k) :: rest ∧
    LeadsTo child rest category

/-- The first node leads to a category element, or one of the others does. -/
theorem leadsFrom_cons {i : Nat} {node : Node} {nodes : List Node} {path : List Nat}
    {category : Element} :
    LeadsFrom i (node :: nodes) path category ↔
      (∃ child rest, node = .element child ∧ path = i :: rest ∧ LeadsTo child rest category) ∨
        LeadsFrom (i + 1) nodes path category := by
  constructor
  · rintro ⟨k, child, rest, hchild, rfl, hleads⟩
    cases k with
    | zero =>
      rw [List.getElem?_cons_zero, Option.some.injEq] at hchild
      exact .inl ⟨child, rest, hchild, rfl, hleads⟩
    | succ k =>
      rw [List.getElem?_cons_succ] at hchild
      refine .inr ⟨k, child, rest, hchild, ?_, hleads⟩
      rw [Nat.add_assoc, Nat.add_comm 1 k]
  · rintro (⟨child, rest, rfl, rfl, hleads⟩ | ⟨k, child, rest, hchild, rfl, hleads⟩)
    · exact ⟨0, child, rest, rfl, rfl, hleads⟩
    · refine ⟨k + 1, child, rest, hchild, ?_, hleads⟩
      rw [Nat.add_assoc, Nat.add_comm 1 k]

mutual

/-- The places that are found in an element are those of its outermost category elements. -/
theorem mem_placesIn_iff {path : List Nat} {category : Element} :
    ∀ element : Element, (path, category) ∈ placesIn element ↔ Outermost element path category
  | .mk name attributes children => by
    rw [placesIn, mem_placesFrom_iff 0 children, outermost_iff]
    simp only [LeadsFrom, Nat.zero_add]
    rfl

/-- The places that are found in a list of nodes are those to which one of the nodes leads. -/
theorem mem_placesFrom_iff {path : List Nat} {category : Element} (i : Nat) :
    ∀ nodes : List Node, (path, category) ∈ placesFrom i nodes ↔ LeadsFrom i nodes path category
  | [] => by simp [placesFrom, LeadsFrom]
  | .text content :: nodes => by
    rw [placesFrom, mem_placesFrom_iff (i + 1) nodes, leadsFrom_cons]
    simp
  | .element element :: nodes => by
    rw [placesFrom, List.mem_append, mem_placesFrom_iff (i + 1) nodes, leadsFrom_cons]
    refine or_congr_left ?_
    have hinner := fun rest => @mem_placesIn_iff rest category element
    have hhere : (∃ child rest, Node.element element = .element child ∧ path = i :: rest ∧
        LeadsTo child rest category) ↔
        ∃ rest, path = i :: rest ∧ LeadsTo element rest category := by
      simp
    rw [hhere]
    cases hcategory : element.is "category" with
    | true => simp [LeadsTo, hcategory]
    | false =>
      simp only [LeadsTo, hcategory, Bool.false_eq_true, if_false, ← hinner, List.mem_map]
      constructor
      · rintro ⟨⟨rest, found⟩, hmem, heq⟩
        cases heq
        exact ⟨rest, rfl, hmem⟩
      · rintro ⟨rest, rfl, hmem⟩
        exact ⟨(rest, category), hmem, rfl⟩

end

/-! ## The order of the places -/

/-- Whether places come one after the other in the order of the document. -/
def InOrder (places : List (List Nat × Element)) : Prop :=
  places.Pairwise fun place later => place.1 < later.1

/-- What is found from a position on is at this position or after it. -/
theorem exists_of_mem_placesFrom {i : Nat} {nodes : List Node} {place : List Nat × Element}
    (h : place ∈ placesFrom i nodes) : ∃ k rest, i ≤ k ∧ place.1 = k :: rest := by
  rcases (mem_placesFrom_iff i nodes).1 h with ⟨k, child, rest, -, hpath, -⟩
  exact ⟨i + k, rest, Nat.le_add_right i k, hpath⟩

mutual

/-- The places in an element are found in the order of the document. -/
theorem inOrder_placesIn : ∀ element : Element, InOrder (placesIn element)
  | .mk name attributes children => by
    rw [placesIn]
    exact inOrder_placesFrom 0 children

/-- The places in a list of nodes are found in the order of the document. -/
theorem inOrder_placesFrom (i : Nat) : ∀ nodes : List Node, InOrder (placesFrom i nodes)
  | [] => by
    rw [placesFrom]
    exact .nil
  | .text content :: nodes => by
    rw [placesFrom]
    exact inOrder_placesFrom (i + 1) nodes
  | .element element :: nodes => by
    have hinner := inOrder_placesIn element
    have hlater := inOrder_placesFrom (i + 1) nodes
    rw [placesFrom, InOrder, List.pairwise_append]
    refine ⟨?_, hlater, ?_⟩
    · split
      · exact List.pairwise_singleton _ _
      · rw [List.pairwise_map]
        exact hinner.imp fun hlt => List.cons_lt_cons_iff.2 (.inr ⟨rfl, hlt⟩)
    · intro place hplace later hmem
      have hhere : ∃ rest, place.1 = i :: rest := by
        split at hplace
        · rw [List.mem_singleton.1 hplace]
          exact ⟨[], rfl⟩
        · rcases List.mem_map.1 hplace with ⟨inner, -, rfl⟩
          exact ⟨inner.1, rfl⟩
      rcases hhere with ⟨rest, hpath⟩
      rcases exists_of_mem_placesFrom hmem with ⟨k, behind, hle, hbehind⟩
      rw [hpath, hbehind]
      exact List.cons_lt_cons_iff.2 (.inl hle)

end

/-! ## The categories at the places -/

mutual

/-- The categories of a document are at the places of its outermost category elements. -/
theorem categoriesIn_eq : ∀ element : Element,
    categoriesIn element = (placesIn element).filterMap fun place => Category.ofElement? place.2
  | .mk name attributes children => by
    rw [categoriesIn, placesIn]
    exact categoriesOf_eq 0 children

/-- The categories in a list of nodes are at the places of its outermost category elements. -/
theorem categoriesOf_eq (i : Nat) : ∀ nodes : List Node,
    categoriesOf nodes =
      (placesFrom i nodes).filterMap fun place => Category.ofElement? place.2
  | [] => by
    rw [categoriesOf, placesFrom, List.filterMap_nil]
  | .text content :: nodes => by
    rw [categoriesOf, placesFrom]
    exact categoriesOf_eq (i + 1) nodes
  | .element element :: nodes => by
    have hinner := categoriesIn_eq element
    have hlater := categoriesOf_eq (i + 1) nodes
    rw [categoriesOf, placesFrom, List.filterMap_append, ← hlater]
    refine congrArg (· ++ categoriesOf nodes) ?_
    split
    · cases hcategory : Category.ofElement? element with
      | none => simp [hcategory]
      | some category => simp [hcategory]
    · rw [List.filterMap_map, hinner]
      rfl

end

/-- A category element is a category if it has a pattern. -/
theorem isSome_ofElement?_iff {element : Element} :
    (Category.ofElement? element).isSome = true ↔
      ∃ child ∈ element.elements, child.is "pattern" = true := by
  rw [Category.ofElement?, Option.isSome_map, Element.child?, List.find?_isSome]

/-! ## Wrappers -/

/-- Another element around some nodes, which is not called a category, does not matter outside of
categories. -/
theorem categoriesIn_wrap {tag : String} {attributes : Attributes} {run : List Node}
    (htag : Element.sameTag tag "category" = false) {tags : List String}
    {document document' : Element}
    (h : Element.Differs run [.element (.mk tag attributes run)] tags document document')
    (houtside : ∀ outer ∈ tags.dropLast, Element.sameTag outer "category" = false) :
    categoriesIn document' = categoriesIn document := by
  induction h with
  | here name attributes' before after =>
    have hwrapper : (Element.mk tag attributes run).is "category" = false := htag
    simp [categoriesIn, categoriesOf_append, categoriesOf, hwrapper]
  | @inside tags element element' name attributes' before after h ih =>
    rw [List.dropLast_concat] at houtside
    have hinside : ∀ outer ∈ tags.dropLast, Element.sameTag outer "category" = false :=
      fun outer houter => houtside outer (List.mem_of_mem_dropLast houter)
    have hother : element.is "category" = false := by
      rcases h.exists_tags with ⟨inner, rfl⟩
      exact houtside _ (List.mem_append_right _ List.mem_cons_self)
    have hother' : element'.is "category" = false := by
      rw [Element.is, ← h.name_eq]
      exact hother
    simp [categoriesIn, categoriesOf_append, categoriesOf, hother, hother', ih hinside]

end Dialogue
