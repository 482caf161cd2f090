import Dialogue.Category.Basic
import Dialogue.Markup.Tree
import Dialogue.Text.Cleanup

/-!
# Categories of a rule source

The categories of a document are its outermost category elements; every other
element is only a wrapper around them.  A category element needs a pattern.
Elements of a template that have no meaning of their own stay part of the
answer.
-/

namespace Dialogue

open Markup Text

/-! ## Wordings -/

/-- The name that an element refers to. -/
def nameOf (element : Element) : String := (element.attribute? "name").getD ""

/-- The part of a wording that a node is. -/
def Wording.Part.ofNode : Node → Wording.Part
  | .text content => .text content
  | .element element =>
    if element.is "bot" then .bot (nameOf element)
    else if element.is "get" then .get (nameOf element)
    else .text element.text

/-- The wording in the content of an element. -/
def Wording.ofElement (element : Element) : Wording :=
  ⟨element.children.map Wording.Part.ofNode⟩

/-! ## Templates -/

/-- The meaning of a tag in a template.  The name of the tag is in small
letters. -/
inductive TagMeaning where
  | bot
  | get
  | set
  | star
  | starAnswer
  | redirect
  | random
  | condition
  | lineBreak
  | think
  | item
  | group
  | recase (casing : Casing)
  | unknown
  deriving DecidableEq, Repr

/-- The tags of templates and their meanings, apart from the casings. -/
def tagMeanings : List (String × TagMeaning) :=
  [("bot", .bot), ("get", .get), ("set", .set), ("star", .star), ("sr", .starAnswer),
    ("srai", .redirect), ("random", .random), ("condition", .condition), ("br", .lineBreak),
    ("think", .think), ("li", .item), ("template", .group)]

/-- The meaning of a tag; capital and small letters count as the same. -/
def TagMeaning.ofName (name : String) : TagMeaning :=
  let tag := String.ofList (name.toList.map Char.toLower)
  match tagMeanings.lookup tag with
  | some meaning => meaning
  | none =>
    match Casing.ofTag? tag with
    | some casing => .recase casing
    | none => .unknown

/-- The value of an attribute in a list, the first of that name. -/
def attributeIn (attributes : Attributes) (name : String) : Option String :=
  attributes.lookup name

mutual

/-- The fragment that an element is. -/
def Fragment.ofElement : Element → Fragment
  | .mk tag attributes children =>
    let name := (attributeIn attributes "name").getD ""
    match TagMeaning.ofName tag with
    | .bot => .bot name
    | .get => .get name
    | .set => .set name (fragmentsOf children)
    | .star => .star
    | .starAnswer => .starAnswer
    | .redirect => .redirect (fragmentsOf children)
    | .random => .random (elementFragmentsOf children)
    | .condition =>
      match attributeIn attributes "name", attributeIn attributes "value" with
      | some name, some value => .onlyIf name value (fragmentsOf children)
      | some name, none => .select name (branchesOf children)
      | none, _ => .firstOf (branchesOf children)
    | .lineBreak => .lineBreak
    | .think => .think (fragmentsOf children)
    | .item => .item (fragmentsOf children)
    | .group => .group (fragmentsOf children)
    | .recase casing => .recase casing (fragmentsOf children)
    | .unknown => .markup tag attributes (fragmentsOf children)

/-- The fragments of a list of nodes. -/
def fragmentsOf : List Node → List Fragment
  | [] => []
  | .text content :: nodes => .text (collapseLineBreaks content) :: fragmentsOf nodes
  | .element element :: nodes => Fragment.ofElement element :: fragmentsOf nodes

/-- The fragments of the elements in a list of nodes. -/
def elementFragmentsOf : List Node → List Fragment
  | [] => []
  | .text _ :: nodes => elementFragmentsOf nodes
  | .element element :: nodes => Fragment.ofElement element :: elementFragmentsOf nodes

/-- The branches of a condition: its list items. -/
def branchesOf : List Node → List Branch
  | [] => []
  | .text _ :: nodes => branchesOf nodes
  | .element (.mk tag attributes children) :: nodes =>
    if Element.sameTag tag "li" then
      .mk (attributeIn attributes "name") (attributeIn attributes "value") (fragmentsOf children) ::
        branchesOf nodes
    else branchesOf nodes

end

/-! ## Categories -/

/-- The category that an element is, unless it has no pattern. -/
def Category.ofElement? (element : Element) : Option Category :=
  (element.child? "pattern").map fun pattern => {
    pattern := Wording.ofElement pattern
    that := (element.child? "that").map Wording.ofElement
    template := ((element.child? "template").map fun t => fragmentsOf t.children).getD [] }

mutual

/-- The categories in an element that is not a category itself. -/
def categoriesIn : Element → List Category
  | .mk _ _ children => categoriesOf children

/-- The categories in a list of nodes. -/
def categoriesOf : List Node → List Category
  | [] => []
  | .text _ :: nodes => categoriesOf nodes
  | .element element :: nodes =>
    (if element.is "category" then (Category.ofElement? element).toList
      else categoriesIn element) ++
      categoriesOf nodes

end

/-- The categories of a rule source. -/
def parseCategories (text : String) : Except Markup.Error (List Category) :=
  (parse text).map categoriesIn

end Dialogue
