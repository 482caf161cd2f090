import Dialogue.Markup.Event

/-!
# Element trees

The third step of reading puts events together to a tree of elements and texts.
The tree hangs under a document node without a name.  White space that contains
a line feed is the layout of a source and no content.

Main results:

- `Element.sameTag_comm`: the comparison of tag names is symmetric.
-/

namespace Dialogue.Markup

open Text

/-! ## Trees -/

mutual

/-- An element: its name, its attributes and its content, each in the order of
the source. -/
inductive Element where
  | mk (name : String) (attributes : Attributes) (children : List Node)

/-- A part of the content of an element. -/
inductive Node where
  | element (element : Element)
  | text (content : String)

end

namespace Element

/-- The local name of an element. -/
def name : Element → String
  | mk name _ _ => name

/-- The attributes of an element under their local names. -/
def attributes : Element → Attributes
  | mk _ attributes _ => attributes

/-- The content of an element. -/
def children : Element → List Node
  | mk _ _ children => children

/-- The document node before anything has been read. -/
def document : Element := mk "" [] []

/-- The element with one more node at the end of its content. -/
def push : Element → Node → Element
  | mk name attributes children, node => mk name attributes (children ++ [node])

/-- Whether two names are the same tag: small and capital ASCII letters count as
the same. -/
def sameTag (a b : String) : Bool := a.toList.map Char.toLower == b.toList.map Char.toLower

/-- Whether an element has a given tag. -/
def is (element : Element) (tag : String) : Bool := sameTag element.name tag

/-- The value of an attribute, the first of that name. -/
def attribute? (element : Element) (name : String) : Option String :=
  element.attributes.lookup name

/-- The elements in the content of an element. -/
def elements (element : Element) : List Element :=
  element.children.filterMap fun
    | .element child => some child
    | .text _ => none

/-- The first child element with a given tag. -/
def child? (element : Element) (tag : String) : Option Element :=
  element.elements.find? (·.is tag)

/-- The comparison of tag names is symmetric. -/
theorem sameTag_comm (a b : String) : sameTag a b = sameTag b a := by
  simp [sameTag, Bool.beq_comm]

end Element

mutual

/-- The texts in an element and its descendants, joined. -/
def Element.text : Element → String
  | .mk _ _ children => nodesText children

/-- The texts in a node, joined. -/
def Node.allText : Node → String
  | .element element => element.text
  | .text content => content

/-- The texts in a list of nodes, joined. -/
def nodesText : List Node → String
  | [] => ""
  | node :: nodes => node.allText ++ nodesText nodes

end

/-! ## Building -/

/-- Whether a text is only the layout of the source. -/
def isLayout (content : String) : Bool :=
  isBlankText content.toList && content.toList.contains '\n'

/-- The elements that are open, the innermost first and the document node
last. -/
abbrev Stack := List Element

/-- Adds a node to the innermost open element. -/
def pushNode (node : Node) : Stack → Stack
  | [] => []
  | top :: rest => top.push node :: rest

/-- Adds a text to the innermost open element, unless it is layout. -/
def pushText (content : String) (stack : Stack) : Stack :=
  if isLayout content then stack else pushNode (.text content) stack

/-- The open elements after an event. -/
def step (stack : Stack) : Event → Except Error Stack
  | .opened name attributes =>
    .ok (.mk (localName name) (localAttributes attributes) [] :: stack)
  | .empty name attributes =>
    .ok (pushNode (.element (.mk (localName name) (localAttributes attributes) [])) stack)
  | .closed name =>
    match stack with
    | top :: parent :: rest => .ok (parent.push (.element top) :: rest)
    | _ => .error (.unopened name)
  | .text content => .ok (pushText content stack)
  | .cdata content => .ok (pushText content stack)
  | .comment _ => .ok stack
  | .instruction _ => .ok stack
  | .doctype _ => .ok stack

/-- The open elements after a list of events. -/
def steps (stack : Stack) : List Event → Except Error Stack
  | [] => .ok stack
  | event :: events => do steps (← step stack event) events

/-- The document when the events are over. -/
def finish : Stack → Except Error Element
  | [] => .ok .document
  | [document] => .ok document
  | top :: _ => .error (.leftOpen top.name)

/-- The document of a list of events. -/
def build (events : List Event) : Except Error Element :=
  steps [.document] events >>= finish

/-- The document of a text. -/
def parse (text : String) : Except Error Element := readEvents text >>= build

end Dialogue.Markup
