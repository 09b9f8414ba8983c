import HtmlNesting.Attributes
import HtmlNesting.Tag

/-!
# Nodes

A document is a forest of nodes: elements with children, and text. Every node has the position it
is reported at. An element's name is kept in lower case, its `Tag` is read off the name.
-/

namespace HtmlNesting

/-- A line and a column, counted from one in a document. -/
structure Position where
  line : Int := 1
  column : Int := 1
  deriving DecidableEq, Repr

/-- What an element is apart from its children: name, attributes and position. -/
structure StartTag where
  name : String
  attributes : Attributes := []
  position : Position := {}
  deriving DecidableEq, Repr

namespace StartTag

/-- The start tag of an element whose name may be in any case. -/
def named (name : String) (attributes : Attributes := []) (position : Position := {}) :
    StartTag :=
  { name := Text.lower name, attributes, position }

/-- The tag of the name. -/
def tag (start : StartTag) : Tag :=
  Tag.ofName start.name

/-- The element as messages show it. -/
def shown (start : StartTag) : String :=
  "<" ++ start.name ++ ">"

end StartTag

/-- A node of a document. -/
inductive Node where
  | text (data : String) (position : Position)
  | element (start : StartTag) (children : List Node)

namespace Node

/-- The position a node is reported at. -/
def position : Node → Position
  | text _ position => position
  | element start _ => start.position

/-- The name a node is reported under: its element name, or a fixed word for text. -/
def name : Node → String
  | text _ _ => "#text"
  | element start _ => start.name

/-- The start tag of an element. -/
def start? : Node → Option StartTag
  | text _ _ => none
  | element start _ => some start

/-- The tag of an element; text has none. -/
def tag? (node : Node) : Option Tag :=
  node.start?.map StartTag.tag

/-- Whether a node is text between elements that is not content. -/
def isSpaces : Node → Bool
  | text data _ => Text.isSpaces data
  | element _ _ => false

@[simp] theorem tag?_text (data : String) (position : Position) :
    (text data position).tag? = none :=
  rfl

@[simp] theorem tag?_element (start : StartTag) (children : List Node) :
    (element start children).tag? = some start.tag :=
  rfl

@[simp] theorem isSpaces_text (data : String) (position : Position) :
    (text data position).isSpaces = Text.isSpaces data :=
  rfl

@[simp] theorem isSpaces_element (start : StartTag) (children : List Node) :
    (element start children).isSpaces = false :=
  rfl

/-- The node as messages about a child show it. -/
def shown : Node → String
  | text _ _ => "Text"
  | element start _ => start.shown

end Node

end HtmlNesting
