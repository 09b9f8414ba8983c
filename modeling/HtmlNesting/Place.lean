import HtmlNesting.Node

/-!
# Places

A rule looks at an element together with what surrounds it. A `Place` is an element with its
siblings and, level by level, its enclosing elements with theirs. From a place the whole tree can be
read, so two places of one tree are equal only if they are the same occurrence of an element.

`ancestors` goes from the parent to the root. `placesIn` lists all elements of a list of siblings in
document order by recursion on the tree, and `Tree.places` those of a tree.

A text stands somewhere too: a `TextPlace` is a text with its enclosing elements, and a `Subject` is
either kind of place.
-/

namespace HtmlNesting

/-- An element without its children, between its siblings in document order. -/
structure Level where
  start : StartTag
  before : List Node
  after : List Node

/-- An element in its surroundings; the enclosing levels are nearest first. -/
structure Place extends Level where
  children : List Node
  above : List Level

namespace Place

/-- The element as a node. -/
def node (place : Place) : Node :=
  .element place.start place.children

/-- The tag of the element. -/
def tag (place : Place) : Tag :=
  place.start.tag

/-- The attributes of the element. -/
def attributes (place : Place) : Attributes :=
  place.start.attributes

/-- Whether the element has no parent. -/
def isRoot (place : Place) : Bool :=
  place.above.isEmpty

/-- The siblings of a place with the place itself among them. -/
def siblings (place : Place) : List Node :=
  place.before ++ place.node :: place.after

/-- The enclosing elements of an element at a level with some children. -/
def ancestorsFrom (level : Level) (children : List Node) : List Level → List Place
  | [] => []
  | outer :: rest =>
    let siblings := level.before ++ .element level.start children :: level.after
    { toLevel := outer, children := siblings, above := rest } :: ancestorsFrom outer siblings rest

/-- The enclosing elements, from the parent to the root. -/
def ancestors (place : Place) : List Place :=
  ancestorsFrom place.toLevel place.children place.above

/-- The enclosing element. -/
def parent? (place : Place) : Option Place :=
  place.ancestors.head?

/-- The start tags of the elements before the place among its siblings. -/
def elementsBefore (place : Place) : List StartTag :=
  place.before.filterMap Node.start?

/-- The start tags of the elements after the place among its siblings. -/
def elementsAfter (place : Place) : List StartTag :=
  place.after.filterMap Node.start?

/-- The elements of a list of siblings, below some levels and after some earlier siblings. -/
def siblingPlaces (above : List Level) (before : List Node) : List Node → List Place
  | [] => []
  | .text data position :: rest => siblingPlaces above (before ++ [.text data position]) rest
  | .element start children :: rest =>
    { start, before, after := rest, children, above } ::
      siblingPlaces above (before ++ [.element start children]) rest

/-- The element children in order. -/
def elementChildren (place : Place) : List Place :=
  siblingPlaces (place.toLevel :: place.above) [] place.children

end Place

mutual

/-- All elements of a node that has some siblings, in document order. -/
def placesOf (above : List Level) (before after : List Node) : Node → List Place
  | .text _ _ => []
  | .element start children =>
    { start, before, after, children, above } ::
      placesIn ({ start, before, after } :: above) [] children

/-- All elements of a list of siblings, at any depth, in document order. -/
def placesIn (above : List Level) (before : List Node) : List Node → List Place
  | [] => []
  | node :: rest =>
    placesOf above before rest node ++ placesIn above (before ++ [node]) rest

end

/-- A text in its surroundings. -/
structure TextPlace where
  data : String
  position : Position
  /-- The enclosing elements, from the parent to the root. -/
  ancestors : List Place

/-- An element or a text where it stands. -/
inductive Subject where
  | element (place : Place)
  | text (place : TextPlace)

namespace Subject

/-- The node that stands there. -/
def node : Subject → Node
  | element place => place.node
  | text place => .text place.data place.position

/-- The enclosing elements, from the parent to the root. -/
def ancestors : Subject → List Place
  | element place => place.ancestors
  | text place => place.ancestors

/-- Whether there is no parent. -/
def isRoot (subject : Subject) : Bool :=
  subject.ancestors.isEmpty

/-- The attributes; a text has none, not even an empty dictionary of them. -/
def attributes? : Subject → Option Attributes
  | element place => some place.attributes
  | text _ => none

/-- The subject as messages about its surroundings show it. -/
def shown (subject : Subject) : String :=
  "<" ++ subject.node.name ++ ">"

end Subject

/-- The child at an index, texts counted. -/
def Place.childAt? (place : Place) (index : Nat) : Option Subject :=
  match place.children[index]? with
  | none => none
  | some (.text data position) =>
    some (.text { data, position, ancestors := place :: place.ancestors })
  | some (.element start children) =>
    some (.element {
      start, before := place.children.take index, after := place.children.drop (index + 1), children
      above := place.toLevel :: place.above })

/-- What is validated: an element on its own, or the top-level nodes of a document. -/
inductive Tree where
  | detached (start : StartTag) (children : List Node)
  | document (nodes : List Node)

namespace Tree

/-- The top-level nodes. -/
def nodes : Tree → List Node
  | detached start children => [.element start children]
  | document nodes => nodes

/-- The top-level elements. Those of a document are each other's siblings. -/
def roots (tree : Tree) : List Place :=
  Place.siblingPlaces [] [] tree.nodes

/-- All elements in document order. -/
def places (tree : Tree) : List Place :=
  placesIn [] [] tree.nodes

/-- The top-level node at an index. -/
def rootAt? (tree : Tree) (index : Nat) : Option Subject :=
  match tree.nodes[index]? with
  | none => none
  | some (.text data position) => some (.text { data, position, ancestors := [] })
  | some (.element start children) =>
    some (.element {
      start, before := tree.nodes.take index, after := tree.nodes.drop (index + 1), children
      above := [] })

end Tree

end HtmlNesting
