import HtmlNesting.Walk

/-!
# Linked nodes

The nodes of a tree as they are linked to one another. Every node of an `Arena` has a number, and
that is what it is told by: two items that are written alike are two nodes. An element has the
numbers of its children, a child that of its parent, and a top-level element of a document those of
all top-level nodes.

A node is made after its children, which get it as their parent then (`Node.linkIn`). The elements
around an element are found by following the parents. Its siblings are looked up at its parent, or
are the top-level nodes, and the element itself is looked for among them: an element on its own has
no list of siblings to be found in. The elements inside an element are found with a stack.

A parent has a larger number than its children, so no loop takes more steps than there are nodes.
-/

namespace HtmlNesting

/-- What a node is apart from its links. -/
inductive Content where
  | text (data : String) (position : Position)
  | element (start : StartTag)

/-- The start tag of an element. -/
def Content.start? : Content → Option StartTag
  | text _ _ => none
  | element start => some start

/-- A node with its links, the numbers of other nodes. -/
structure LinkedNode where
  content : Content
  children : List Nat := []
  parent : Option Nat := none
  /-- The top-level nodes of the document, known to its top-level elements only. -/
  rootSiblings : List Nat := []

/-- Nodes that are linked to one another; the number of a node is its index. -/
structure Arena where
  nodes : List LinkedNode := []

namespace Arena

/-- The start tag of an element. -/
def start? (arena : Arena) (number : Nat) : Option StartTag :=
  arena.nodes[number]?.bind fun node => node.content.start?

/-- Whether a node is an element. -/
def isElement (arena : Arena) (number : Nat) : Bool :=
  (arena.start? number).isSome

/-- The parent of a node. -/
def parent? (arena : Arena) (number : Nat) : Option Nat :=
  arena.nodes[number]?.bind LinkedNode.parent

/-- The children of a node. -/
def children (arena : Arena) (number : Nat) : List Nat :=
  (arena.nodes[number]?.map LinkedNode.children).getD []

/-- The top-level nodes that a top-level element knows. -/
def rootSiblings (arena : Arena) (number : Nat) : List Nat :=
  (arena.nodes[number]?.map LinkedNode.rootSiblings).getD []

/-- The element children in order. -/
def elementChildren (arena : Arena) (number : Nat) : List Nat :=
  (arena.children number).filter arena.isElement

/-! ## Making nodes -/

/-- Changes some nodes one after another. -/
def change (arena : Arena) (numbers : List Nat) (update : LinkedNode → LinkedNode) : Arena where
  nodes := numbers.foldl (fun nodes number => nodes.modify number update) arena.nodes

/-- Makes a text; its number is the next one. -/
def addText (arena : Arena) (data : String) (position : Position) : Arena × Nat :=
  ({ nodes := arena.nodes ++ [{ content := .text data position }] }, arena.nodes.length)

/-- Makes an element with some children and sets their parent. -/
def addElement (arena : Arena) (start : StartTag) (children : List Nat) : Arena × Nat :=
  let number := arena.nodes.length
  let made : Arena := { nodes := arena.nodes ++ [{ content := .element start, children }] }
  (made.change children fun child => { child with parent := some number }, number)

end Arena

mutual

/-- Makes a node, after all that is inside it. -/
def Node.linkIn : Node → Arena → Arena × Nat
  | .text data position, arena => arena.addText data position
  | .element start children, arena =>
    let inside := linkNodes children arena
    inside.1.addElement start inside.2

/-- Makes some nodes in order. -/
def linkNodes : List Node → Arena → Arena × List Nat
  | [], arena => (arena, [])
  | node :: rest, arena =>
    let first := node.linkIn arena
    let others := linkNodes rest first.1
    (others.1, first.2 :: others.2)

end

/-- The linked nodes of a tree. -/
structure LinkedTree extends Arena where
  /-- The top-level nodes. -/
  top : List Nat

/-- The nodes of a tree with their links. The top-level elements of a document get to know its
top-level nodes; an element on its own does not. -/
def Tree.linked : Tree → LinkedTree
  | .detached start children =>
    let made := (Node.element start children).linkIn {}
    { toArena := made.1, top := [made.2] }
  | .document nodes =>
    let made := linkNodes nodes {}
    let roots := made.2.filter made.1.isElement
    { toArena := made.1.change roots fun root => { root with rootSiblings := made.2 }
      top := made.2 }

namespace Arena

/-! ## Moving about -/

/-- The nodes from one on upwards, for a number of steps. -/
def upwards (arena : Arena) : Nat → Option Nat → List Nat
  | 0, _ => []
  | _, none => []
  | steps + 1, some number => number :: arena.upwards steps (arena.parent? number)

/-- The enclosing elements, from the parent to the root. -/
def ancestors (arena : Arena) (number : Nat) : List Nat :=
  arena.upwards arena.nodes.length (arena.parent? number)

/-- The elements on a stack and all elements inside them, for a number of steps. -/
def visit (arena : Arena) : Nat → List Nat → List Nat
  | 0, _ => []
  | _, [] => []
  | steps + 1, number :: stack =>
    number :: arena.visit steps (pushAll stack (arena.elementChildren number).reverse)

/-- The elements inside an element, at any depth, in document order. -/
def descendants (arena : Arena) (number : Nat) : List Nat :=
  arena.visit arena.nodes.length (pushAll [] (arena.elementChildren number).reverse)

/-- The nodes among which an element is looked for: those with its parent, or those that it knows as
a top-level element. -/
def siblings (arena : Arena) (number : Nat) : List Nat :=
  match arena.parent? number with
  | some parent => arena.children parent
  | none => arena.rootSiblings number

/-- The numbers before one in a list, behind those that are passed already; none if it is not
there. -/
def before (number : Nat) (passed : List Nat) : List Nat → List Nat
  | [] => []
  | sibling :: rest =>
    if sibling = number then passed else before number (passed ++ [sibling]) rest

/-- The numbers after one in a list; none if it is not there. -/
def after (number : Nat) : List Nat → List Nat
  | [] => []
  | sibling :: rest => if sibling = number then rest else after number rest

/-- The siblings before an element. -/
def previousSiblings (arena : Arena) (number : Nat) : List Nat :=
  before number [] (arena.siblings number)

/-- The siblings after an element. -/
def nextSiblings (arena : Arena) (number : Nat) : List Nat :=
  after number (arena.siblings number)

end Arena

/-- Every top-level element followed by the elements inside it. -/
def LinkedTree.walk (tree : LinkedTree) : List Nat :=
  (tree.top.filter tree.isElement).flatMap fun root => root :: tree.descendants root

end HtmlNesting
