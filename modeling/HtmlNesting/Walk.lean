import HtmlNesting.Place

/-!
# Walking a tree with a stack

The elements of a tree are visited one after another. `visit` keeps the elements still to be visited
on a stack: it takes the top one off and puts its element children there instead, the last child
first. The stack's `weight`, the number of elements in it at any depth, falls by one with every
step.

Validation starts the loop with one root after another. The elements inside an element are those
that the loop finds from its children, and `Tree.walk` lists every root followed by these.
-/

namespace HtmlNesting

mutual

/-- The number of elements in a node. -/
def Node.weight : Node → Nat
  | .text _ _ => 0
  | .element _ children => 1 + weightOfNodes children

/-- The number of elements in a list of nodes. -/
def weightOfNodes : List Node → Nat
  | [] => 0
  | node :: rest => node.weight + weightOfNodes rest

end

/-- The number of elements at a place, itself included. -/
def Place.weight (place : Place) : Nat :=
  1 + weightOfNodes place.children

/-- The number of elements at some places. -/
def weightOfPlaces : List Place → Nat
  | [] => 0
  | place :: rest => place.weight + weightOfPlaces rest

/-- The places of two lists together have the elements of both. -/
theorem weightOfPlaces_append (first second : List Place) :
    weightOfPlaces (first ++ second) = weightOfPlaces first + weightOfPlaces second := by
  induction first with
  | nil => simp [weightOfPlaces]
  | cons place rest ih => simp only [List.cons_append, weightOfPlaces, ih]; omega

/-- The element siblings among some nodes have all the elements of these nodes. -/
theorem weight_siblingPlaces (above : List Level) (before nodes : List Node) :
    weightOfPlaces (Place.siblingPlaces above before nodes) = weightOfNodes nodes := by
  induction nodes generalizing before with
  | nil => rfl
  | cons node rest ih =>
    cases node with
    | text data position => simp [Place.siblingPlaces, weightOfNodes, Node.weight, ih]
    | element start children =>
      have tail := ih (before ++ [.element start children])
      simp [Place.siblingPlaces, weightOfPlaces, weightOfNodes, Node.weight, Place.weight, tail]

/-- Replacing the top of the stack by its element children lowers the weight. -/
theorem weight_push_lt (place : Place) (stack : List Place) :
    weightOfPlaces (place.elementChildren ++ stack) < weightOfPlaces (place :: stack) := by
  have children := weight_siblingPlaces (place.toLevel :: place.above) [] place.children
  simp only [weightOfPlaces_append, weightOfPlaces, Place.elementChildren, Place.weight, children]
  omega

/-- Puts items on a stack one after another, so that the last of them is on top. -/
def pushAll {α : Type} (stack items : List α) : List α :=
  items.foldl (fun stack item => item :: stack) stack

/-- Items that are put on a stack last one first lie on it in order. -/
theorem pushAll_reverse {α : Type} (stack items : List α) :
    pushAll stack items.reverse = items ++ stack := by
  simp [pushAll]

/-- The elements on a stack and all elements inside them, in the order in which they are visited. -/
def visit : List Place → List Place
  | [] => []
  | place :: stack => place :: visit (pushAll stack place.elementChildren.reverse)
termination_by stack => weightOfPlaces stack
decreasing_by
  rw [pushAll_reverse]
  exact weight_push_lt place stack

/-- The elements inside an element, at any depth, in document order. -/
def Place.descendants (place : Place) : List Place :=
  visit (pushAll [] place.elementChildren.reverse)

/-- The elements of a tree in the order in which validation visits them. -/
def Tree.visited (tree : Tree) : List Place :=
  tree.roots.flatMap fun root => visit [root]

/-- Every top-level element followed by the elements inside it. -/
def Tree.walk (tree : Tree) : List Place :=
  tree.roots.flatMap fun root => root :: root.descendants

end HtmlNesting
