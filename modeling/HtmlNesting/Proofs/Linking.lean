import Mathlib.Data.List.Forall2
import Mathlib.Data.List.Nodup
import HtmlNesting.Arena

/-!
# How nodes are linked

Making a node changes nothing in the nodes before it but the parent of its children, which had none.
So what stands for a node of a tree goes on doing so while more nodes are made (`Matches.of_keeps`),
and every step adds nodes whose links go up from a child to its parent and down again
(`Arena.Grows`). By induction on the tree this holds of all its nodes (`Tree.links_linked`).
-/

namespace HtmlNesting

/-! ## Changing nodes -/

/-- What a change of its links leaves of a node: its content, its children and the parent it has. -/
structure LinkedNode.Becomes (node image : LinkedNode) : Prop where
  content : image.content = node.content
  children : image.children = node.children
  parent : ∀ outer, node.parent = some outer → image.parent = some outer

namespace Arena

variable {arena later last : Arena} {number outer : Nat} {numbers : List Nat}
  {update : LinkedNode → LinkedNode}

@[simp]
theorem length_change (arena : Arena) (numbers : List Nat) (update : LinkedNode → LinkedNode) :
    (arena.change numbers update).nodes.length = arena.nodes.length := by
  rw [change]
  induction numbers generalizing arena with
  | nil => rfl
  | cons first rest ih => rw [List.foldl_cons, ih ⟨_⟩, List.length_modify]

/-- A change reaches the nodes it is made to, each of them once. -/
theorem getElem?_change (arena : Arena) (once : numbers.Nodup) (update : LinkedNode → LinkedNode)
    (number : Nat) :
    (arena.change numbers update).nodes[number]? =
      if number ∈ numbers then arena.nodes[number]?.map update else arena.nodes[number]? := by
  rw [change]
  induction numbers generalizing arena with
  | nil => simp
  | cons first rest ih =>
    rw [List.nodup_cons] at once
    rw [List.foldl_cons, ih ⟨_⟩ once.2, List.getElem?_modify]
    by_cases same : first = number
    · subst same
      simp [once.1]
    · simp [same, Ne.symm same]

/-- Every node is still there, with what a change leaves of it. -/
def Keeps (arena later : Arena) : Prop :=
  ∀ (number : Nat) (node : LinkedNode), arena.nodes[number]? = some node →
    ∃ image, later.nodes[number]? = some image ∧ node.Becomes image

theorem Keeps.of_kept (same : ∀ number < arena.nodes.length,
    later.nodes[number]? = arena.nodes[number]?) : arena.Keeps later := by
  intro number node found
  obtain ⟨inRange, _⟩ := List.getElem?_eq_some_iff.mp found
  exact ⟨node, by rw [same number inRange, found], rfl, rfl, fun _ held => held⟩

theorem Keeps.trans (first : arena.Keeps later) (second : later.Keeps last) :
    arena.Keeps last := by
  intro number node found
  obtain ⟨image, imageFound, becomes⟩ := first number node found
  obtain ⟨final, finalFound, further⟩ := second number image imageFound
  exact ⟨final, finalFound, further.content.trans becomes.content,
    further.children.trans becomes.children, fun outer held =>
      further.parent outer (becomes.parent outer held)⟩

/-- A change that leaves enough of the nodes it reaches keeps all. -/
theorem keeps_change (once : numbers.Nodup)
    (becomes : ∀ number ∈ numbers, ∀ node, arena.nodes[number]? = some node →
      node.Becomes (update node)) :
    arena.Keeps (arena.change numbers update) := by
  intro number node found
  rw [getElem?_change arena once]
  by_cases reached : number ∈ numbers
  · rw [if_pos reached, found]
    exact ⟨update node, rfl, becomes number reached node found⟩
  · rw [if_neg reached]
    exact ⟨node, found, rfl, rfl, fun _ held => held⟩

theorem parent?_eq_some_iff :
    arena.parent? number = some outer ↔
      ∃ node, arena.nodes[number]? = some node ∧ node.parent = some outer :=
  Option.bind_eq_some_iff

theorem Keeps.parent? (keeps : arena.Keeps later) (linked : arena.parent? number = some outer) :
    later.parent? number = some outer := by
  obtain ⟨node, found, parent⟩ := parent?_eq_some_iff.mp linked
  obtain ⟨image, imageFound, becomes⟩ := keeps number node found
  exact parent?_eq_some_iff.mpr ⟨image, imageFound, becomes.parent outer parent⟩

theorem Keeps.children (keeps : arena.Keeps later) (inRange : number < arena.nodes.length) :
    later.children number = arena.children number := by
  obtain ⟨image, imageFound, becomes⟩ :=
    keeps number arena.nodes[number] (List.getElem?_eq_getElem inRange)
  rw [Arena.children, Arena.children, imageFound, List.getElem?_eq_getElem inRange]
  exact becomes.children

theorem Keeps.isElement (keeps : arena.Keeps later) (inRange : number < arena.nodes.length) :
    later.isElement number = arena.isElement number := by
  obtain ⟨image, imageFound, becomes⟩ :=
    keeps number arena.nodes[number] (List.getElem?_eq_getElem inRange)
  rw [Arena.isElement, Arena.isElement, Arena.start?, Arena.start?, imageFound,
    List.getElem?_eq_getElem inRange, Option.bind_some, Option.bind_some, becomes.content]

end Arena

/-! ## Standing for nodes -/

mutual

/-- A linked node stands for a node of a tree: it has its content, and its children in order stand
for the node's children and have it as their parent. -/
inductive Matches (arena : Arena) : Nat → Node → Prop where
  | text {number : Nat} {node : LinkedNode} {data : String} {position : Position}
      (found : arena.nodes[number]? = some node) (content : node.content = .text data position)
      (childless : node.children = []) : Matches arena number (.text data position)
  | element {number : Nat} {node : LinkedNode} {start : StartTag} {children : List Node}
      (found : arena.nodes[number]? = some node) (content : node.content = .element start)
      (increasing : node.children.Pairwise (· < ·))
      (inside : MatchesInside arena number node.children children) :
      Matches arena number (.element start children)

/-- Linked nodes with one parent stand for some nodes of a tree. -/
inductive MatchesInside (arena : Arena) : Nat → List Nat → List Node → Prop where
  | nil {outer : Nat} : MatchesInside arena outer [] []
  | cons {outer number : Nat} {numbers : List Nat} {node : Node} {nodes : List Node}
      (linked : arena.parent? number = some outer) (first : Matches arena number node)
      (rest : MatchesInside arena outer numbers nodes) :
      MatchesInside arena outer (number :: numbers) (node :: nodes)

end

variable {arena later : Arena} {number outer : Nat} {numbers : List Nat} {node : Node}
  {nodes : List Node}

theorem MatchesInside.forall₂ {numbers : List Nat} {nodes : List Node}
    (inside : MatchesInside arena outer numbers nodes) :
    List.Forall₂ (Matches arena) numbers nodes := by
  match inside with
  | .nil => exact .nil
  | .cons _ first rest => exact .cons first rest.forall₂

theorem MatchesInside.parent? {numbers : List Nat} {nodes : List Node}
    (inside : MatchesInside arena outer numbers nodes) :
    ∀ number ∈ numbers, arena.parent? number = some outer := by
  match inside with
  | .nil => simp
  | .cons linked _ rest =>
    intro number member
    rcases List.mem_cons.mp member with rfl | later
    · exact linked
    · exact rest.parent? number later

theorem MatchesInside.of_forall₂ (matched : List.Forall₂ (Matches arena) numbers nodes)
    (linked : ∀ number ∈ numbers, arena.parent? number = some outer) :
    MatchesInside arena outer numbers nodes := by
  induction matched with
  | nil => exact .nil
  | cons first _ ih =>
    rw [List.forall_mem_cons] at linked
    exact .cons linked.1 first (ih linked.2)

mutual

/-- What stands for a node goes on doing so if all is kept. -/
theorem Matches.of_keeps (keeps : arena.Keeps later) {number : Nat} {node : Node}
    (matched : Matches arena number node) : Matches later number node := by
  match matched with
  | .text found content childless =>
    obtain ⟨image, imageFound, becomes⟩ := keeps _ _ found
    exact .text imageFound (becomes.content.trans content) (becomes.children.trans childless)
  | .element found content increasing inside =>
    obtain ⟨image, imageFound, becomes⟩ := keeps _ _ found
    refine .element imageFound (becomes.content.trans content) ?_ ?_
    · rwa [becomes.children]
    · rw [becomes.children]
      exact inside.of_keeps keeps

theorem MatchesInside.of_keeps (keeps : arena.Keeps later) {outer : Nat} {numbers : List Nat}
    {nodes : List Node} (inside : MatchesInside arena outer numbers nodes) :
    MatchesInside later outer numbers nodes := by
  match inside with
  | .nil => exact .nil
  | .cons linked first rest =>
    exact .cons (keeps.parent? linked) (first.of_keeps keeps) (rest.of_keeps keeps)

end

theorem Matches.lt_length (matched : Matches arena number node) : number < arena.nodes.length := by
  match matched with
  | .text found _ _ => exact (List.getElem?_eq_some_iff.mp found).1
  | .element found _ _ _ => exact (List.getElem?_eq_some_iff.mp found).1

theorem Matches.start? (matched : Matches arena number node) :
    arena.start? number = node.start? := by
  match matched with
  | .text found content _ =>
    rw [Arena.start?, found, Option.bind_some, content]
    rfl
  | .element found content _ _ =>
    rw [Arena.start?, found, Option.bind_some, content]
    rfl

theorem Matches.isElement (matched : Matches arena number node) :
    arena.isElement number = node.start?.isSome := by
  rw [Arena.isElement, matched.start?]

/-! ## Making nodes -/

namespace Arena

variable {middle : Arena} {made further children : List Nat} {start : StartTag}

/-- A node is linked to its parent, which is made after it, and the parent to the node. -/
def LinkedUp (arena : Arena) (number : Nat) : Prop :=
  ∃ outer, arena.parent? number = some outer ∧ number < outer ∧ outer < arena.nodes.length ∧
    number ∈ arena.children outer

theorem LinkedUp.of_keeps (linked : arena.LinkedUp number) (keeps : arena.Keeps later)
    (longer : arena.nodes.length ≤ later.nodes.length) : later.LinkedUp number := by
  obtain ⟨outer, parent, above, inRange, listed⟩ := linked
  refine ⟨outer, keeps.parent? parent, above, by omega, ?_⟩
  rwa [keeps.children inRange]

theorem parent?_congr (same : later.nodes[number]? = arena.nodes[number]?) :
    later.parent? number = arena.parent? number := by
  rw [Arena.parent?, Arena.parent?, same]

theorem rootSiblings_congr (same : later.nodes[number]? = arena.nodes[number]?) :
    later.rootSiblings number = arena.rootSiblings number := by
  rw [Arena.rootSiblings, Arena.rootSiblings, same]

/-- What making some nodes adds to an arena. All other new nodes are inside the ones made. -/
structure Grows (arena later : Arena) (made : List Nat) : Prop where
  kept : ∀ number < arena.nodes.length, later.nodes[number]? = arena.nodes[number]?
  longer : arena.nodes.length ≤ later.nodes.length
  isNew : ∀ number ∈ made, arena.nodes.length ≤ number ∧ number < later.nodes.length
  increasing : made.Pairwise (· < ·)
  parentless : ∀ number ∈ made, later.parent? number = none
  inside : ∀ number, arena.nodes.length ≤ number → number < later.nodes.length →
    number ∉ made → later.LinkedUp number
  alone : ∀ number, arena.nodes.length ≤ number → later.rootSiblings number = []

theorem Grows.keeps (grows : arena.Grows later made) : arena.Keeps later :=
  .of_kept grows.kept

theorem Grows.refl (arena : Arena) : arena.Grows arena [] where
  kept _ _ := rfl
  longer := Nat.le_refl _
  isNew := by simp
  increasing := .nil
  parentless := by simp
  inside number above below := by omega
  alone number above := by
    rw [Arena.rootSiblings, List.getElem?_eq_none above]
    rfl

theorem Grows.trans (first : arena.Grows middle made) (second : middle.Grows later further) :
    arena.Grows later (made ++ further) where
  kept number before := by
    have := first.longer
    rw [second.kept number (by omega), first.kept number before]
  longer := Nat.le_trans first.longer second.longer
  isNew number member := by
    have := first.longer
    have := second.longer
    rcases List.mem_append.mp member with early | late
    · have := first.isNew number early
      omega
    · have := second.isNew number late
      omega
  increasing := by
    refine List.pairwise_append.mpr ⟨first.increasing, second.increasing, ?_⟩
    intro early earlyMade late lateMade
    have := first.isNew early earlyMade
    have := second.isNew late lateMade
    omega
  parentless number member := by
    rcases List.mem_append.mp member with early | late
    · rw [parent?_congr (second.kept number (first.isNew number early).2)]
      exact first.parentless number early
    · exact second.parentless number late
  inside number above below other := by
    rw [List.mem_append, not_or] at other
    by_cases early : number < middle.nodes.length
    · exact (first.inside number above early other.1).of_keeps second.keeps second.longer
    · exact second.inside number (by omega) below other.2
  alone number above := by
    by_cases early : number < middle.nodes.length
    · rw [rootSiblings_congr (second.kept number early)]
      exact first.alone number above
    · exact second.alone number (by omega)

/-- A node put behind the others is found there. -/
theorem getElem?_push (nodes : List LinkedNode) (node : LinkedNode) (number : Nat) :
    (nodes ++ [node])[number]? =
      if number = nodes.length then some node else nodes[number]? := by
  by_cases last : number = nodes.length
  · simp [last]
  · rw [if_neg last]
    by_cases before : number < nodes.length
    · exact List.getElem?_append_left before
    · rw [List.getElem?_eq_none (by simp; omega), List.getElem?_eq_none (by omega)]

theorem grows_addText (arena : Arena) (data : String) (position : Position) :
    arena.Grows (arena.addText data position).1 [arena.nodes.length] where
  kept number before := List.getElem?_append_left before
  longer := by simp [addText]
  isNew := by simp [addText]
  increasing := List.pairwise_singleton _ _
  parentless := by simp [addText, Arena.parent?]
  inside number above below other := by
    simp only [addText, List.length_append, List.length_singleton, List.mem_singleton] at below other
    omega
  alone number above := by
    rw [addText, Arena.rootSiblings, getElem?_push]
    split
    · rfl
    · rw [List.getElem?_eq_none above]
      rfl

/-- Making an element around nodes that have no parent so far keeps all nodes. -/
theorem keeps_addElement (grows : arena.Grows later made) (start : StartTag) :
    later.Keeps (later.addElement start made).1 := by
  refine Keeps.trans (.of_kept fun number before => List.getElem?_append_left before)
    (keeps_change grows.increasing.nodup ?_)
  intro number member node found
  refine ⟨rfl, rfl, ?_⟩
  intro outer parent
  have held : later.parent? number = some outer := by
    rw [List.getElem?_append_left (grows.isNew number member).2] at found
    exact parent?_eq_some_iff.mpr ⟨node, found, parent⟩
  rw [grows.parentless number member] at held
  cases held

theorem getElem?_addElement (grows : arena.Grows later made) (start : StartTag) (number : Nat) :
    (later.addElement start made).1.nodes[number]? =
      if number = later.nodes.length then some { content := .element start, children := made }
      else if number ∈ made then
        later.nodes[number]?.map fun child => { child with parent := some later.nodes.length }
      else later.nodes[number]? := by
  rw [addElement, getElem?_change _ grows.increasing.nodup, getElem?_push]
  by_cases last : number = later.nodes.length
  · have notMade : number ∉ made := by
      intro member
      have := grows.isNew number member
      omega
    rw [if_neg notMade, if_pos last, if_pos last]
  · rw [if_neg last, if_neg last]

theorem length_addElement (arena : Arena) (start : StartTag) (children : List Nat) :
    (arena.addElement start children).1.nodes.length = arena.nodes.length + 1 := by
  simp [addElement]

theorem parent?_addElement (grows : arena.Grows later made) (start : StartTag)
    (member : number ∈ made) :
    (later.addElement start made).1.parent? number = some later.nodes.length := by
  have inRange := (grows.isNew number member).2
  rw [Arena.parent?, getElem?_addElement grows, if_neg (by omega), if_pos member,
    List.getElem?_eq_getElem inRange]
  rfl

/-- An element is made around the nodes that were made last. -/
theorem grows_addElement (grows : arena.Grows later made) (start : StartTag) :
    arena.Grows (later.addElement start made).1 [later.nodes.length] where
  kept number before := by
    have := grows.longer
    have notMade : number ∉ made := by
      intro member
      have := grows.isNew number member
      omega
    rw [getElem?_addElement grows, if_neg (by omega), if_neg notMade, grows.kept number before]
  longer := by
    have := grows.longer
    rw [length_addElement]
    omega
  isNew := by
    have := grows.longer
    simp [length_addElement, this]
  increasing := List.pairwise_singleton _ _
  parentless := by
    intro number member
    rw [List.mem_singleton] at member
    rw [Arena.parent?, getElem?_addElement grows, if_pos member]
    rfl
  inside number above below other := by
    rw [List.mem_singleton] at other
    rw [length_addElement] at below
    by_cases child : number ∈ made
    · refine ⟨later.nodes.length, parent?_addElement grows start child, by omega, ?_, ?_⟩
      · rw [length_addElement]
        omega
      · rw [Arena.children, getElem?_addElement grows, if_pos rfl]
        exact child
    · have linked := grows.inside number above (by omega) child
      refine linked.of_keeps (keeps_addElement grows start) ?_
      rw [length_addElement]
      omega
  alone number above := by
    have unknown := grows.alone number above
    rw [Arena.rootSiblings] at unknown ⊢
    rw [getElem?_addElement grows]
    split_ifs
    · rfl
    · rwa [Option.map_map]
    · exact unknown

end Arena

mutual

/-- Making a node adds the nodes inside it and then itself, and that stands for it. -/
theorem Node.linkIn_grows (node : Node) (arena : Arena) :
    arena.Grows (node.linkIn arena).1 [(node.linkIn arena).2] ∧
      Matches (node.linkIn arena).1 (node.linkIn arena).2 node := by
  match node with
  | .text data position =>
    rw [Node.linkIn]
    have found : (arena.addText data position).1.nodes[arena.nodes.length]? =
        some { content := .text data position } := by simp [Arena.addText]
    exact ⟨Arena.grows_addText arena data position, .text found rfl rfl⟩
  | .element start children =>
    rw [Node.linkIn]
    obtain ⟨grows, matched⟩ := linkNodes_grows children arena
    refine ⟨Arena.grows_addElement grows start, ?_⟩
    have found := Arena.getElem?_addElement grows start (linkNodes children arena).1.nodes.length
    rw [if_pos rfl] at found
    refine .element found rfl grows.increasing (.of_forall₂ ?_ ?_)
    · exact matched.imp fun _ _ stands => stands.of_keeps (Arena.keeps_addElement grows start)
    · exact fun number member => Arena.parent?_addElement grows start member

theorem linkNodes_grows (nodes : List Node) (arena : Arena) :
    arena.Grows (linkNodes nodes arena).1 (linkNodes nodes arena).2 ∧
      List.Forall₂ (Matches (linkNodes nodes arena).1) (linkNodes nodes arena).2 nodes := by
  match nodes with
  | [] => exact ⟨.refl arena, .nil⟩
  | node :: rest =>
    rw [linkNodes]
    obtain ⟨firstGrows, first⟩ := node.linkIn_grows arena
    obtain ⟨othersGrow, others⟩ := linkNodes_grows rest (node.linkIn arena).1
    exact ⟨firstGrows.trans othersGrow, .cons (first.of_keeps othersGrow.keeps) others⟩

end

/-! ## Trees -/

/-- The top-level nodes stand for some nodes and have no parent; all others are inside them. -/
structure LinkedTree.Links (linked : LinkedTree) (nodes : List Node) : Prop where
  matched : List.Forall₂ (Matches linked.toArena) linked.top nodes
  increasing : linked.top.Pairwise (· < ·)
  parentless : ∀ number ∈ linked.top, linked.parent? number = none
  inside : ∀ number < linked.nodes.length, number ∉ linked.top → linked.LinkedUp number

theorem Arena.Grows.links {top : List Nat} (grows : Arena.Grows {} arena top)
    (matched : List.Forall₂ (Matches arena) top nodes) :
    LinkedTree.Links { toArena := arena, top } nodes where
  matched := matched
  increasing := grows.increasing
  parentless := grows.parentless
  inside number inRange := grows.inside number (Nat.zero_le number) inRange

/-- The top-level elements of a document get to know its top-level nodes; all else stays. -/
theorem LinkedTree.Links.change {linked : LinkedTree} (links : linked.Links nodes)
    {roots : List Nat} (once : roots.Nodup) (siblings : List Nat) :
    LinkedTree.Links
      { toArena := linked.change roots fun root => { root with rootSiblings := siblings }
        top := linked.top } nodes := by
  have keeps : linked.Keeps
      (linked.change roots fun root => { root with rootSiblings := siblings }) :=
    Arena.keeps_change once fun _ _ _ _ => ⟨rfl, rfl, fun _ held => held⟩
  refine ⟨links.matched.imp fun _ _ stands => stands.of_keeps keeps, links.increasing, ?_, ?_⟩
  · intro number member
    have parentless := links.parentless number member
    rw [Arena.parent?] at parentless ⊢
    rw [Arena.getElem?_change _ once]
    split
    · rwa [Option.bind_map]
    · exact parentless
  · intro number inRange other
    rw [Arena.length_change] at inRange
    refine (links.inside number inRange other).of_keeps keeps ?_
    exact Nat.le_of_eq (Arena.length_change _ _ _).symm

theorem Tree.links_linked (tree : Tree) : tree.linked.Links tree.nodes := by
  cases tree with
  | detached start children =>
    obtain ⟨grows, matched⟩ := (Node.element start children).linkIn_grows {}
    exact grows.links (.cons matched .nil)
  | document nodes =>
    obtain ⟨grows, matched⟩ := linkNodes_grows nodes {}
    exact (grows.links matched).change (grows.increasing.nodup.filter _) _

/-- The top-level elements of a document know its top-level nodes. -/
theorem Tree.rootSiblings_document
    (member : number ∈ (Tree.document nodes).linked.top)
    (isElement : (Tree.document nodes).linked.isElement number = true) :
    (Tree.document nodes).linked.rootSiblings number = (Tree.document nodes).linked.top := by
  obtain ⟨grows, _⟩ := linkNodes_grows nodes {}
  have once := grows.increasing.nodup.filter (linkNodes nodes {}).1.isElement
  have inRange : number < (linkNodes nodes {}).1.nodes.length := (grows.isNew number member).2
  have keeps : (linkNodes nodes {}).1.Keeps (Tree.document nodes).linked.toArena :=
    Arena.keeps_change once fun _ _ _ _ => ⟨rfl, rfl, fun _ held => held⟩
  have isRoot : number ∈ (linkNodes nodes {}).2.filter (linkNodes nodes {}).1.isElement := by
    rw [keeps.isElement inRange] at isElement
    exact List.mem_filter.mpr ⟨member, isElement⟩
  rw [Arena.rootSiblings, linked, Arena.getElem?_change _ once, if_pos isRoot,
    List.getElem?_eq_getElem inRange]
  rfl

/-- An element on its own knows of no siblings. -/
theorem Tree.rootSiblings_detached (start : StartTag) (children : List Node) (number : Nat) :
    (Tree.detached start children).linked.rootSiblings number = [] := by
  obtain ⟨grows, _⟩ := (Node.element start children).linkIn_grows {}
  exact grows.alone number (Nat.zero_le number)

end HtmlNesting
