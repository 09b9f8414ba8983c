import HtmlNesting.Walk

/-!
# Document order

The stack loop `visit` and the recursion `placesIn` list the same elements in the same order, each
once. A run of the loop is described by what one step does: `visit_invariant` carries a property
from the elements on the stack to all that are visited, and `nodup_visit` keeps the elements on the
stack apart from one another.

`Tree.Holds` says which elements a tree has without listing them: an element is reached from the top
level by going from a node to one of its children. What is inside an element and what is around one
are two views of the same relation (`Place.mem_descendants_iff`).
-/

namespace HtmlNesting

namespace Place

/-- The levels from an element up to its root, its own level first. They tell where it stands. -/
def levels (place : Place) : List Level :=
  place.toLevel :: place.above

/-- The element siblings among some nodes are their elements, each between the nodes on its two
sides. -/
theorem mem_siblingPlaces {above : List Level} {before nodes : List Node} {place : Place} :
    place ∈ siblingPlaces above before nodes ↔
      ∃ index, nodes[index]? = some place.node ∧ place.before = before ++ nodes.take index ∧
        place.after = nodes.drop (index + 1) ∧ place.above = above := by
  induction nodes generalizing before with
  | nil => simp [siblingPlaces]
  | cons node rest ih =>
    have later : (∃ index, rest[index]? = some place.node ∧
        place.before = (before ++ [node]) ++ rest.take index ∧
        place.after = rest.drop (index + 1) ∧ place.above = above) ↔
        ∃ index, (node :: rest)[index + 1]? = some place.node ∧
          place.before = before ++ (node :: rest).take (index + 1) ∧
          place.after = (node :: rest).drop (index + 1 + 1) ∧ place.above = above := by
      simp
    cases node with
    | text data position =>
      rw [siblingPlaces, ih, later]
      constructor
      · rintro ⟨index, found⟩
        exact ⟨index + 1, found⟩
      · rintro ⟨index, found⟩
        cases index with
        | zero => simp [Place.node] at found
        | succ index => exact ⟨index, found⟩
    | element start children =>
      rw [siblingPlaces, List.mem_cons, ih, later]
      constructor
      · rintro (rfl | ⟨index, found⟩)
        · exact ⟨0, by simp [Place.node]⟩
        · exact ⟨index + 1, found⟩
      · rintro ⟨index, found⟩
        cases index with
        | zero =>
          left
          obtain ⟨⟨placeStart, placeBefore, placeAfter⟩, placeChildren, placeAbove⟩ := place
          simp_all [Place.node]
        | succ index => exact .inr ⟨index, found⟩

/-- The child at an index stands between the children on its two sides, below its parent. -/
theorem childAt?_eq_some_iff {parent child : Place} {index : Nat} :
    parent.childAt? index = some (.element child) ↔
      parent.children[index]? = some child.node ∧ child.before = parent.children.take index ∧
        child.after = parent.children.drop (index + 1) ∧ child.above = parent.levels := by
  obtain ⟨⟨start, before, after⟩, children, above⟩ := child
  cases found : parent.children[index]? with
  | none => simp [childAt?, found]
  | some node =>
    cases node with
    | text data position => simp [childAt?, found, Place.node]
    | element start children =>
      simp only [childAt?, found, Place.node, levels, Option.some.injEq,
        Node.element.injEq, Subject.element.injEq, Place.mk.injEq, Level.mk.injEq]
      grind

/-- The element children are the children that are elements. -/
theorem mem_elementChildren {parent child : Place} :
    child ∈ parent.elementChildren ↔
      ∃ index, parent.childAt? index = some (.element child) := by
  rw [elementChildren, mem_siblingPlaces]
  exact exists_congr fun index => by rw [childAt?_eq_some_iff, List.nil_append, levels]

/-- An element child stands below its parent. -/
theorem above_of_mem_elementChildren {parent child : Place}
    (member : child ∈ parent.elementChildren) : child.above = parent.levels := by
  obtain ⟨index, _, _, _, above⟩ := mem_siblingPlaces.mp member
  exact above

/-- An element among some nodes has these as its siblings, itself included. -/
theorem siblings_of_mem_siblingPlaces {above : List Level} {nodes : List Node} {place : Place}
    (member : place ∈ siblingPlaces above [] nodes) : place.siblings = nodes := by
  obtain ⟨index, found, before, after, _⟩ := mem_siblingPlaces.mp member
  obtain ⟨inRange, atIndex⟩ := List.getElem?_eq_some_iff.mp found
  rw [siblings, before, after, List.nil_append, ← atIndex, List.getElem_cons_drop,
    List.take_append_drop]

/-- The element siblings among some nodes have the start tags of these. -/
theorem siblingPlaces_start (above : List Level) (before nodes : List Node) :
    (siblingPlaces above before nodes).map (fun place => place.start) =
      nodes.filterMap Node.start? := by
  induction nodes generalizing before with
  | nil => rfl
  | cons node rest ih =>
    cases node with
    | text data position =>
      rw [siblingPlaces, ih]
      rfl
    | element start children =>
      rw [siblingPlaces, List.map_cons, ih]
      rfl

/-- Around an element child are its parent and what is around that. -/
theorem ancestors_of_mem_elementChildren {parent child : Place}
    (member : child ∈ parent.elementChildren) : child.ancestors = parent :: parent.ancestors := by
  have siblings : child.before ++ .element child.start child.children :: child.after =
      parent.children := siblings_of_mem_siblingPlaces member
  rw [ancestors, above_of_mem_elementChildren member, levels, ancestorsFrom, siblings]
  rfl

end Place

namespace Tree

/-- The top-level element at an index stands between the nodes on its two sides. -/
theorem rootAt?_eq_some_iff {tree : Tree} {place : Place} {index : Nat} :
    tree.rootAt? index = some (.element place) ↔
      tree.nodes[index]? = some place.node ∧ place.before = tree.nodes.take index ∧
        place.after = tree.nodes.drop (index + 1) ∧ place.above = [] := by
  obtain ⟨⟨start, before, after⟩, children, above⟩ := place
  cases found : tree.nodes[index]? with
  | none => simp [rootAt?, found]
  | some node =>
    cases node with
    | text data position => simp [rootAt?, found, Place.node]
    | element start children =>
      simp only [rootAt?, found, Place.node, Option.some.injEq,
        Node.element.injEq, Subject.element.injEq, Place.mk.injEq, Level.mk.injEq]
      grind

/-- The top-level elements are the top-level nodes that are elements. -/
theorem mem_roots {tree : Tree} {place : Place} :
    place ∈ tree.roots ↔ ∃ index, tree.rootAt? index = some (.element place) := by
  rw [roots, Place.mem_siblingPlaces]
  exact exists_congr fun index => by rw [rootAt?_eq_some_iff, List.nil_append]

/-- A tree holds its top-level elements, and with an element the children that are elements. -/
inductive Holds (tree : Tree) : Place → Prop where
  | root {index : Nat} {place : Place}
      (found : tree.rootAt? index = some (.element place)) : Holds tree place
  | child {parent place : Place} {index : Nat} (held : Holds tree parent)
      (found : parent.childAt? index = some (.element place)) : Holds tree place

end Tree

/-! ## Runs of the loop -/

/-- One step of the loop, with the children of the visited element on top of the stack. -/
theorem visit_cons (place : Place) (stack : List Place) :
    visit (place :: stack) = place :: visit (place.elementChildren ++ stack) := by
  rw [visit, pushAll_reverse]

/-- A property that element children inherit holds of all visited elements if it holds of those on
the stack. -/
theorem visit_invariant (property : Place → Prop)
    (step : ∀ parent, property parent → ∀ child ∈ parent.elementChildren, property child)
    (stack : List Place) (start : ∀ place ∈ stack, property place) :
    ∀ place ∈ visit stack, property place := by
  induction stack using visit.induct with
  | case1 => simp [visit]
  | case2 top stack ih =>
    rw [pushAll_reverse] at ih
    have topHolds := start top (by simp)
    have rest : ∀ place ∈ top.elementChildren ++ stack, property place := by
      intro place member
      rcases List.mem_append.mp member with child | waiting
      · exact step top topHolds place child
      · exact start place (by simp [waiting])
    intro place member
    rw [visit_cons, List.mem_cons] at member
    rcases member with rfl | later
    · exact topHolds
    · exact ih rest place later

/-- Elements further down the stack are visited after all that lie above them are dealt with. -/
theorem visit_append (upper lower : List Place) :
    visit (upper ++ lower) = visit upper ++ visit lower := by
  induction upper using visit.induct with
  | case1 => simp [visit]
  | case2 top stack ih =>
    rw [pushAll_reverse] at ih
    rw [List.cons_append, visit_cons, visit_cons, ← List.append_assoc, ih, List.cons_append]

/-- Every element on the stack is visited. -/
theorem mem_visit_of_mem {place : Place} {stack : List Place} (member : place ∈ stack) :
    place ∈ visit stack := by
  obtain ⟨upper, lower, rfl⟩ := List.append_of_mem member
  rw [visit_append, visit_cons]
  simp

/-- With an element its element children are visited. -/
theorem mem_visit_of_child {parent child : Place} (stack : List Place)
    (isChild : child ∈ parent.elementChildren) (member : parent ∈ visit stack) :
    child ∈ visit stack := by
  induction stack using visit.induct with
  | case1 => simp [visit] at member
  | case2 top stack ih =>
    rw [pushAll_reverse] at ih
    rw [visit_cons, List.mem_cons] at member ⊢
    right
    rcases member with rfl | later
    · exact mem_visit_of_mem (by simp [isChild])
    · exact ih later

/-! ## Every element once -/

/-- Two elements neither of which encloses the other, and which are not the same. -/
def Place.Apart (first second : Place) : Prop :=
  ¬ first.levels <:+ second.levels ∧ ¬ second.levels <:+ first.levels

/-- The levels of an element child are those of its parent below its own. -/
theorem levels_suffix_of_child {parent child : Place}
    (isChild : child ∈ parent.elementChildren) : parent.levels <:+ child.levels := by
  rw [Place.levels, Place.levels, Place.above_of_mem_elementChildren isChild]
  exact List.suffix_cons _ _

/-- Element siblings stand at different indices, in increasing order. -/
theorem siblingPlaces_increasing (above : List Level) (before nodes : List Node) :
    (Place.siblingPlaces above before nodes).Pairwise fun first second =>
      first.before.length < second.before.length := by
  induction nodes generalizing before with
  | nil => simp [Place.siblingPlaces]
  | cons node rest ih =>
    cases node with
    | text data position => simpa [Place.siblingPlaces] using ih _
    | element start children =>
      rw [Place.siblingPlaces, List.pairwise_cons]
      refine ⟨?_, ih _⟩
      intro place member
      obtain ⟨index, _, before, _⟩ := Place.mem_siblingPlaces.mp member
      simp [before]

/-- Element siblings stand apart. -/
theorem siblingPlaces_apart (above : List Level) (before nodes : List Node) :
    (Place.siblingPlaces above before nodes).Pairwise Place.Apart := by
  refine (siblingPlaces_increasing above before nodes).imp_of_mem ?_
  intro first second firstMember secondMember increasing
  obtain ⟨_, _, _, _, firstAbove⟩ := Place.mem_siblingPlaces.mp firstMember
  obtain ⟨_, _, _, _, secondAbove⟩ := Place.mem_siblingPlaces.mp secondMember
  have sameLength : first.levels.length = second.levels.length := by
    simp [Place.levels, firstAbove, secondAbove]
  have different : first.levels ≠ second.levels := by
    intro equal
    have sameLevel : first.toLevel = second.toLevel := (List.cons.inj equal).1
    simp [sameLevel] at increasing
  constructor
  · intro suffix
    exact different (suffix.eq_of_length sameLength)
  · intro suffix
    exact different (suffix.eq_of_length sameLength.symm).symm

/-- The children of an element stand apart from what stands apart from the element. -/
theorem apart_of_child {parent child other : Place} (isChild : child ∈ parent.elementChildren)
    (apart : parent.Apart other) : child.Apart other := by
  have inherited := levels_suffix_of_child isChild
  constructor
  · intro suffix
    exact apart.1 (inherited.trans suffix)
  · intro suffix
    rw [Place.levels, Place.levels, Place.above_of_mem_elementChildren isChild,
      List.suffix_cons_iff] at suffix
    rcases suffix with equal | enclosed
    · apply apart.1
      rw [show other.levels = child.levels by
        simpa [Place.levels, Place.above_of_mem_elementChildren isChild] using equal]
      exact inherited
    · exact apart.2 enclosed

/-- A step of the loop keeps the elements on the stack apart. -/
theorem apart_step {top : Place} {stack : List Place}
    (apart : (top :: stack).Pairwise Place.Apart) :
    (top.elementChildren ++ stack).Pairwise Place.Apart := by
  rw [List.pairwise_cons] at apart
  rw [List.pairwise_append]
  refine ⟨siblingPlaces_apart _ _ _, apart.2, ?_⟩
  intro child isChild waiting member
  exact apart_of_child isChild (apart.1 waiting member)

/-- Elements that stand apart are visited with all elements inside them without repetition. -/
theorem nodup_visit (stack : List Place) (apart : stack.Pairwise Place.Apart) :
    (visit stack).Nodup := by
  induction stack using visit.induct with
  | case1 => simp [visit]
  | case2 top stack ih =>
    rw [pushAll_reverse] at ih
    rw [visit_cons, List.nodup_cons]
    refine ⟨?_, ih (apart_step apart)⟩
    -- Nothing visited later encloses the top element or is it; children inherit this.
    have later := visit_invariant (fun place => ¬ place.levels <:+ top.levels)
      (fun parent notAround child isChild around =>
        notAround ((levels_suffix_of_child isChild).trans around))
      (top.elementChildren ++ stack) (by
        intro place member around
        rcases List.mem_append.mp member with isChild | waiting
        · have longer := around.length_le
          rw [Place.levels, Place.above_of_mem_elementChildren isChild, List.length_cons] at longer
          omega
        · exact ((List.pairwise_cons.mp apart).1 place waiting).2 around)
    intro again
    exact later top again (List.suffix_refl _)

/-! ## The loop and the recursion -/

/-- The loop started with element siblings lists what the recursion lists for them. -/
theorem visit_siblingPlaces (above : List Level) (before : List Node) : (nodes : List Node) →
    visit (Place.siblingPlaces above before nodes) = placesIn above before nodes
  | [] => by simp [Place.siblingPlaces, visit, placesIn]
  | .text data position :: rest => by
    rw [Place.siblingPlaces, visit_siblingPlaces above _ rest, placesIn, placesOf, List.nil_append]
  | .element start children :: rest => by
    rw [Place.siblingPlaces, visit_cons, visit_append, Place.elementChildren,
      visit_siblingPlaces _ [] children, visit_siblingPlaces above _ rest, placesIn, placesOf,
      List.cons_append]

/-- The elements inside an element, by recursion on the tree. -/
theorem Place.descendants_eq_placesIn (place : Place) :
    place.descendants = placesIn place.levels [] place.children := by
  rw [descendants, pushAll_reverse, List.append_nil]
  exact visit_siblingPlaces _ [] _

/-- The element children of an element are inside it. -/
theorem Place.mem_descendants_of_child {parent child : Place}
    (isChild : child ∈ parent.elementChildren) : child ∈ parent.descendants := by
  rw [descendants, pushAll_reverse, List.append_nil]
  exact mem_visit_of_mem isChild

/-- What is inside an element child of an element is inside the element. -/
theorem Place.mem_descendants_trans {parent child place : Place}
    (isChild : child ∈ parent.elementChildren) (inside : place ∈ child.descendants) :
    place ∈ parent.descendants := by
  have step : ∀ outer, outer ∈ parent.descendants → ∀ inner ∈ outer.elementChildren,
      inner ∈ parent.descendants := by
    intro outer outerInside inner isInner
    rw [descendants] at outerInside ⊢
    exact mem_visit_of_child _ isInner outerInside
  rw [descendants, pushAll_reverse, List.append_nil] at inside
  exact visit_invariant (· ∈ parent.descendants) step child.elementChildren
    (step child (mem_descendants_of_child isChild)) place inside

/-- Below another level an element is a child of the element there. -/
theorem Place.mem_elementChildren_of_above {place : Place} {outer : Level} {rest : List Level}
    (above : place.above = outer :: rest) :
    place ∈ elementChildren { toLevel := outer, children := place.siblings, above := rest } := by
  refine mem_siblingPlaces.mpr ⟨place.before.length, ?_, ?_, ?_, above⟩
  · simp [siblings]
  · simp [siblings]
  · simp [siblings]

/-- An element is inside another exactly if that one is among those around it. -/
theorem Place.mem_descendants_iff {outer inner : Place} :
    inner ∈ outer.descendants ↔ outer ∈ inner.ancestors := by
  constructor
  · intro inside
    rw [descendants, pushAll_reverse, List.append_nil] at inside
    refine visit_invariant (fun place => outer ∈ place.ancestors) ?_ outer.elementChildren ?_
      inner inside
    · intro parent around child isChild
      rw [ancestors_of_mem_elementChildren isChild]
      exact List.mem_cons_of_mem _ around
    · intro child isChild
      rw [ancestors_of_mem_elementChildren isChild]
      exact List.mem_cons_self
  · intro around
    -- Going up from the inner element, the outer one is met at one of the levels.
    induction levels : inner.above generalizing inner with
    | nil => simp [ancestors, levels, ancestorsFrom] at around
    | cons level rest ih =>
      have isChild := mem_elementChildren_of_above levels
      rw [ancestors_of_mem_elementChildren isChild] at around
      rcases List.mem_cons.mp around with rfl | further
      · exact mem_descendants_of_child isChild
      · have parentInside := ih further rfl
        rw [descendants] at parentInside ⊢
        exact mem_visit_of_child _ isChild parentInside

/-- The elements inside an element are listed without repetition. -/
theorem Place.nodup_descendants (place : Place) : place.descendants.Nodup := by
  rw [descendants, pushAll_reverse, List.append_nil]
  exact nodup_visit _ (siblingPlaces_apart _ _ _)

namespace Tree

/-- A top-level element has no elements around it. -/
theorem ancestors_of_rootAt? {tree : Tree} {index : Nat} {place : Place}
    (found : tree.rootAt? index = some (.element place)) : place.ancestors = [] := by
  obtain ⟨_, _, _, _, above⟩ := Place.mem_siblingPlaces.mp (mem_roots.mpr ⟨index, found⟩)
  rw [Place.ancestors, above, Place.ancestorsFrom]

/-- With an element a tree holds its element children. -/
theorem Holds.of_mem_elementChildren {tree : Tree} {parent child : Place}
    (held : tree.Holds parent) (isChild : child ∈ parent.elementChildren) : tree.Holds child := by
  obtain ⟨index, found⟩ := Place.mem_elementChildren.mp isChild
  exact .child held found

/-- With an element a tree holds the elements inside it. -/
theorem Holds.of_mem_descendants {tree : Tree} {outer inner : Place} (held : tree.Holds outer)
    (inside : inner ∈ outer.descendants) : tree.Holds inner := by
  rw [Place.descendants, pushAll_reverse, List.append_nil] at inside
  exact visit_invariant tree.Holds
    (fun _ parentHeld _ isChild => parentHeld.of_mem_elementChildren isChild)
    outer.elementChildren (fun _ isChild => held.of_mem_elementChildren isChild) inner inside

/-- Going from root to root is one run of the loop. -/
theorem visited_eq_visit (tree : Tree) : tree.visited = visit tree.roots := by
  rw [visited]
  induction tree.roots with
  | nil => simp [visit]
  | cons root rest ih => rw [List.flatMap_cons, ih, ← visit_append, List.singleton_append]

/-- Validation visits the elements in the order of the recursion on the tree. -/
theorem visited_eq_places (tree : Tree) : tree.visited = tree.places := by
  rw [visited_eq_visit]
  exact visit_siblingPlaces [] [] tree.nodes

/-- The walk is in the order of the recursion on the tree. -/
theorem walk_eq_places (tree : Tree) : tree.walk = tree.places := by
  rw [← visited_eq_places, walk, visited]
  congr 1
  funext root
  rw [visit_cons, Place.descendants, pushAll_reverse]

/-- No element of a tree is visited twice. -/
theorem nodup_visited (tree : Tree) : tree.visited.Nodup := by
  rw [visited_eq_visit]
  exact nodup_visit _ (siblingPlaces_apart [] [] tree.nodes)

/-- Exactly the elements of a tree are visited. -/
theorem mem_visited {tree : Tree} {place : Place} :
    place ∈ tree.visited ↔ tree.Holds place := by
  rw [visited_eq_visit]
  constructor
  · refine visit_invariant tree.Holds ?_ tree.roots ?_ place
    · intro parent held child isChild
      exact held.of_mem_elementChildren isChild
    · intro root member
      obtain ⟨index, found⟩ := mem_roots.mp member
      exact .root found
  · intro held
    induction held with
    | root found => exact mem_visit_of_mem (mem_roots.mpr ⟨_, found⟩)
    | child _ found ih => exact mem_visit_of_child _ (Place.mem_elementChildren.mpr ⟨_, found⟩) ih

end Tree

end HtmlNesting
