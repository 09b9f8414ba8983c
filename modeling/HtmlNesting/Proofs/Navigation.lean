import Mathlib.Data.List.Chain
import Mathlib.Data.List.Perm.Subperm
import HtmlNesting.Proofs.DocumentOrder
import HtmlNesting.Proofs.Linking

/-!
# Moving about in a tree

From an element one can go down to the elements inside it, up to those around it, and sideways to
its siblings. Which element is meant is told by its number, so that equal siblings are kept apart.
The ways down, up and sideways are computed apart: by a stack loop over the children, by following
the parents, and by looking for the element among its siblings.

Every number of an element stands for one place and every place has one number (`Tree.Stands`,
`Tree.stands_biUnique`). Each of the loops lists the numbers of what the place has there, so that
what holds between places holds between numbers.
-/

namespace HtmlNesting

/-! ## Numbers and places -/

namespace Place

variable {parent child : Place} {index : Nat}

theorem ancestors_of_childAt? (found : parent.childAt? index = some (.element child)) :
    child.ancestors = parent :: parent.ancestors :=
  ancestors_of_mem_elementChildren (mem_elementChildren.mpr ⟨index, found⟩)

theorem length_before_of_childAt? (found : parent.childAt? index = some (.element child)) :
    child.before.length = index := by
  obtain ⟨atIndex, before, _⟩ := childAt?_eq_some_iff.mp found
  obtain ⟨inRange, _⟩ := List.getElem?_eq_some_iff.mp atIndex
  rw [before, List.length_take_of_le (Nat.le_of_lt inRange)]

end Place

namespace Tree

theorem length_before_of_rootAt? {tree : Tree} {place : Place} {index : Nat}
    (found : tree.rootAt? index = some (.element place)) : place.before.length = index := by
  obtain ⟨atIndex, before, _⟩ := rootAt?_eq_some_iff.mp found
  obtain ⟨inRange, _⟩ := List.getElem?_eq_some_iff.mp atIndex
  rw [before, List.length_take_of_le (Nat.le_of_lt inRange)]

/-- The number of an element stands for its place: the indices that lead to the one lead to the
other. -/
inductive Stands (tree : Tree) : Nat → Place → Prop where
  | root {index number : Nat} {place : Place} (listed : tree.linked.top[index]? = some number)
      (found : tree.rootAt? index = some (.element place)) : Stands tree number place
  | child {outer index number : Nat} {parent place : Place} (around : Stands tree outer parent)
      (listed : (tree.linked.children outer)[index]? = some number)
      (found : parent.childAt? index = some (.element place)) : Stands tree number place

variable {tree : Tree} {number outer : Nat} {place parent : Place}

theorem Stands.holds (stands : tree.Stands number place) : tree.Holds place := by
  induction stands with
  | root _ found => exact .root found
  | child _ _ found held => exact .child held found

end Tree

/-- Related lists have related items at an index. -/
theorem getElem?_of_forall₂ {α β : Type} {related : α → β → Prop} {first : List α}
    {second : List β} (lists : List.Forall₂ related first second) {index : Nat} {item : α}
    {image : β} (found : first[index]? = some item) (imageFound : second[index]? = some image) :
    related item image := by
  obtain ⟨inRange, rfl⟩ := List.getElem?_eq_some_iff.mp found
  obtain ⟨imageInRange, rfl⟩ := List.getElem?_eq_some_iff.mp imageFound
  exact lists.get inRange imageInRange

theorem exists_getElem?_of_forall₂ {α β : Type} {related : α → β → Prop} {first : List α}
    {second : List β} (lists : List.Forall₂ related first second) {item : α}
    (member : item ∈ first) :
    ∃ (index : Nat) (image : β), first[index]? = some item ∧ second[index]? = some image ∧
      related item image := by
  obtain ⟨index, found⟩ := List.mem_iff_getElem?.mp member
  obtain ⟨inRange, _⟩ := List.getElem?_eq_some_iff.mp found
  rw [lists.length_eq] at inRange
  have imageFound := List.getElem?_eq_getElem inRange
  exact ⟨index, second[index], found, imageFound, getElem?_of_forall₂ lists found imageFound⟩

/-- In an increasing list a number has one index. -/
theorem index_unique {numbers : List Nat} (increasing : numbers.Pairwise (· < ·))
    {number first second : Nat} (found : numbers[first]? = some number)
    (again : numbers[second]? = some number) : first = second := by
  obtain ⟨inRange, _⟩ := List.getElem?_eq_some_iff.mp found
  exact (List.getElem?_inj inRange increasing.nodup).mp (found.trans again.symm)

theorem Matches.children_text {arena : Arena} {number : Nat} {data : String} {position : Position}
    (matched : Matches arena number (.text data position)) : arena.children number = [] := by
  match matched with
  | .text found _ childless =>
    rw [Arena.children, found, Option.map_some, childless, Option.getD_some]

/-- What stands for an element has children that stand for its children. -/
theorem Matches.inside {arena : Arena} {number : Nat} {place : Place}
    (matched : Matches arena number place.node) :
    (arena.children number).Pairwise (· < ·) ∧
      MatchesInside arena number (arena.children number) place.children := by
  match matched with
  | .element found _ increasing inside =>
    rw [Arena.children, found]
    exact ⟨increasing, inside⟩

namespace Tree

variable {tree : Tree} {number outer : Nat} {place parent : Place}

theorem Stands.matches (stands : tree.Stands number place) :
    Matches tree.linked.toArena number place.node := by
  induction stands with
  | root listed found =>
    exact getElem?_of_forall₂ tree.links_linked.matched listed (rootAt?_eq_some_iff.mp found).1
  | child _ listed found ih =>
    exact getElem?_of_forall₂ ih.inside.2.forall₂ listed (Place.childAt?_eq_some_iff.mp found).1

/-- A child has the element as its parent. -/
theorem Stands.parent?_of_mem (around : tree.Stands outer parent)
    (member : number ∈ tree.linked.children outer) : tree.linked.parent? number = some outer :=
  around.matches.inside.2.parent? number member

/-- A top-level node has no parent. -/
theorem parent?_top {index : Nat} (listed : tree.linked.top[index]? = some number) :
    tree.linked.parent? number = none :=
  tree.links_linked.parentless number (List.mem_of_getElem? listed)

/-- Every place has a number. -/
theorem exists_stands (held : tree.Holds place) : ∃ number, tree.Stands number place := by
  induction held with
  | @root index place found =>
    obtain ⟨inRange, _⟩ := List.getElem?_eq_some_iff.mp (rootAt?_eq_some_iff.mp found).1
    rw [← tree.links_linked.matched.length_eq] at inRange
    exact ⟨_, .root (List.getElem?_eq_getElem inRange) found⟩
  | @child parent place index _ found ih =>
    obtain ⟨outer, around⟩ := ih
    obtain ⟨inRange, _⟩ := List.getElem?_eq_some_iff.mp (Place.childAt?_eq_some_iff.mp found).1
    rw [← around.matches.inside.2.forall₂.length_eq] at inRange
    exact ⟨_, .child around (List.getElem?_eq_getElem inRange) found⟩

/-- Every number stands for a node, and the number of an element for a place. Parents have larger
numbers, so this is told from the last number downwards. -/
theorem exists_node (tree : Tree) {number : Nat} (inRange : number < tree.linked.nodes.length) :
    ∃ node, Matches tree.linked.toArena number node ∧
      ∀ start children, node = .element start children → ∃ place, tree.Stands number place := by
  by_cases isTop : number ∈ tree.linked.top
  · obtain ⟨index, node, listed, found, matched⟩ :=
      exists_getElem?_of_forall₂ tree.links_linked.matched isTop
    refine ⟨node, matched, ?_⟩
    rintro start children rfl
    let place : Place :=
      { start, children, above := []
        before := tree.nodes.take index, after := tree.nodes.drop (index + 1) }
    exact ⟨place, .root listed (rootAt?_eq_some_iff.mpr ⟨found, rfl, rfl, rfl⟩)⟩
  · obtain ⟨outer, _, above, outerInRange, member⟩ :=
      tree.links_linked.inside number inRange isTop
    obtain ⟨node, matched, ofElement⟩ := tree.exists_node outerInRange
    cases node with
    | text data position =>
      rw [matched.children_text] at member
      cases member
    | element start children =>
      obtain ⟨parent, around⟩ := ofElement start children rfl
      obtain ⟨index, node, listed, found, matched⟩ :=
        exists_getElem?_of_forall₂ around.matches.inside.2.forall₂ member
      refine ⟨node, matched, ?_⟩
      rintro start children rfl
      let place : Place :=
        { start, children, above := parent.levels
          before := parent.children.take index, after := parent.children.drop (index + 1) }
      exact ⟨place, .child around listed
        (Place.childAt?_eq_some_iff.mpr ⟨found, rfl, rfl, rfl⟩)⟩
termination_by tree.linked.nodes.length - number

/-- The numbers that stand for places are those of the elements. -/
theorem isElement_iff : tree.linked.isElement number = true ↔ ∃ place, tree.Stands number place := by
  constructor
  · intro isElement
    have inRange : number < tree.linked.nodes.length := by
      by_contra outside
      rw [Arena.isElement, Arena.start?, List.getElem?_eq_none (by omega)] at isElement
      cases isElement
    obtain ⟨node, matched, ofElement⟩ := tree.exists_node inRange
    rw [matched.isElement] at isElement
    cases node with
    | text data position => cases isElement
    | element start children => exact ofElement start children rfl
  · rintro ⟨place, stands⟩
    rw [stands.matches.isElement]
    rfl

/-- A number stands for one place: the parents of a number lead to the same top-level node. -/
theorem Stands.place_unique {other : Place} (stands : tree.Stands number place)
    (again : tree.Stands number other) : place = other := by
  induction stands generalizing other with
  | root listed found =>
    cases again with
    | root againListed againFound =>
      rw [index_unique tree.links_linked.increasing listed againListed, againFound] at found
      cases found
      rfl
    | child around againListed _ =>
      have linked := around.parent?_of_mem (List.mem_of_getElem? againListed)
      rw [parent?_top listed] at linked
      cases linked
  | child around listed found ih =>
    have linked := around.parent?_of_mem (List.mem_of_getElem? listed)
    cases again with
    | root againListed _ =>
      rw [parent?_top againListed] at linked
      cases linked
    | child againAround againListed againFound =>
      rw [againAround.parent?_of_mem (List.mem_of_getElem? againListed)] at linked
      cases linked
      cases ih againAround
      rw [index_unique around.matches.inside.1 listed againListed, againFound] at found
      cases found
      rfl

/-- A place has one number: what is around it and before it tells the way there. -/
theorem Stands.number_unique {other : Nat} (stands : tree.Stands number place)
    (again : tree.Stands other place) : number = other := by
  induction stands generalizing other with
  | root listed found =>
    cases again with
    | root againListed againFound =>
      rw [← length_before_of_rootAt? found, length_before_of_rootAt? againFound,
        againListed] at listed
      cases listed
      rfl
    | child _ _ againFound =>
      have around := Place.ancestors_of_childAt? againFound
      rw [ancestors_of_rootAt? found] at around
      cases around
  | child _ listed found ih =>
    have around := Place.ancestors_of_childAt? found
    cases again with
    | root _ againFound =>
      rw [ancestors_of_rootAt? againFound] at around
      cases around
    | child againAround againListed againFound =>
      rw [Place.ancestors_of_childAt? againFound] at around
      cases around
      cases ih againAround
      rw [← Place.length_before_of_childAt? found, Place.length_before_of_childAt? againFound,
        againListed] at listed
      cases listed
      rfl

theorem stands_biUnique (tree : Tree) : Relator.BiUnique tree.Stands :=
  ⟨fun _ _ _ first second => first.number_unique second,
    fun _ _ _ first second => first.place_unique second⟩

/-! ## Going up -/

theorem Stands.lt_length (stands : tree.Stands number place) :
    number < tree.linked.nodes.length :=
  stands.matches.lt_length

/-- A parent has a larger number, and the node among its children. -/
theorem linked_of_parent? (linked : tree.linked.parent? number = some outer) :
    number < outer ∧ number ∈ tree.linked.children outer := by
  obtain ⟨node, found, _⟩ := Arena.parent?_eq_some_iff.mp linked
  obtain ⟨inRange, _⟩ := List.getElem?_eq_some_iff.mp found
  have notTop : number ∉ tree.linked.top := by
    intro isTop
    rw [tree.links_linked.parentless number isTop] at linked
    cases linked
  obtain ⟨_, sameLinked, above, _, listed⟩ := tree.links_linked.inside number inRange notTop
  rw [linked] at sameLinked
  cases sameLinked
  exact ⟨above, listed⟩

/-- Parents and children are linked both ways. -/
theorem parent?_iff : tree.linked.parent? number = some outer ↔
    number ∈ tree.linked.children outer := by
  refine ⟨fun linked => (linked_of_parent? linked).2, ?_⟩
  intro listed
  have inRange : outer < tree.linked.nodes.length := by
    by_contra outside
    rw [Arena.children, List.getElem?_eq_none (by omega)] at listed
    cases listed
  obtain ⟨node, matched, ofElement⟩ := tree.exists_node inRange
  cases node with
  | text data position =>
    rw [matched.children_text] at listed
    cases listed
  | element start children =>
    obtain ⟨parent, around⟩ := ofElement start children rfl
    exact around.parent?_of_mem listed

end Tree

namespace Arena

variable {arena : Arena} {number outer : Nat}

theorem upwards_none (arena : Arena) (steps : Nat) : arena.upwards steps none = [] := by
  cases steps <;> rfl

/-- Following the parents, every node is the parent of the one before. -/
theorem isChain_upwards (arena : Arena) (steps number : Nat) :
    List.IsChain (fun inner outer => arena.parent? inner = some outer)
      (number :: arena.upwards steps (arena.parent? number)) := by
  induction steps generalizing number with
  | zero => exact .singleton _
  | succ steps ih =>
    cases linked : arena.parent? number with
    | none => exact .singleton _
    | some outer => exact .cons_cons linked (ih outer)

end Arena

namespace Tree

variable {tree : Tree} {number outer : Nat} {place parent : Place}

/-- Following the parents lists the numbers of the enclosing elements. The numbers grow, so there
are steps enough. -/
theorem Stands.upwards (stands : tree.Stands number place) {steps : Nat}
    (enough : tree.linked.nodes.length ≤ number + steps) :
    List.Forall₂ tree.Stands (tree.linked.upwards steps (tree.linked.parent? number))
      place.ancestors := by
  induction stands generalizing steps with
  | root listed found =>
    rw [parent?_top listed, Arena.upwards_none, ancestors_of_rootAt? found]
    exact .nil
  | @child outer index number parent place around listed found ih =>
    have stands : tree.Stands number place := .child around listed found
    have linked := around.parent?_of_mem (List.mem_of_getElem? listed)
    have above := (linked_of_parent? linked).1
    have inRange := stands.lt_length
    rw [linked, Place.ancestors_of_childAt? found]
    obtain ⟨fewer, rfl⟩ : ∃ fewer, steps = fewer + 1 := ⟨steps - 1, by omega⟩
    exact .cons around (ih (by omega))

theorem Stands.ancestors (stands : tree.Stands number place) :
    List.Forall₂ tree.Stands (tree.linked.ancestors number) place.ancestors :=
  stands.upwards (Nat.le_add_left _ _)

/-- Going up leads to larger numbers. -/
theorem ancestors_increasing (tree : Tree) (number : Nat) :
    (number :: tree.linked.ancestors number).Pairwise (· < ·) := by
  rw [← List.isChain_iff_pairwise]
  exact (tree.linked.isChain_upwards _ number).imp fun _ _ linked => (linked_of_parent? linked).1

/-- Going up ends at a top-level node. -/
theorem Stands.ends (stands : tree.Stands number place) :
    ∃ root ∈ tree.linked.top,
      (number :: tree.linked.ancestors number).getLast? = some root := by
  induction stands with
  | @root index number place listed found =>
    have none : tree.linked.ancestors number = [] := by
      rw [Arena.ancestors, parent?_top listed, Arena.upwards_none]
    exact ⟨number, List.mem_of_getElem? listed, by rw [none, List.getLast?_singleton]⟩
  | @child outer index number parent place around listed found ih =>
    have stands : tree.Stands number place := .child around listed found
    have step : tree.linked.ancestors number = outer :: tree.linked.ancestors outer := by
      refine List.left_unique_forall₂' tree.stands_biUnique.1 stands.ancestors ?_
      rw [Place.ancestors_of_childAt? found]
      exact .cons around around.ancestors
    rwa [step, List.getLast?_cons_cons]

/-! ## Going down -/

end Tree

/-- The elements among numbers are related to those among the nodes they stand for, if the ones at
every index are. -/
theorem forall₂_siblingPlaces {arena : Arena} {related : Nat → Place → Prop} {above : List Level}
    {numbers : List Nat} {nodes : List Node} (matched : List.Forall₂ (Matches arena) numbers nodes)
    (before : List Node)
    (each : ∀ (index number : Nat) (place : Place), numbers[index]? = some number →
      nodes[index]? = some place.node → place.before = before ++ nodes.take index →
        place.after = nodes.drop (index + 1) → place.above = above → related number place) :
    List.Forall₂ related (numbers.filter arena.isElement)
      (Place.siblingPlaces above before nodes) := by
  induction matched generalizing before with
  | nil => exact .nil
  | @cons number node numbers nodes first rest ih =>
    have later := ih (before ++ [node]) fun index number place listed found passed =>
      each (index + 1) number place listed found (by rw [passed]; simp)
    cases node with
    | text data position =>
      rwa [List.filter_cons_of_neg (by simp [first.isElement, Node.start?]), Place.siblingPlaces]
    | element start children =>
      rw [List.filter_cons_of_pos (by simp [first.isElement, Node.start?]), Place.siblingPlaces]
      exact .cons (each 0 number _ rfl rfl (by simp) rfl rfl) later

namespace Tree

variable {tree : Tree} {number : Nat} {place : Place}

/-- The element children of a number are the numbers of the element children. -/
theorem Stands.elementChildren (stands : tree.Stands number place) :
    List.Forall₂ tree.Stands (tree.linked.elementChildren number) place.elementChildren := by
  refine forall₂_siblingPlaces stands.matches.inside.2.forall₂ [] ?_
  intro index number child listed found before after above
  exact .child stands listed (Place.childAt?_eq_some_iff.mpr ⟨found, before, after, above⟩)

theorem stands_roots (tree : Tree) :
    List.Forall₂ tree.Stands (tree.linked.top.filter tree.linked.isElement) tree.roots := by
  refine forall₂_siblingPlaces tree.links_linked.matched [] ?_
  intro index number root listed found before after above
  exact .root listed (rootAt?_eq_some_iff.mpr ⟨found, before, after, above⟩)

/-- A run of the loop over numbers lists the numbers of the places that the loop over places lists,
if it takes as many steps. -/
theorem stands_visit {stack : List Place} {numbers : List Nat}
    (waiting : List.Forall₂ tree.Stands numbers stack) {steps : Nat}
    (enough : (visit stack).length ≤ steps) :
    List.Forall₂ tree.Stands (tree.linked.visit steps numbers) (visit stack) := by
  induction stack using visit.induct generalizing numbers steps with
  | case1 =>
    cases waiting
    cases steps <;> simp [Arena.visit, visit]
  | case2 top stack ih =>
    cases waiting with
    | @cons number _ numbers _ stands rest =>
      rw [visit_cons] at enough ⊢
      rw [pushAll_reverse] at ih
      obtain ⟨fewer, rfl⟩ : ∃ fewer, steps = fewer + 1 := ⟨steps - 1, by simp at enough; omega⟩
      rw [Arena.visit, pushAll_reverse]
      refine .cons stands (ih (List.rel_append stands.elementChildren rest) ?_)
      simpa using enough

/-- There are as many numbers as there are places. -/
theorem length_le_of_nodup {places : List Place} (held : ∀ place ∈ places, tree.Holds place)
    (once : places.Nodup) : places.length ≤ tree.linked.nodes.length := by
  choose! numberOf stands using fun (place : Place) (held : tree.Holds place) => exists_stands held
  have numbers : List.Forall₂ tree.Stands (places.map numberOf) places :=
    List.forall₂_map_left_iff.mpr
      (List.forall₂_same.mpr fun place member => stands place (held place member))
  have numbersOnce := (List.rel_nodup tree.stands_biUnique numbers).mpr once
  have inRange : places.map numberOf ⊆ List.range tree.linked.nodes.length := by
    intro number member
    obtain ⟨place, listed, rfl⟩ := List.mem_map.mp member
    exact List.mem_range.mpr (stands place (held place listed)).lt_length
  simpa using (numbersOnce.subperm inRange).length_le

theorem Stands.descendants (stands : tree.Stands number place) :
    List.Forall₂ tree.Stands (tree.linked.descendants number) place.descendants := by
  have enough := length_le_of_nodup (fun inner inside => stands.holds.of_mem_descendants inside)
    place.nodup_descendants
  rw [Arena.descendants, Place.descendants, pushAll_reverse, pushAll_reverse, List.append_nil,
    List.append_nil]
  rw [Place.descendants, pushAll_reverse, List.append_nil] at enough
  exact stands_visit stands.elementChildren enough

/-- The walk over numbers lists the numbers of the walk over places. -/
theorem stands_walk (tree : Tree) : List.Forall₂ tree.Stands tree.linked.walk tree.walk :=
  List.rel_flatMap tree.stands_roots fun _ _ root => .cons root root.descendants

end Tree

/-- Inside an element are its element children, each followed by what is inside it. -/
theorem Place.descendants_eq_flatMap (place : Place) :
    place.descendants = place.elementChildren.flatMap fun child => child :: child.descendants := by
  rw [descendants, pushAll_reverse, List.append_nil]
  induction place.elementChildren with
  | nil => simp [visit]
  | cons child rest ih =>
    rw [visit_cons, visit_append, ih, List.flatMap_cons, List.cons_append, descendants,
      pushAll_reverse, List.append_nil]

/-! ## Going sideways -/

namespace Arena

variable {number index : Nat} {numbers : List Nat}

theorem before_append {earlier : List Nat} (fresh : number ∉ earlier)
    (passed later : List Nat) :
    before number passed (earlier ++ number :: later) = passed ++ earlier := by
  induction earlier generalizing passed with
  | nil => simp [before]
  | cons first earlier ih =>
    rw [List.mem_cons, not_or] at fresh
    rw [List.cons_append, before, if_neg (Ne.symm fresh.1), ih fresh.2, List.append_assoc,
      List.singleton_append]

theorem after_append {earlier : List Nat} (fresh : number ∉ earlier) (later : List Nat) :
    after number (earlier ++ number :: later) = later := by
  induction earlier with
  | nil => simp [after]
  | cons first earlier ih =>
    rw [List.mem_cons, not_or] at fresh
    rw [List.cons_append, after, if_neg (Ne.symm fresh.1), ih fresh.2]

/-- A number of an increasing list is not among those before it. -/
theorem split_at (increasing : numbers.Pairwise (· < ·)) (listed : numbers[index]? = some number) :
    numbers = numbers.take index ++ number :: numbers.drop (index + 1) ∧
      number ∉ numbers.take index := by
  obtain ⟨inRange, rfl⟩ := List.getElem?_eq_some_iff.mp listed
  have split : numbers = numbers.take index ++ numbers[index] :: numbers.drop (index + 1) := by
    rw [List.getElem_cons_drop, List.take_append_drop]
  refine ⟨split, ?_⟩
  intro earlier
  rw [split, List.pairwise_append] at increasing
  exact Nat.lt_irrefl _ (increasing.2.2 _ earlier _ List.mem_cons_self)

end Arena

/-- The nodes that a node stands among: the children of its parent, or the top-level nodes. An
element on its own is the only top-level node. -/
def LinkedTree.siblingList (linked : LinkedTree) (number : Nat) : List Nat :=
  ((linked.parent? number).map linked.children).getD linked.top

namespace Tree

variable {tree : Tree} {number : Nat} {place : Place}

/-- The siblings of an element before it and after it stand for those of its place. -/
structure Beside (tree : Tree) (number : Nat) (place : Place) : Prop where
  split : tree.linked.previousSiblings number ++ number :: tree.linked.nextSiblings number =
    tree.linked.siblingList number
  previous : List.Forall₂ (Matches tree.linked.toArena) (tree.linked.previousSiblings number)
    place.before
  next : List.Forall₂ (Matches tree.linked.toArena) (tree.linked.nextSiblings number) place.after

/-- An element that is found among the nodes it stands among is beside the others. -/
theorem beside_of_siblings {nodes : List Node} {index : Nat}
    (matched : List.Forall₂ (Matches tree.linked.toArena) (tree.linked.siblingList number) nodes)
    (increasing : (tree.linked.siblingList number).Pairwise (· < ·))
    (listed : (tree.linked.siblingList number)[index]? = some number)
    (before : place.before = nodes.take index) (after : place.after = nodes.drop (index + 1))
    (siblings : tree.linked.siblings number = tree.linked.siblingList number) :
    tree.Beside number place := by
  obtain ⟨split, fresh⟩ := Arena.split_at increasing listed
  have previous : tree.linked.previousSiblings number =
      (tree.linked.siblingList number).take index := by
    rw [Arena.previousSiblings, siblings]
    conv => lhs; rw [split]
    rw [Arena.before_append fresh, List.nil_append]
  have next : tree.linked.nextSiblings number =
      (tree.linked.siblingList number).drop (index + 1) := by
    rw [Arena.nextSiblings, siblings]
    conv => lhs; rw [split]
    rw [Arena.after_append fresh]
  refine ⟨by rw [previous, next, ← split], ?_, ?_⟩
  · rw [previous, before]
    exact List.forall₂_take index matched
  · rw [next, after]
    exact List.forall₂_drop (index + 1) matched

theorem siblingList_top (isTop : number ∈ tree.linked.top) :
    tree.linked.siblingList number = tree.linked.top := by
  rw [LinkedTree.siblingList, tree.links_linked.parentless number isTop]
  rfl

theorem top_detached {start : StartTag} {children : List Node}
    (isTop : number ∈ (detached start children).linked.top) :
    (detached start children).linked.top = [number] := by
  rw [List.mem_singleton.mp isTop]
  rfl

theorem siblingList_detached {start : StartTag} {children : List Node}
    (inRange : number < (detached start children).linked.nodes.length)
    (parentless : (detached start children).linked.parent? number = none) :
    (detached start children).linked.siblingList number = [number] := by
  by_cases isTop : number ∈ (detached start children).linked.top
  · rw [siblingList_top isTop, top_detached isTop]
  · obtain ⟨outer, linked, _⟩ := (detached start children).links_linked.inside number inRange isTop
    rw [parentless] at linked
    cases linked

/-- An element on its own is looked for among no nodes, and so it has none before it or after it. -/
theorem siblings_detached {start : StartTag} {children : List Node}
    (isTop : number ∈ (detached start children).linked.top) :
    (detached start children).linked.siblings number = [] := by
  rw [Arena.siblings, (detached start children).links_linked.parentless number isTop]
  exact rootSiblings_detached start children number

theorem siblings_document {nodes : List Node} (isTop : number ∈ (document nodes).linked.top)
    (isElement : (document nodes).linked.isElement number = true) :
    (document nodes).linked.siblings number = (document nodes).linked.siblingList number := by
  rw [siblingList_top isTop, Arena.siblings, (document nodes).links_linked.parentless number isTop]
  exact rootSiblings_document isTop isElement

/-- An element on its own has an empty list on both sides. -/
theorem beside_detached {start : StartTag} {children : List Node} {index : Nat}
    (listed : (detached start children).linked.top[index]? = some number)
    (before : place.before = (detached start children).nodes.take index)
    (after : place.after = (detached start children).nodes.drop (index + 1)) :
    (detached start children).Beside number place := by
  have isTop := List.mem_of_getElem? listed
  have first : index = 0 := by
    rw [top_detached isTop, List.getElem?_singleton] at listed
    by_contra notFirst
    rw [if_neg notFirst] at listed
    cases listed
  subst first
  refine ⟨?_, ?_, ?_⟩
  · rw [siblingList_top isTop, top_detached isTop, Arena.previousSiblings, Arena.nextSiblings,
      siblings_detached isTop]
    rfl
  · rw [Arena.previousSiblings, siblings_detached isTop, before]
    exact .nil
  · rw [Arena.nextSiblings, siblings_detached isTop, after]
    exact .nil

theorem Stands.beside (stands : tree.Stands number place) : tree.Beside number place := by
  have isElement := isElement_iff.mpr ⟨place, stands⟩
  cases stands with
  | @root index _ _ listed found =>
    have isTop := List.mem_of_getElem? listed
    obtain ⟨_, before, after, _⟩ := rootAt?_eq_some_iff.mp found
    cases tree with
    | document nodes =>
      have list := siblingList_top isTop
      rw [← list] at listed
      refine beside_of_siblings ?_ ?_ listed before after (siblings_document isTop isElement)
      · rw [list]
        exact (document nodes).links_linked.matched
      · rw [list]
        exact (document nodes).links_linked.increasing
    | detached start children => exact beside_detached listed before after
  | @child outer index _ parent _ around listed found =>
    have linked := around.parent?_of_mem (List.mem_of_getElem? listed)
    obtain ⟨_, before, after, _⟩ := Place.childAt?_eq_some_iff.mp found
    have list : tree.linked.siblingList number = tree.linked.children outer := by
      rw [LinkedTree.siblingList, linked]
      rfl
    have siblings : tree.linked.siblings number = tree.linked.siblingList number := by
      rw [list, Arena.siblings, linked]
    rw [← list] at listed
    refine beside_of_siblings ?_ ?_ listed before after siblings
    · rw [list]
      exact around.matches.inside.2.forall₂
    · rw [list]
      exact around.matches.inside.1

/-! ## Coherence -/

/-- An element occurs among those inside another as often as that one occurs among those around it,
and no more than once. -/
theorem Stands.count_descendants {other : Nat} {otherPlace : Place}
    (stands : tree.Stands number place) (otherStands : tree.Stands other otherPlace) :
    (tree.linked.descendants number).count other = (tree.linked.ancestors other).count number ∧
      (tree.linked.descendants number).count other ≤ 1 := by
  have unique := tree.stands_biUnique
  have inside : other ∈ tree.linked.descendants number ↔ number ∈ tree.linked.ancestors other :=
    calc other ∈ tree.linked.descendants number
      _ ↔ otherPlace ∈ place.descendants := List.rel_mem unique otherStands stands.descendants
      _ ↔ place ∈ otherPlace.ancestors := Place.mem_descendants_iff
      _ ↔ number ∈ tree.linked.ancestors other :=
        (List.rel_mem unique stands otherStands.ancestors).symm
  have insideOnce : (tree.linked.descendants number).Nodup :=
    (List.rel_nodup unique stands.descendants).mpr place.nodup_descendants
  have aroundOnce : (tree.linked.ancestors other).Nodup :=
    (List.pairwise_cons.mp (tree.ancestors_increasing other)).2.nodup
  by_cases around : number ∈ tree.linked.ancestors other
  · rw [List.count_eq_one_of_mem aroundOnce around,
      List.count_eq_one_of_mem insideOnce (inside.mpr around)]
    exact ⟨rfl, Nat.le_refl 1⟩
  · rw [List.count_eq_zero.mpr around, List.count_eq_zero.mpr (mt inside.mp around)]
    exact ⟨rfl, Nat.zero_le 1⟩

theorem Stands.descendants_eq_flatMap (stands : tree.Stands number place) :
    tree.linked.descendants number = (tree.linked.elementChildren number).flatMap
      fun child => child :: tree.linked.descendants child := by
  refine List.left_unique_forall₂' tree.stands_biUnique.1 stands.descendants ?_
  rw [place.descendants_eq_flatMap]
  exact List.rel_flatMap stands.elementChildren fun _ _ child => .cons child child.descendants

/-- Moving about in a tree is coherent. The nodes are told by their numbers; each element has one,
which stands for the place of that element.

A node is a child of the element that is its parent, and of no other. An element occurs among those
inside another as often as that one occurs among those around it, and no more than once. What is
inside an element is listed in document order: its element children, each followed by what is inside
it. What is around an element is listed from its parent to a top-level node without a parent, each
one the parent of the one before. The siblings before an element, the element itself and those after
it are the children of its parent, or the top-level nodes of the document, or just an element on its
own. And all of these lists stand for what the place of the element has there. -/
theorem navigation_coherent (tree : Tree) :
    List.Forall₂ (Matches tree.linked.toArena) tree.linked.top tree.nodes ∧
    (∀ place, tree.Holds place →
      ∃ number, tree.linked.isElement number = true ∧ tree.Stands number place) ∧
    Relator.BiUnique tree.Stands ∧
    (∀ inner outer, tree.linked.parent? inner = some outer ↔ inner ∈ tree.linked.children outer) ∧
    ∀ number, tree.linked.isElement number = true →
      (∀ other, tree.linked.isElement other = true →
        (tree.linked.descendants number).count other =
            (tree.linked.ancestors other).count number ∧
          (tree.linked.descendants number).count other ≤ 1) ∧
      tree.linked.descendants number = (tree.linked.elementChildren number).flatMap
        (fun child => child :: tree.linked.descendants child) ∧
      List.IsChain (fun inner outer => tree.linked.parent? inner = some outer)
        (number :: tree.linked.ancestors number) ∧
      (∃ root ∈ tree.linked.top, tree.linked.parent? root = none ∧
        (number :: tree.linked.ancestors number).getLast? = some root) ∧
      tree.linked.previousSiblings number ++ number :: tree.linked.nextSiblings number =
        tree.linked.siblingList number ∧
      (∀ start children, tree = .detached start children → tree.linked.parent? number = none →
        tree.linked.siblingList number = [number]) ∧
      ∃ place, tree.Stands number place ∧
        List.Forall₂ tree.Stands (tree.linked.descendants number) place.descendants ∧
        List.Forall₂ tree.Stands (tree.linked.ancestors number) place.ancestors ∧
        List.Forall₂ (Matches tree.linked.toArena) (tree.linked.previousSiblings number)
          place.before ∧
        List.Forall₂ (Matches tree.linked.toArena) (tree.linked.nextSiblings number)
          place.after := by
  refine ⟨tree.links_linked.matched, ?_, tree.stands_biUnique, fun _ _ => parent?_iff, ?_⟩
  · intro place held
    obtain ⟨number, stands⟩ := exists_stands held
    exact ⟨number, isElement_iff.mpr ⟨place, stands⟩, stands⟩
  · intro number isElement
    obtain ⟨place, stands⟩ := isElement_iff.mp isElement
    obtain ⟨root, isTop, last⟩ := stands.ends
    refine ⟨?_, stands.descendants_eq_flatMap, tree.linked.isChain_upwards _ number,
      ⟨root, isTop, tree.links_linked.parentless root isTop, last⟩, stands.beside.split, ?_,
      place, stands, stands.descendants, stands.ancestors, stands.beside.previous,
      stands.beside.next⟩
    · intro other otherElement
      obtain ⟨otherPlace, otherStands⟩ := isElement_iff.mp otherElement
      exact stands.count_descendants otherStands
    · rintro start children rfl parentless
      exact siblingList_detached stands.lt_length parentless

end Tree

/-- A document with a list of two items that are written alike, at one and the same position. -/
def twinItems : Tree :=
  .document [.text "\n" {},
    .element (.named "ul") [.element (.named "li") [], .element (.named "li") []]]

theorem navigation_coherent_twinItems :
    twinItems.linked.isElement 3 = true ∧ twinItems.linked.isElement 2 = true ∧
    (twinItems.linked.descendants 3).count 2 = 1 ∧
    twinItems.linked.descendants 3 = [1, 2] ∧
    twinItems.linked.previousSiblings 2 ++ 2 :: twinItems.linked.nextSiblings 2 =
      twinItems.linked.children 3 ∧
    twinItems.linked.previousSiblings 2 = [1] := by
  have list : twinItems.linked.isElement 3 = true := by decide
  have second : twinItems.linked.isElement 2 = true := by decide
  obtain ⟨-, -, -, -, coherent⟩ := twinItems.navigation_coherent
  obtain ⟨inside, -⟩ := coherent 3 list
  obtain ⟨-, -, -, -, siblings, -⟩ := coherent 2 second
  refine ⟨list, second, ?_, by decide, siblings, by decide⟩
  rw [(inside 2 second).1]
  decide

end HtmlNesting
