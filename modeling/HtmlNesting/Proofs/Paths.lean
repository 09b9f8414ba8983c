import HtmlNesting.Proofs.Spacing

/-!
# Paths

An element of a tree is reached by a path of indices, texts counted: the first one picks a top-level
node, each further one a child. The path can be read off the place of the element
(`Tree.holds_iff_at?`), so there is one for each element.

`Tree.replaceChildren` gives the element at a path other children. At every path that does not lead
to that element or into it there is an element after the replacement exactly if there was one
before. The two are related by `Counterpart`: context rules cannot tell them apart, and their
children are the same unless the path leads on to the element whose children are replaced.
-/

namespace HtmlNesting

/-! ## Following a path -/

/-- The element at an index among some nodes, below some levels. -/
def elementAt? (above : List Level) (nodes : List Node) (index : Nat) : Option Place :=
  match nodes[index]? with
  | some (.element start children) =>
    some { start, before := nodes.take index, after := nodes.drop (index + 1), children, above }
  | _ => none

/-- The element that a path leads to from an element. -/
def Place.at? : List Nat → Place → Option Place
  | [], place => some place
  | index :: path, place => (elementAt? place.levels place.children index).bind (Place.at? path)

/-- The element that a path leads to from the top level. -/
def Tree.at? (tree : Tree) : List Nat → Option Place
  | [] => none
  | index :: path => (elementAt? [] tree.nodes index).bind (Place.at? path)

/-- The path that leads to an element from the top level. -/
def Place.path (place : Place) : List Nat :=
  (place.levels.map fun level => level.before.length).reverse

theorem elementAt?_eq_some_iff {above : List Level} {nodes : List Node} {index : Nat}
    {place : Place} :
    elementAt? above nodes index = some place ↔
      nodes[index]? = some place.node ∧ place.before = nodes.take index ∧
        place.after = nodes.drop (index + 1) ∧ place.above = above := by
  obtain ⟨⟨start, before, after⟩, children, placeAbove⟩ := place
  cases found : nodes[index]? with
  | none => simp [elementAt?, found]
  | some node =>
    cases node with
    | text data position => simp [elementAt?, found, Place.node]
    | element start children =>
      simp only [elementAt?, found, Place.node, Option.some.injEq, Node.element.injEq,
        Place.mk.injEq, Level.mk.injEq]
      grind

/-- The element siblings among some nodes are the elements at their indices. -/
theorem mem_siblingPlaces_iff_elementAt? {above : List Level} {nodes : List Node} {place : Place} :
    place ∈ Place.siblingPlaces above [] nodes ↔
      ∃ index, elementAt? above nodes index = some place := by
  rw [Place.mem_siblingPlaces]
  exact exists_congr fun index => by rw [elementAt?_eq_some_iff, List.nil_append]

/-- An element stands behind as many siblings as its index says. -/
theorem length_before_of_elementAt? {above : List Level} {nodes : List Node} {index : Nat}
    {place : Place} (found : elementAt? above nodes index = some place) :
    place.before.length = index := by
  obtain ⟨atIndex, before, _, _⟩ := elementAt?_eq_some_iff.mp found
  obtain ⟨inRange, _⟩ := List.getElem?_eq_some_iff.mp atIndex
  rw [before, List.length_take]
  omega

/-- An element stands between its siblings. -/
theorem nodes_of_elementAt? {above : List Level} {nodes : List Node} {index : Nat} {place : Place}
    (found : elementAt? above nodes index = some place) :
    nodes = place.before ++ .element place.start place.children :: place.after := by
  obtain ⟨atIndex, before, after, _⟩ := elementAt?_eq_some_iff.mp found
  obtain ⟨inRange, node⟩ := List.getElem?_eq_some_iff.mp atIndex
  calc nodes = nodes.take index ++ nodes.drop index := (List.take_append_drop index nodes).symm
    _ = nodes.take index ++ place.node :: nodes.drop (index + 1) := by
      rw [List.drop_eq_getElem_cons inRange, node]
    _ = place.before ++ place.node :: place.after := by rw [before, after]

namespace Place

variable {place inner : Place} {path further : List Nat}

theorem at?_append (place : Place) (path further : List Nat) :
    place.at? (path ++ further) = (place.at? path).bind (Place.at? further) := by
  induction path generalizing place with
  | nil => rfl
  | cons index path ih =>
    rw [List.cons_append, at?, at?, Option.bind_assoc]
    exact congrArg _ (funext ih)

/-- The path to an element inside another leads on from the path to that one. -/
theorem path_of_at? (found : place.at? path = some inner) : inner.path = place.path ++ path := by
  induction path generalizing place with
  | nil =>
    cases found
    simp
  | cons index path ih =>
    obtain ⟨child, atIndex, further⟩ := Option.bind_eq_some_iff.mp found
    obtain ⟨_, _, _, above⟩ := elementAt?_eq_some_iff.mp atIndex
    have step : child.path = place.path ++ [index] := by
      rw [Place.path, levels, above, List.map_cons, length_before_of_elementAt? atIndex,
        List.reverse_cons]
      rfl
    rw [ih further, step, List.append_assoc, List.singleton_append]

/-- The elements inside an element are those that a path leads to. -/
theorem mem_descendants_iff_at? :
    inner ∈ place.descendants ↔ ∃ path, path ≠ [] ∧ place.at? path = some inner := by
  constructor
  · intro inside
    rw [descendants, pushAll_reverse, List.append_nil] at inside
    refine visit_invariant (fun other => ∃ path, path ≠ [] ∧ place.at? path = some other) ?_
      place.elementChildren ?_ inner inside
    · rintro parent ⟨path, _, found⟩ child isChild
      obtain ⟨index, atIndex⟩ := mem_siblingPlaces_iff_elementAt?.mp isChild
      refine ⟨path ++ [index], by simp, ?_⟩
      rw [at?_append, found, Option.bind_some, at?]
      exact Option.bind_eq_some_iff.mpr ⟨child, atIndex, rfl⟩
    · intro child isChild
      obtain ⟨index, atIndex⟩ := mem_siblingPlaces_iff_elementAt?.mp isChild
      exact ⟨[index], by simp, Option.bind_eq_some_iff.mpr ⟨child, atIndex, rfl⟩⟩
  · rintro ⟨path, leadsOn, found⟩
    induction path generalizing place with
    | nil => exact absurd rfl leadsOn
    | cons index path ih =>
      obtain ⟨child, atIndex, further⟩ := Option.bind_eq_some_iff.mp found
      have isChild : child ∈ place.elementChildren :=
        mem_siblingPlaces_iff_elementAt?.mpr ⟨index, atIndex⟩
      by_cases ends : path = []
      · subst ends
        cases further
        exact mem_descendants_of_child isChild
      · exact mem_descendants_trans isChild (ih ends further)

end Place

namespace Tree

variable {tree : Tree} {place other : Place} {path : List Nat}

theorem at?_append (tree : Tree) (index : Nat) (path further : List Nat) :
    tree.at? (index :: path ++ further) =
      (tree.at? (index :: path)).bind (Place.at? further) := by
  rw [List.cons_append, at?, at?, Option.bind_assoc]
  exact congrArg _ (funext fun root => root.at?_append path further)

/-- The path to an element can be read off its place. -/
theorem path_of_at? (found : tree.at? path = some place) : place.path = path := by
  cases path with
  | nil => cases found
  | cons index path =>
    obtain ⟨root, atIndex, further⟩ := Option.bind_eq_some_iff.mp found
    obtain ⟨_, _, _, above⟩ := elementAt?_eq_some_iff.mp atIndex
    rw [Place.path_of_at? further, Place.path, Place.levels, above, List.map_cons,
      length_before_of_elementAt? atIndex]
    rfl

/-- A path leads to an element that the tree holds. -/
theorem holds_of_at? (found : tree.at? path = some place) : tree.Holds place := by
  cases path with
  | nil => cases found
  | cons index path =>
    obtain ⟨root, atIndex, further⟩ := Option.bind_eq_some_iff.mp found
    obtain ⟨rootIndex, isRoot⟩ :=
      mem_roots.mp (mem_siblingPlaces_iff_elementAt?.mpr ⟨index, atIndex⟩)
    by_cases ends : path = []
    · subst ends
      cases further
      exact .root isRoot
    · have inside := Place.mem_descendants_iff_at?.mpr ⟨path, ends, further⟩
      exact (Holds.root isRoot).of_mem_descendants inside

/-- Some path leads to every element of a tree. -/
theorem exists_at?_of_holds (held : tree.Holds place) : ∃ path, tree.at? path = some place := by
  induction held with
  | root found =>
    obtain ⟨index, atIndex⟩ := mem_siblingPlaces_iff_elementAt?.mp (mem_roots.mpr ⟨_, found⟩)
    exact ⟨[index], Option.bind_eq_some_iff.mpr ⟨_, atIndex, rfl⟩⟩
  | child _ found ih =>
    obtain ⟨path, parentFound⟩ := ih
    obtain ⟨index, atIndex⟩ :=
      mem_siblingPlaces_iff_elementAt?.mp (Place.mem_elementChildren.mpr ⟨_, found⟩)
    cases path with
    | nil => cases parentFound
    | cons first path =>
      refine ⟨first :: path ++ [index], ?_⟩
      rw [at?_append, parentFound, Option.bind_some, Place.at?]
      exact Option.bind_eq_some_iff.mpr ⟨_, atIndex, rfl⟩

/-- A tree holds an element exactly if the path to it leads there. -/
theorem holds_iff_at? : tree.Holds place ↔ tree.at? place.path = some place := by
  constructor
  · intro held
    obtain ⟨path, found⟩ := exists_at?_of_holds held
    rw [path_of_at? found, found]
  · exact holds_of_at?

/-- The path to an element leads on to another exactly if that is the same element or inside it. -/
theorem path_leads_iff {outer inner : Place} (outerHeld : tree.Holds outer)
    (innerHeld : tree.Holds inner) :
    outer.path <+: inner.path ↔ inner = outer ∨ outer ∈ inner.ancestors := by
  rw [← Place.mem_descendants_iff]
  constructor
  · rintro ⟨further, joined⟩
    have outerFound := holds_iff_at?.mp outerHeld
    have innerFound := holds_iff_at?.mp innerHeld
    cases path : outer.path with
    | nil =>
      rw [path] at outerFound
      cases outerFound
    | cons index rest =>
      rw [← joined, path, at?_append, ← path, outerFound, Option.bind_some] at innerFound
      by_cases ends : further = []
      · subst ends
        exact .inl (Option.some.inj innerFound).symm
      · exact .inr (Place.mem_descendants_iff_at?.mpr ⟨further, ends, innerFound⟩)
  · rintro (rfl | inside)
    · exact List.prefix_rfl
    · obtain ⟨further, _, found⟩ := Place.mem_descendants_iff_at?.mp inside
      exact ⟨further, (Place.path_of_at? found).symm⟩

theorem not_path_leads {outer inner : Place} (outerHeld : tree.Holds outer)
    (innerHeld : tree.Holds inner) (different : inner ≠ outer)
    (notInside : outer ∉ inner.ancestors) : ¬ outer.path <+: inner.path := by
  intro leads
  exact ((path_leads_iff outerHeld innerHeld).mp leads).elim different notInside

end Tree

/-! ## Other children -/

/-- A node with its children changed, if it is an element. -/
def Node.mapChildren (change : List Node → List Node) : Node → Node
  | .text data position => .text data position
  | .element start children => .element start (change children)

/-- Some nodes with other children for the element that a path leads to; the empty path stands for
the nodes themselves. -/
def replaceAt (others : List Node) : List Nat → List Node → List Node
  | [], _ => others
  | index :: path, nodes => nodes.modify index (Node.mapChildren (replaceAt others path))

/-- A tree with other children for the element that a path leads to. -/
def Tree.replaceChildren (tree : Tree) (path : List Nat) (others : List Node) : Tree :=
  match tree, path with
  | .document nodes, index :: path => .document (replaceAt others (index :: path) nodes)
  | .detached start children, 0 :: path => .detached start (replaceAt others path children)
  | tree, _ => tree

theorem Tree.nodes_replaceChildren (tree : Tree) (index : Nat) (path : List Nat)
    (others : List Node) :
    (tree.replaceChildren (index :: path) others).nodes =
      replaceAt others (index :: path) tree.nodes := by
  cases tree with
  | document nodes => rfl
  | detached start children =>
    cases index with
    | zero => rfl
    | succ index => simp [replaceChildren, replaceAt, nodes]

/-- Changing the children of an element changes it where it stands. -/
theorem elementAt?_modify (above : List Level) (nodes : List Node) (index : Nat)
    (change : List Node → List Node) :
    elementAt? above (nodes.modify index (Node.mapChildren change)) index =
      (elementAt? above nodes index).map fun place =>
        { place with children := change place.children } := by
  have before : (nodes.modify index (Node.mapChildren change)).take index = nodes.take index := by
    rw [List.take_modify, List.modify_eq_self (List.length_take_le _ _)]
  have after : (nodes.modify index (Node.mapChildren change)).drop (index + 1) =
      nodes.drop (index + 1) := List.drop_modify_of_lt _ _ _ _ (by omega)
  rw [elementAt?, elementAt?, List.getElem?_modify_eq, before, after]
  cases nodes[index]? with
  | none => rfl
  | some node => cases node <;> rfl

/-- The element that a path leads to has the other children after the replacement, and all else is
around it as before. -/
theorem Place.at?_replaceAt {place spot : Place} {path : List Nat} (others : List Node)
    (found : place.at? path = some spot) :
    { place with children := replaceAt others path place.children }.at? path =
      some { spot with children := others } := by
  induction path generalizing place with
  | nil =>
    cases found
    rfl
  | cons index path ih =>
    obtain ⟨child, atIndex, further⟩ := Option.bind_eq_some_iff.mp found
    have levels :
        levels { place with children := replaceAt others (index :: path) place.children } =
          place.levels := rfl
    rw [at?, levels, replaceAt, elementAt?_modify, atIndex]
    exact ih further

theorem Tree.at?_replaceChildren {tree : Tree} {path : List Nat} {spot : Place}
    (others : List Node) (found : tree.at? path = some spot) :
    (tree.replaceChildren path others).at? path = some { spot with children := others } := by
  cases path with
  | nil => cases found
  | cons index path =>
    obtain ⟨root, atIndex, further⟩ := Option.bind_eq_some_iff.mp found
    rw [at?, nodes_replaceChildren, replaceAt, elementAt?_modify, atIndex]
    exact Place.at?_replaceAt others further

/-! ## Elements elsewhere -/

theorem Alike.refl (nodes : List Node) : Alike id nodes nodes :=
  (Respaced.refl nodes).alike

/-- Changing the children of one node leaves a list alike. -/
theorem alike_modify (nodes : List Node) (index : Nat) (change : List Node → List Node) :
    Alike id nodes (nodes.modify index (Node.mapChildren change)) := by
  induction nodes generalizing index with
  | nil =>
    rw [List.modify_nil]
    exact .nil
  | cons node rest ih =>
    cases index with
    | zero =>
      rw [List.modify_zero_cons]
      cases node with
      | text data position => exact .text (.refl rest)
      | element start children => exact .element (.refl rest)
    | succ index =>
      rw [List.modify_succ_cons]
      cases node with
      | text data position => exact .text (ih index)
      | element start children => exact .element (ih index)

/-- Outcomes that correspond lead on to outcomes that correspond. -/
theorem rel_bind {α β γ δ : Type} {related : α → β → Prop} {relatedNext : γ → δ → Prop}
    {first : Option α} {second : Option β} {next : α → Option γ} {otherNext : β → Option δ}
    (outcomes : Option.Rel related first second)
    (step : ∀ one other, related one other → Option.Rel relatedNext (next one) (otherNext other)) :
    Option.Rel relatedNext (first.bind next) (second.bind otherNext) := by
  cases outcomes with
  | some holds => exact step _ _ holds
  | none => exact .none

theorem rel_mono {α β : Type} {related weaker : α → β → Prop} {first : Option α}
    {second : Option β} (outcomes : Option.Rel related first second)
    (weaken : ∀ one other, related one other → weaker one other) :
    Option.Rel weaker first second := by
  cases outcomes with
  | some holds => exact .some (weaken _ _ holds)
  | none => exact .none

/-- An index picks elements with the same children from lists that are alike on both sides of it. -/
theorem elementAt?_rel {above others : List Level}
    (levels : above.map Level.start = others.map Level.start) {first second : List Node}
    {index : Nat} (same : second[index]? = first[index]?)
    (before : Alike id (first.take index) (second.take index))
    (after : Alike id (first.drop (index + 1)) (second.drop (index + 1))) :
    Option.Rel (fun place other => place.AlikeAround other ∧ other.children = place.children)
      (elementAt? above first index) (elementAt? others second index) := by
  rw [elementAt?, elementAt?, same]
  cases first[index]? with
  | none => exact .none
  | some node =>
    cases node with
    | text data position => exact .none
    | element start children => exact .some ⟨⟨rfl, before, after, levels⟩, rfl⟩

/-- An index picks the same element from a list where the children of another are changed. -/
theorem elementAt?_modify_rel {above others : List Level}
    (levels : above.map Level.start = others.map Level.start) (nodes : List Node)
    {changed index : Nat} (different : changed ≠ index) (change : List Node → List Node) :
    Option.Rel (fun place other => place.AlikeAround other ∧ other.children = place.children)
      (elementAt? above nodes index)
      (elementAt? others (nodes.modify changed (Node.mapChildren change)) index) := by
  apply elementAt?_rel levels
  · rw [List.getElem?_modify_ne _ _ different]
  · rw [List.take_modify]
    exact alike_modify _ _ _
  · by_cases earlier : changed < index + 1
    · rw [List.drop_modify_of_lt _ _ _ _ earlier]
      exact .refl _
    · rw [List.drop_modify_of_ge _ _ _ _ (by omega)]
      exact alike_modify _ _ _

theorem Place.AlikeAround.levels {first second : Place} (around : first.AlikeAround second) :
    first.levels.map Level.start = second.levels.map Level.start := by
  rw [Place.levels, Place.levels, List.map_cons, List.map_cons, around.start, around.above]

/-- A path leads to the same elements inside two elements with the same children. -/
theorem Place.at?_rel {first second : Place} (around : first.AlikeAround second)
    (children : second.children = first.children) (path : List Nat) :
    Option.Rel (fun place other => place.AlikeAround other ∧ other.children = place.children)
      (first.at? path) (second.at? path) := by
  induction path generalizing first second with
  | nil => exact .some ⟨around, children⟩
  | cons index path ih =>
    rw [at?, at?, children]
    refine rel_bind (elementAt?_rel around.levels rfl (.refl _) (.refl _)) ?_
    rintro child other ⟨childAround, childChildren⟩
    exact ih childAround childChildren

/-- How the element at one path is related to the one there after the element at another path, the
spot, has got other children. -/
structure Counterpart (others : List Node) (spot path : List Nat) (place counterpart : Place) :
    Prop where
  around : place.AlikeAround counterpart
  apart : ¬ path <+: spot → counterpart.children = place.children
  along : ∀ further, spot = path ++ further →
    counterpart.children = replaceAt others further place.children

theorem Counterpart.cons {others : List Node} {spot path : List Nat} {place counterpart : Place}
    (related : Counterpart others spot path place counterpart) (index : Nat) :
    Counterpart others (index :: spot) (index :: path) place counterpart where
  around := related.around
  apart := by
    intro notAlong
    rw [List.cons_prefix_cons, eq_self, true_and] at notAlong
    exact related.apart notAlong
  along := by
    intro further joined
    exact related.along further (List.cons.inj joined).2

/-- A path into some nodes leads to counterparts if the rest of it does from an element: the first
index picks the element that holds the spot, or one that is as before. -/
theorem counterpart_step {others : List Node} {path : List Nat}
    (inside : ∀ {first second : Place} {spot : List Nat}, first.AlikeAround second →
      second.children = replaceAt others spot first.children → ¬ spot <+: path →
        Option.Rel (Counterpart others spot path) (first.at? path) (second.at? path))
    {above aboveSecond : List Level}
    (levels : above.map Level.start = aboveSecond.map Level.start) (nodes : List Node)
    {index : Nat} {spot : List Nat} (elsewhere : ¬ spot <+: index :: path) :
    Option.Rel (Counterpart others spot (index :: path))
      ((elementAt? above nodes index).bind (Place.at? path))
      ((elementAt? aboveSecond (replaceAt others spot nodes) index).bind (Place.at? path)) := by
  cases spot with
  | nil => exact absurd List.nil_prefix elsewhere
  | cons first spot =>
    rw [replaceAt]
    by_cases same : first = index
    · subst same
      rw [List.cons_prefix_cons, eq_self, true_and] at elsewhere
      rw [elementAt?_modify, Option.bind_map]
      refine rel_bind (elementAt?_rel levels rfl (.refl _) (.refl _)) ?_
      rintro child other ⟨around, children⟩
      have changed : child.AlikeAround
          { other with children := replaceAt others spot other.children } :=
        ⟨around.start, around.before, around.after, around.above⟩
      have deeper := inside changed (by rw [children]) elsewhere
      exact rel_mono deeper fun _ _ related => related.cons first
    · refine rel_bind (elementAt?_modify_rel levels nodes same _) ?_
      rintro child other ⟨around, children⟩
      refine rel_mono (Place.at?_rel around children path) ?_
      rintro place counterpart ⟨placeAround, placeChildren⟩
      refine ⟨placeAround, fun _ => placeChildren, ?_⟩
      intro further joined
      exact absurd (List.cons.inj joined).1 same

/-- After the replacement a path that does not lead to the spot or into it leads to counterparts. -/
theorem Place.at?_counterpart {others : List Node} {path : List Nat} {first second : Place}
    {spot : List Nat} (around : first.AlikeAround second)
    (children : second.children = replaceAt others spot first.children)
    (elsewhere : ¬ spot <+: path) :
    Option.Rel (Counterpart others spot path) (first.at? path) (second.at? path) := by
  induction path generalizing first second spot with
  | nil =>
    refine .some ⟨around, fun notAlong => absurd List.nil_prefix notAlong, ?_⟩
    rintro further rfl
    exact children
  | cons index path ih =>
    rw [at?, at?, children]
    exact counterpart_step ih around.levels first.children elsewhere

/-- In a tree, too, a path that does not lead to the spot or into it leads to counterparts. -/
theorem Tree.at?_counterpart (tree : Tree) (others : List Node) {spot path : List Nat}
    (elsewhere : ¬ spot <+: path) :
    Option.Rel (Counterpart others spot path) (tree.at? path)
      ((tree.replaceChildren spot others).at? path) := by
  cases path with
  | nil => exact .none
  | cons index path =>
    cases spot with
    | nil => exact absurd List.nil_prefix elsewhere
    | cons first spot =>
      rw [at?, at?, nodes_replaceChildren]
      exact counterpart_step Place.at?_counterpart rfl tree.nodes elsewhere

/-- An element that is neither the spot nor inside it has a counterpart. -/
theorem Tree.exists_counterpart {tree : Tree} {place : Place} (held : tree.Holds place)
    (others : List Node) {spot : List Nat} (elsewhere : ¬ spot <+: place.path) :
    ∃ counterpart, (tree.replaceChildren spot others).at? place.path = some counterpart ∧
      Counterpart others spot place.path place counterpart := by
  have outcomes := tree.at?_counterpart others elsewhere
  rw [holds_iff_at?.mp held] at outcomes
  cases outcome : (tree.replaceChildren spot others).at? place.path with
  | none =>
    rw [outcome] at outcomes
    cases outcomes
  | some counterpart =>
    rw [outcome] at outcomes
    obtain ⟨related⟩ := outcomes
    exact ⟨counterpart, rfl, related⟩

/-- After the replacement there are no further elements elsewhere. -/
theorem Tree.exists_of_counterpart {tree : Tree} {counterpart : Place} {others : List Node}
    {spot : List Nat} (held : (tree.replaceChildren spot others).Holds counterpart)
    (elsewhere : ¬ spot <+: counterpart.path) :
    ∃ place, tree.at? counterpart.path = some place := by
  have outcomes := tree.at?_counterpart others elsewhere
  rw [holds_iff_at?.mp held] at outcomes
  cases outcome : tree.at? counterpart.path with
  | none =>
    rw [outcome] at outcomes
    cases outcomes
  | some place => exact ⟨place, rfl⟩

end HtmlNesting
