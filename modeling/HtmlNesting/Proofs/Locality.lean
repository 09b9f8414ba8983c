import HtmlNesting.Proofs.Exclusions
import HtmlNesting.Proofs.Paths

/-!
# Findings are local

What is found about an element does not depend on what is inside its siblings, inside its children
or inside the siblings of an enclosing element, apart from one thing: an element that excludes
others looks at all elements inside it. Giving an element other children therefore leaves the
findings about all elements around and beside it as they are, up to the reports of enclosing
elements on what is inside that one. These stand together in the findings about the content of the
enclosing element, at one place between findings that stay (`Registry.checkContent_along`).
-/

namespace HtmlNesting

/-! ## Start tags inside -/

/-- The start tags of all elements of some nodes, in document order. -/
def startsIn (nodes : List Node) : List StartTag :=
  (placesIn [] [] nodes).map fun place => place.start

/-- Elements have the same start tags below any levels and behind any siblings. -/
theorem placesIn_start (above : List Level) (before nodes : List Node) :
    (placesIn above before nodes).map (fun place => place.start) = startsIn nodes :=
  (Respaced.refl nodes).placesIn_start above [] before []

theorem Place.descendants_start (place : Place) :
    place.descendants.map (fun inner => inner.start) = startsIn place.children := by
  rw [descendants_eq_placesIn, placesIn_start]

theorem startsIn_text (data : String) (position : Position) (rest : List Node) :
    startsIn (.text data position :: rest) = startsIn rest := by
  rw [startsIn, placesIn, placesOf, List.nil_append, placesIn_start]

theorem startsIn_element (start : StartTag) (children rest : List Node) :
    startsIn (.element start children :: rest) = start :: (startsIn children ++ startsIn rest) := by
  rw [startsIn, placesIn, placesOf, List.map_append, List.map_cons, placesIn_start, placesIn_start,
    List.cons_append]

theorem startsIn_append (first second : List Node) :
    startsIn (first ++ second) = startsIn first ++ startsIn second := by
  induction first with
  | nil => rfl
  | cons node rest ih =>
    cases node with
    | text data position => rw [List.cons_append, startsIn_text, startsIn_text, ih]
    | element start children =>
      rw [List.cons_append, startsIn_element, startsIn_element, ih, List.cons_append,
        List.append_assoc]

/-- The start tags inside an element are those inside an element that a path leads to, with others
before and after them, and a replacement there leaves the others as they are. -/
theorem startsIn_replaceAt {place spot : Place} {path : List Nat}
    (found : place.at? path = some spot) (others : List Node) :
    ∃ front back, startsIn place.children = front ++ startsIn spot.children ++ back ∧
      startsIn (replaceAt others path place.children) = front ++ startsIn others ++ back := by
  induction path generalizing place with
  | nil =>
    cases found
    exact ⟨[], [], by simp, by simp [replaceAt]⟩
  | cons index path ih =>
    obtain ⟨child, atIndex, further⟩ := Option.bind_eq_some_iff.mp found
    obtain ⟨front, back, inside, replaced⟩ := ih further
    have changed : elementAt? place.levels (replaceAt others (index :: path) place.children) index =
        some { child with children := replaceAt others path child.children } := by
      rw [replaceAt, elementAt?_modify, atIndex, Option.map_some]
    refine ⟨startsIn child.before ++ child.start :: front, back ++ startsIn child.after, ?_, ?_⟩
    · rw [nodes_of_elementAt? atIndex, startsIn_append, startsIn_element, inside]
      simp
    · rw [nodes_of_elementAt? changed, startsIn_append, startsIn_element, replaced]
      simp

/-! ## Checks -/

namespace Registry

variable {registry : Registry} {place counterpart : Place}

/-- The context checks of two elements find the same in surroundings that are alike. -/
theorem checkContext_alike (registry : Registry) (around : place.AlikeAround counterpart) :
    (registry.entry counterpart.tag).checkContext registry (.element counterpart) =
      (registry.entry place.tag).checkContext registry (.element place) := by
  have sameTag : place.tag = counterpart.tag := congrArg StartTag.tag around.start
  rw [sameTag, RuleEntry.checkContext, RuleEntry.checkContext,
    ContextRule.checkAll_congr registry around]

/-- The near findings do not depend on what is inside the children. -/
theorem checkNear_alike (around : place.AlikeAround counterpart)
    (children : Alike id place.children counterpart.children) {near : List Diagnostic}
    (returned : registry.checkNear place = .ok near) :
    registry.checkNear counterpart = .ok near := by
  have sameTag : place.tag = counterpart.tag := congrArg StartTag.tag around.start
  rw [checkNear, sameTag] at returned
  rw [checkNear]
  cases inForce : registry.content? counterpart.tag with
  | none => simpa only [inForce] using returned
  | some model =>
    simp only [inForce] at returned ⊢
    have start : place.start.moved id = counterpart.start := around.start
    have moved := ContentModel.checkNear_moved start around.above children returned
    rwa [Diagnostic.moved_id, List.map_id] at moved

/-- The content check of an element finds the same after an element that is neither this one nor
inside it has got other children. -/
theorem checkContent_apart (registry : Registry) {others : List Node} {spot path : List Nat}
    (related : Counterpart others spot path place counterpart) (notAlong : ¬ path <+: spot) :
    (registry.entry counterpart.tag).checkContent registry (.element counterpart) =
      (registry.entry place.tag).checkContent registry (.element place) := by
  have sameTag : place.tag = counterpart.tag := congrArg StartTag.tag related.around.start
  have lineage : place.lineage = counterpart.lineage := by
    rw [Place.lineage, Place.lineage, related.around.start, related.around.above]
  have children : Respaced place.children counterpart.children := by
    rw [related.apart notAlong]
    exact .refl _
  rw [sameTag, children.checkContent_congr registry lineage]

/-- The content check of an element finds the same after an element inside it has got other
children, apart from what it reports on the elements inside that one. -/
theorem checkContent_along {others : List Node} {path further : List Nat} {spot : Place}
    (related : Counterpart others (path ++ further) path place counterpart)
    (inside : further ≠ []) (found : place.at? further = some spot) {findings : List Diagnostic}
    (returned :
      (registry.entry place.tag).checkContent registry (.element place) = .ok findings) :
    ∃ front back,
      findings = front ++ reportsOn (registry.exclusion? place.start) place.start
        (startsIn spot.children) ++ back ∧
      (registry.entry counterpart.tag).checkContent registry (.element counterpart) =
        .ok (front ++ reportsOn (registry.exclusion? place.start) place.start
          (startsIn others) ++ back) := by
  have replaced := related.along further rfl
  have alike : Alike id place.children counterpart.children := by
    rw [replaced]
    cases further with
    | nil => exact absurd rfl inside
    | cons index further => exact alike_modify _ _ _
  obtain ⟨near, nearReturned, joined⟩ := checkContent_eq_ok_iff.mp returned
  obtain ⟨front, back, before, after⟩ := startsIn_replaceAt found others
  refine ⟨near ++ reportsOn (registry.exclusion? place.start) place.start front,
    reportsOn (registry.exclusion? place.start) place.start back, ?_, ?_⟩
  · rw [joined, scanFor_eq_reportsOn, Place.descendants_start, before, reportsOn_append,
      reportsOn_append]
    simp only [List.append_assoc]
  · refine checkContent_eq_ok_iff.mpr
      ⟨near, checkNear_alike related.around alike nearReturned, ?_⟩
    rw [scanFor_eq_reportsOn, Place.descendants_start, ← related.around.start, replaced, after,
      reportsOn_append, reportsOn_append]
    simp only [List.append_assoc]

end Registry

/-! ## Whole trees -/

/-- Findings are local. Let an element of a tree, the spot, get other children. Then all elements
that are neither the spot nor inside it are still there, at the same paths and with the same start
tags, and there are no further ones. Their context checks find the same, and so do their content
checks, but for the elements around the spot: these find the same up to the reports on excluded
elements inside the spot, which are replaced by the reports on those that are there now. -/
theorem findings_local {tree : Tree} {spot : Place} (held : tree.Holds spot)
    (others : List Node) :
    (tree.replaceChildren spot.path others).Holds { spot with children := others } ∧
    (∀ counterpart, (tree.replaceChildren spot.path others).Holds counterpart →
      counterpart ≠ { spot with children := others } →
      { spot with children := others } ∉ counterpart.ancestors →
      ∃ place, tree.Holds place ∧ place.path = counterpart.path) ∧
    ∀ place, tree.Holds place → place ≠ spot → spot ∉ place.ancestors →
      ∃ counterpart, (tree.replaceChildren spot.path others).Holds counterpart ∧
        counterpart.path = place.path ∧ counterpart.start = place.start ∧
        (Registry.builtin.entry counterpart.tag).checkContext Registry.builtin
            (.element counterpart) =
          (Registry.builtin.entry place.tag).checkContext Registry.builtin (.element place) ∧
        (place ∉ spot.ancestors →
          (Registry.builtin.entry counterpart.tag).checkContent Registry.builtin
              (.element counterpart) =
            (Registry.builtin.entry place.tag).checkContent Registry.builtin (.element place)) ∧
        (place ∈ spot.ancestors → ∃ front back,
          (Registry.builtin.entry place.tag).checkContent Registry.builtin (.element place) =
            .ok (front ++ reportsOn (Registry.builtin.exclusion? place.start) place.start
              (startsIn spot.children) ++ back) ∧
          (Registry.builtin.entry counterpart.tag).checkContent Registry.builtin
              (.element counterpart) =
            .ok (front ++ reportsOn (Registry.builtin.exclusion? place.start) place.start
              (startsIn others) ++ back)) := by
  have spotFound := Tree.holds_iff_at?.mp held
  have spotStays := Tree.holds_of_at? (Tree.at?_replaceChildren others spotFound)
  refine ⟨spotStays, ?_, ?_⟩
  · intro counterpart counterpartHeld different notInside
    have elsewhere := Tree.not_path_leads spotStays counterpartHeld different notInside
    obtain ⟨place, found⟩ := Tree.exists_of_counterpart counterpartHeld elsewhere
    exact ⟨place, Tree.holds_of_at? found, Tree.path_of_at? found⟩
  · intro place placeHeld different notInside
    obtain ⟨counterpart, reached, related⟩ := Tree.exists_counterpart placeHeld others
      (Tree.not_path_leads held placeHeld different notInside)
    refine ⟨counterpart, Tree.holds_of_at? reached, Tree.path_of_at? reached,
      related.around.start.symm, Registry.builtin.checkContext_alike related.around, ?_, ?_⟩
    · intro notAround
      exact Registry.builtin.checkContent_apart related
        (Tree.not_path_leads placeHeld held different.symm notAround)
    · intro around
      obtain ⟨further, leadsOn, found⟩ :=
        Place.mem_descendants_iff_at?.mp (Place.mem_descendants_iff.mpr around)
      rw [Place.path_of_at? found] at related
      obtain ⟨findings, returned⟩ := Registry.builtin_checkContent_returns place.tag place
      obtain ⟨front, back, joined, replaced⟩ :=
        Registry.checkContent_along related leadsOn found returned
      exact ⟨front, back, joined ▸ returned, replaced⟩

/-- Contact information with a header in its first part and a footer at the end. -/
def contact : Place where
  start := .named "address"
  before := []
  after := []
  children := [
    .element (.named "div") [.element (.named "header") []],
    .element (.named "footer") []]
  above := []

/-- The part of the contact information that holds the header. -/
def contactPart : Place where
  start := .named "div"
  before := []
  after := [.element (.named "footer") []]
  children := [.element (.named "header") []]
  above := [contact.toLevel]

theorem contact_exclusion : Registry.builtin.exclusion? contact.start =
    some { tags := [.header, .footer, .address], categories := [.heading, .sectioning] } := by
  have isAddress : contact.start.tag = .address := by decide
  have listed : Rulebook.address ∈ Rulebook.entries := by
    simp [Rulebook.entries, Rulebook.ruleSets, RuleSet.entries, Rulebook.sections]
  have inForce := Registry.builtin_content_of_mem listed
  rw [Rulebook.address, RuleEntry.tag_of] at inForce
  rw [Registry.exclusion?, isAddress, inForce]
  rfl

theorem findings_local_contact :
    (Tree.document [contact.node]).Holds contactPart ∧
      ∃ counterpart,
        ((Tree.document [contact.node]).replaceChildren contactPart.path
          [.element (.named "h1") []]).Holds counterpart ∧
        counterpart.path = contact.path ∧
        ∃ front back,
          (Registry.builtin.entry contact.tag).checkContent Registry.builtin (.element contact) =
            .ok (front ++ [.atElement .forbiddenDescendant (.named "header")
              "<header> must not be a descendant of <address>" .warn] ++ back) ∧
          (Registry.builtin.entry counterpart.tag).checkContent Registry.builtin
              (.element counterpart) =
            .ok (front ++ [.atElement .forbiddenDescendant (.named "h1")
              "<h1> must not be a descendant of <address>" .warn] ++ back) := by
  have held : (Tree.document [contact.node]).Holds contactPart := Tree.holds_iff_at?.mpr rfl
  have contactHeld : (Tree.document [contact.node]).Holds contact := Tree.holds_iff_at?.mpr rfl
  have around : contactPart.ancestors = [contact] := rfl
  have outermost : contact.ancestors = [] := rfl
  have different : contact ≠ contactPart := by
    intro same
    rw [← same, outermost] at around
    cases around
  obtain ⟨_, _, elsewhere⟩ := findings_local held [.element (.named "h1") []]
  obtain ⟨counterpart, counterpartHeld, samePath, _, _, _, split⟩ :=
    elsewhere contact contactHeld different (by simp [outermost])
  obtain ⟨front, back, before, after⟩ := split (by simp [around])
  rw [contact_exclusion] at before after
  exact ⟨held, counterpart, counterpartHeld, samePath, front, back, before, after⟩

end HtmlNesting
