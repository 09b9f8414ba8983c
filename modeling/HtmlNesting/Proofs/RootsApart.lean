import HtmlNesting.Proofs.Exclusions
import HtmlNesting.Proofs.Spacing
import HtmlNesting.Proofs.Structure

/-!
# Top-level elements

The top-level elements of a document are each other's siblings, and context rules look at siblings.
But at an element without a parent every requirement is met except the one to be the root of the
document, and only the page has that one. So validation of a document comes down to validation of
each top-level element on its own (`Place.detached`), and to the reports that a page is not the only
top-level element.

Such a report is never the same as one on a page inside another element, since the two are worded
differently (`rootReport_ne_insideReport`).
-/

namespace HtmlNesting

/-! ## Stable order of parts -/

namespace StablySorted

/-- Leaving out findings leaves the others in stable order. -/
theorem filter {findings sorted : List Diagnostic} (stably : StablySorted findings sorted)
    (kept : Diagnostic → Bool) : StablySorted (findings.filter kept) (sorted.filter kept) where
  perm := stably.perm.filter kept
  ordered := stably.ordered.filter kept
  stable := by
    intro position
    have commute : ∀ list : List Diagnostic,
        (list.filter kept).filter (Diagnostic.isAt position) =
          (list.filter (Diagnostic.isAt position)).filter kept := by
      intro list
      simp only [List.filter_filter, Bool.and_comm]
    rw [commute, commute, stably.stable]

/-- The parts of what is to be sorted may be sorted beforehand. -/
theorem of_parts {α : Type} {items : List α} {parts whole : α → List Diagnostic}
    {sorted : List Diagnostic} (stably : StablySorted (items.flatMap parts) sorted)
    (perm : ∀ item ∈ items, (parts item).Perm (whole item))
    (stable : ∀ item ∈ items, ∀ position,
      (parts item).filter (Diagnostic.isAt position) =
        (whole item).filter (Diagnostic.isAt position)) :
    StablySorted (items.flatMap whole) sorted where
  perm := stably.perm.trans (List.Perm.flatMap_left items perm)
  ordered := stably.ordered
  stable := by
    intro position
    rw [stably.stable, List.filter_flatMap, List.filter_flatMap, List.flatMap_def,
      List.flatMap_def]
    exact congrArg _ (List.map_congr_left fun item member => stable item member position)

end StablySorted

/-! ## Elements on their own -/

/-- An element taken out of its surroundings. -/
def Place.detached (place : Place) : Place where
  start := place.start
  before := []
  after := []
  children := place.children
  above := []

/-- The elements of an element on its own. -/
theorem Tree.places_detached (place : Place) :
    (Tree.detached place.start place.children).places =
      place.detached :: place.detached.descendants := by
  rw [Place.descendants_eq_placesIn, Tree.places, Tree.nodes, placesIn, placesOf, placesIn,
    List.append_nil]
  rfl

namespace Registry

variable {registry : Registry} {root : Place}

/-- The content of a top-level element is the same on its own. -/
theorem checkContent_detached (registry : Registry) (isRoot : root.above = []) :
    (registry.entry root.detached.tag).checkContent registry (.element root.detached) =
      (registry.entry root.tag).checkContent registry (.element root) := by
  have lineage : root.detached.lineage = root.lineage := by
    rw [Place.lineage, Place.lineage, isRoot]
    rfl
  exact (Respaced.refl root.children).checkContent_congr registry lineage _

/-- The checks find the same inside a top-level element on its own. -/
theorem map_checkPlace_detached (registry : Registry) (isRoot : root.above = []) :
    root.detached.descendants.map registry.checkPlace =
      root.descendants.map registry.checkPlace := by
  rw [Place.descendants_eq_placesIn, Place.descendants_eq_placesIn]
  refine (Respaced.refl root.children).map_checkPlace registry ?_ .nil
  rw [Place.levels, Place.levels, isRoot]
  rfl

end Registry

/-! ## Context rules at the top level -/

namespace Requirement

variable {registry : Registry} {place : Place} {requirement : Requirement} {violation : Violation}

/-- At the top level only the requirement to be the root can fail. -/
theorem failureAt_top (isRoot : place.ancestors = [])
    (failed : requirement.failureAt registry place = .ok (some violation)) :
    requirement = .documentRoot ∧ rootViolation place = some violation := by
  simp only [failureAt, isRoot] at failed
  cases requirement with
  | documentRoot => exact ⟨rfl, Except.ok.inj failed⟩
  | _ => simp at failed

/-- An element with a parent is not the root of the document, and only the requirement to be the
root says so. -/
theorem failureAt_inside {parent : Place} {further : List Place}
    (inside : place.ancestors = parent :: further)
    (failed : requirement.failureAt registry place = .ok (some violation))
    (code : violation.code = .notDocumentRoot) :
    violation = insideParent place.start.shown parent := by
  have declared := code_of_failureAt failed
  rw [code] at declared
  have isDocumentRoot : requirement = .documentRoot := by
    cases requirement <;> simp_all [codes]
  simp only [failureAt, inside, isDocumentRoot, Except.ok.injEq, Option.some.injEq] at failed
  exact failed.symm

end Requirement

/-- The report on a top-level element that has another one beside it. -/
def rootReport (start other : StartTag) : Diagnostic :=
  .atElement .notDocumentRoot start
    (start.shown ++ " must be the only root element of the document, found next to " ++
      other.shown) .error

/-- A page that is not alone is reported otherwise than one inside another element. -/
theorem rootReport_ne_insideReport {start other inner parent : StartTag} {severity : Severity} :
    rootReport start other ≠ .atElement .notDocumentRoot inner
      (inner.shown ++ " must be the root element of the document, found inside " ++
        parent.shown) severity := by
  intro same
  have sameName : start.name = inner.name := congrArg Diagnostic.tag same
  have sameMessage := congrArg (fun finding => finding.message.toList) same
  simp only [rootReport, Diagnostic.atElement, StartTag.shown, sameName, String.toList_append,
    List.append_assoc, List.append_cancel_left_eq] at sameMessage
  -- The wordings part after "> must be the ".
  have sameLetter := congrArg (fun letters : List Char => letters[14]?) sameMessage
  simp at sameLetter

/-! ## Codes of content checks -/

/-- Whether a finding is about where something stands, by the name of its code. -/
def Diagnostic.isContext (finding : Diagnostic) : Bool :=
  "CONTEXT_".toList.isPrefixOf finding.code.toList

/-- The codes of findings about content. -/
def Code.content : List Code := [
  .exclusiveConflict, .forbiddenDescendant, .groupBroken, .missingRequired, .notAllowed, .notEmpty,
  .outOfOrder, .textRequired, .tooMany]

theorem Diagnostic.isContext_of_content {finding : Diagnostic} {code : Code}
    (isContent : code ∈ Code.content) (same : finding.code = code.name) :
    finding.isContext = false := by
  have named : ∀ code ∈ Code.content,
      "CONTEXT_".toList.isPrefixOf code.name.toList = false := by
    decide
  rw [isContext, same]
  exact named code isContent

/-- Plain models declare codes of content. -/
theorem PlainModel.codes_subset_content (model : PlainModel) : model.codes ⊆ Code.content := by
  cases model with
  | members members =>
    rw [codes, Members.codes]
    split <;> simp [Code.content]
  | _ => simp [codes, Ordered.codes, Groups.codes, Code.content]

/-- A content check reports on content. -/
theorem ContentModel.isContext_of_mem_check {registry : Registry} {place : Place}
    {model : ContentModel} {found : List Diagnostic} {finding : Diagnostic}
    (returned : model.check registry place = .ok found) (member : finding ∈ found) :
    finding.isContext = false := by
  rcases origin_of_mem_check returned member with
    ⟨plain, _, reported⟩ | ⟨handing, _, forbidden | excluded | ⟨plain, _, handedOn⟩⟩
  · obtain ⟨code, declared, same⟩ := plain.code_of_mem_check reported
    exact Diagnostic.isContext_of_content (plain.codes_subset_content declared) same
  · obtain ⟨child, _, rfl⟩ := List.mem_map.mp forbidden
    exact Diagnostic.isContext_of_content (by decide : Code.notAllowed ∈ Code.content) rfl
  · have code := (code_of_mem_scanFor excluded).2
    exact Diagnostic.isContext_of_content (by decide : Code.forbiddenDescendant ∈ Code.content) code
  · obtain ⟨code, declared, _, same⟩ := plain.code_of_mem_checkChildren handedOn
    exact Diagnostic.isContext_of_content (plain.codes_subset_content declared) same

/-! ## The built-in rules -/

theorem Code.eq_notDocumentRoot {code : Code} (same : code.name = Code.notDocumentRoot.name) :
    code = .notDocumentRoot := by
  revert same
  cases code <;> decide

namespace Registry

variable {place : Place} {finding : Diagnostic}

/-- The content check of an element reports on content. -/
theorem isContext_of_mem_checkContent {registry : Registry} {content : List Diagnostic}
    (returned : (registry.entry place.tag).checkContent registry (.element place) = .ok content)
    (member : finding ∈ content) : finding.isContext = false := by
  rw [RuleEntry.checkContent] at returned
  cases inForce : (registry.entry place.tag).content with
  | none =>
    simp only [inForce, Except.ok.injEq] at returned
    simp [← returned] at member
  | some model =>
    simp only [inForce] at returned
    exact ContentModel.isContext_of_mem_check returned member

/-- Only the page has to be the root of the document. -/
theorem builtin_tag_of_documentRoot {tag : Tag} {severity : Severity}
    (listed : (.documentRoot, severity) ∈
      ContextRule.sourcesOfRules (Registry.builtin.entry tag).contexts) : tag = .html := by
  have evaluated : ∀ item ∈ Rulebook.entries.zip Rulebook.tags,
      ∀ source ∈ ContextRule.sourcesOfRules item.1.contexts,
        source.1 = .documentRoot → item.2 = .html := by
    decide
  rcases builtin_entry_cases tag with ⟨member, same⟩ | permissive
  · have own := evaluated _ (Rulebook.mem_zip_tags member) _ listed
    rw [same] at own
    exact own rfl
  · rw [permissive] at listed
    simp [RuleEntry.permissive, RuleEntry.of, ContextRule.sourcesOfRules] at listed

/-- At the top level a page with elements beside it is reported once, and nothing else is. -/
theorem builtin_context_top (isRoot : place.ancestors = []) {context : List Diagnostic}
    (returned : (Registry.builtin.entry place.tag).checkContext Registry.builtin
      (.element place) = .ok context) :
    context = if place.tag = .html then
        ((place.elementsBefore ++ place.elementsAfter).head?.map (rootReport place.start)).toList
      else [] := by
  split
  · next isPage =>
    rw [isPage, builtin_entry_page.1] at returned
    simp only [RuleEntry.checkContext, Rulebook.html, RuleEntry.of, ContextRule.checkAll,
      ContextRule.check, Requirement.failure, Requirement.failureAt, isRoot,
      Requirement.rootViolation] at returned
    cases beside : (place.elementsBefore ++ place.elementsAfter).head? with
    | none => simpa [beside, ContextRule.reports, eq_comm] using returned
    | some other =>
      simp only [beside, Option.map_some, ContextRule.reports, List.append_nil,
        Except.ok.injEq] at returned
      rw [← returned]
      rfl
  · next notPage =>
    refine List.eq_nil_iff_forall_not_mem.mpr fun finding member => notPage ?_
    obtain ⟨⟨requirement, severity⟩, listed, violation, failed, _⟩ :=
      ContextRule.source_of_mem_checkAll _ returned member
    obtain ⟨rfl, _⟩ := Requirement.failureAt_top isRoot failed
    exact builtin_tag_of_documentRoot listed

/-- What the context check finds about an element with a parent is not a report on a top-level
element. -/
theorem ne_rootReport_of_inside {registry : Registry} {parent : Place} {further : List Place}
    (inside : place.ancestors = parent :: further) {context : List Diagnostic}
    (returned : (registry.entry place.tag).checkContext registry (.element place) = .ok context)
    (member : finding ∈ context) (start other : StartTag) : finding ≠ rootReport start other := by
  rintro rfl
  obtain ⟨source, _, violation, failed, same⟩ :=
    ContextRule.source_of_mem_checkAll _ returned member
  have code : violation.code = .notDocumentRoot :=
    Code.eq_notDocumentRoot (congrArg Diagnostic.code same).symm
  rw [Requirement.failureAt_inside inside failed code] at same
  exact rootReport_ne_insideReport same

end Registry

/-! ## Documents -/

namespace Tree

variable {tree : Tree} {root : Place}

theorem above_of_mem_roots (member : root ∈ tree.roots) : root.above = [] := by
  obtain ⟨_, _, _, _, above⟩ := Place.mem_siblingPlaces.mp member
  exact above

theorem ancestors_of_mem_roots (member : root ∈ tree.roots) : root.ancestors = [] := by
  obtain ⟨index, found⟩ := mem_roots.mp member
  exact ancestors_of_rootAt? found

/-- The top-level elements are any one of them and those beside it. -/
theorem length_roots (member : root ∈ tree.roots) :
    tree.roots.length = (root.elementsBefore ++ root.elementsAfter).length + 1 := by
  have own : root.node.start? = some root.start := rfl
  have starts : tree.nodes.filterMap Node.start? =
      root.elementsBefore ++ root.start :: root.elementsAfter := by
    rw [← Place.siblings_of_mem_siblingPlaces member, Place.siblings, List.filterMap_append,
      List.filterMap_cons_some own, Place.elementsBefore, Place.elementsAfter]
  have lengths := congrArg List.length (Place.siblingPlaces_start [] [] tree.nodes)
  rw [List.length_map, starts, List.length_append, List.length_cons] at lengths
  rw [roots, lengths, List.length_append]
  omega

end Tree

namespace Registry

variable {tree : Tree} {root : Place} {context : List Diagnostic}

/-- A top-level page that is not the only top-level element gets one report. -/
theorem builtin_context_of_several (member : root ∈ tree.roots)
    (returned : (Registry.builtin.entry root.tag).checkContext Registry.builtin (.element root) =
      .ok context)
    (isPage : root.tag = .html) (several : 1 < tree.roots.length) :
    ∃ message, context = [.atElement .notDocumentRoot root.start message .error] := by
  have count := Tree.length_roots member
  obtain ⟨other, others, beside⟩ := List.exists_cons_of_length_pos
    (by omega : 0 < (root.elementsBefore ++ root.elementsAfter).length)
  have atTop := builtin_context_top (Tree.ancestors_of_mem_roots member) returned
  rw [if_pos isPage, beside] at atTop
  exact ⟨_, atTop⟩

/-- Any other top-level element gets none. -/
theorem builtin_context_of_not_several (member : root ∈ tree.roots)
    (returned : (Registry.builtin.entry root.tag).checkContext Registry.builtin (.element root) =
      .ok context)
    (notReported : ¬ (root.tag = .html ∧ 1 < tree.roots.length)) : context = [] := by
  rw [builtin_context_top (Tree.ancestors_of_mem_roots member) returned]
  by_cases isPage : root.tag = .html
  · have notSeveral : ¬ 1 < tree.roots.length := by
      intro several
      exact notReported ⟨isPage, several⟩
    have count := Tree.length_roots member
    have single : root.elementsBefore ++ root.elementsAfter = [] := by
      apply List.length_eq_zero_iff.mp
      omega
    rw [if_pos isPage, single]
    rfl
  · rw [if_neg isPage]

end Registry

/-- The findings about the content of an element and about all elements inside it. -/
def foundBelow (context content : Place → List Diagnostic) (place : Place) : List Diagnostic :=
  content place ++ place.descendants.flatMap fun inner => context inner ++ content inner

section

variable {context content : Place → List Diagnostic}
  (contextReturned : ∀ place : Place,
    (Registry.builtin.entry place.tag).checkContext Registry.builtin (.element place) =
      .ok (context place))
  (contentReturned : ∀ place : Place,
    (Registry.builtin.entry place.tag).checkContent Registry.builtin (.element place) =
      .ok (content place))

include contextReturned contentReturned

/-- On its own a top-level element is found to be the same but for the report on its siblings. -/
theorem Registry.findings_detached {root : Place} (isRoot : root.above = []) :
    (Tree.detached root.start root.children).places.flatMap
        (fun place => context place ++ content place) = foundBelow context content root := by
  have joined : ∀ places : List Place, gather Registry.builtin.checkPlace places =
      .ok (places.flatMap fun place => context place ++ content place) := by
    intro places
    exact gather_checkPlace_eq_ok_iff.mpr ⟨context, content,
      fun place _ => ⟨contextReturned place, contentReturned place⟩, rfl⟩
  have inside := gather_congr (Registry.builtin.map_checkPlace_detached isRoot)
  rw [joined, joined, Except.ok.injEq] at inside
  have sameContent := Registry.builtin.checkContent_detached isRoot
  rw [contentReturned, contentReturned, Except.ok.injEq] at sameContent
  have silent : context root.detached = [] := by
    rw [builtin_context_top rfl (contextReturned root.detached)]
    simp [Place.elementsBefore, Place.elementsAfter, Place.detached]
  rw [Tree.places_detached, List.flatMap_cons, silent, sameContent, inside, List.nil_append,
    foundBelow]

/-- What is found inside a top-level element, or about its content, is not a report on a top-level
element. -/
theorem Registry.not_mem_context_of_mem {root other : Place} (isRoot : other.ancestors = [])
    {finding : Diagnostic} (member : finding ∈ foundBelow context content root) :
    finding ∉ context other := by
  intro isReport
  have reported : ∃ beside, finding = rootReport other.start beside := by
    rw [builtin_context_top isRoot (contextReturned other)] at isReport
    split at isReport
    · obtain ⟨beside, _, same⟩ := Option.map_eq_some_iff.mp (Option.mem_toList.mp isReport)
      exact ⟨beside, same.symm⟩
    · simp at isReport
  obtain ⟨beside, rfl⟩ := reported
  have isContext : (rootReport other.start beside).isContext = true := by
    have named : "CONTEXT_".toList.isPrefixOf Code.notDocumentRoot.name.toList = true := by
      decide
    exact named
  have notContent : ∀ place, rootReport other.start beside ∉ content place := by
    intro place inContent
    have isContent := isContext_of_mem_checkContent (contentReturned place) inContent
    rw [isContext] at isContent
    cases isContent
  rcases List.mem_append.mp member with own | inside
  · exact notContent root own
  · obtain ⟨inner, isInner, found⟩ := List.mem_flatMap.mp inside
    rcases List.mem_append.mp found with inContext | inContent
    · have around := Place.mem_descendants_iff.mp isInner
      obtain ⟨parent, further, enclosed⟩ :=
        List.exists_cons_of_ne_nil (List.ne_nil_of_mem around)
      exact ne_rootReport_of_inside enclosed (contextReturned inner) inContext _ _ rfl
    · exact notContent inner inContent

/-- Taking out the reports on top-level elements leaves what is below. -/
theorem Registry.filter_not_mem_context {tree : Tree} {root : Place} (member : root ∈ tree.roots) :
    ((context root ++ foundBelow context content root).filter fun finding =>
      finding ∉ tree.roots.flatMap context) = foundBelow context content root := by
  rw [List.filter_append, List.filter_eq_nil_iff.mpr, List.filter_eq_self.mpr, List.nil_append]
  · intro finding below
    rw [decide_eq_true_iff, List.mem_flatMap]
    rintro ⟨other, isRoot, reported⟩
    exact not_mem_context_of_mem contextReturned contentReturned
      (Tree.ancestors_of_mem_roots isRoot) below reported
  · intro finding reported
    rw [decide_eq_true_iff, not_not]
    exact List.mem_flatMap.mpr ⟨root, member, reported⟩

end

/-- Top-level elements do not interact. The findings about a document are those about each top-level
element on its own, in stable order, once the reports on top-level pages are taken out. There is one
such report for a top-level page exactly if it is not the only top-level element, and it is all that
the context check finds about a top-level element. -/
theorem roots_validated_apart (nodes : List Node) :
    ∃ findings, ∃ alone context content : Place → List Diagnostic,
      Registry.builtin.validate (.document nodes) = .ok findings ∧
      (∀ root ∈ (Tree.document nodes).roots,
        Registry.builtin.validate (.detached root.start root.children) = .ok (alone root) ∧
        (Registry.builtin.entry root.tag).checkContext Registry.builtin (.element root) =
          .ok (context root) ∧
        (Registry.builtin.entry root.tag).checkContent Registry.builtin (.element root) =
          .ok (content root) ∧
        (root.tag = .html ∧ 1 < (Tree.document nodes).roots.length →
          ∃ message, context root = [.atElement .notDocumentRoot root.start message .error]) ∧
        (¬ (root.tag = .html ∧ 1 < (Tree.document nodes).roots.length) → context root = []) ∧
        ∀ finding ∈ content root, finding.isContext = false) ∧
      StablySorted ((Tree.document nodes).roots.flatMap fun root => context root ++ alone root)
        findings ∧
      StablySorted ((Tree.document nodes).roots.flatMap alone)
        (findings.filter fun finding =>
          finding ∉ (Tree.document nodes).roots.flatMap context) := by
  obtain ⟨context, content, contextReturned, contentReturned, validated⟩ :=
    Registry.builtin_findings
  obtain ⟨findings, returned, sorted⟩ := validated (.document nodes)
  obtain ⟨alone, aloneValidated⟩ := Classical.skolem.mp fun root : Place =>
    validated (.detached root.start root.children)
  have aloneSorted : ∀ root ∈ (Tree.document nodes).roots,
      StablySorted (foundBelow context content root) (alone root) := by
    intro root member
    have stably := (aloneValidated root).2
    rwa [Registry.findings_detached contextReturned contentReturned
      (Tree.above_of_mem_roots member)] at stably
  have byRoot : StablySorted ((Tree.document nodes).roots.flatMap fun root =>
      context root ++ foundBelow context content root) findings := by
    rw [← Tree.walk_eq_places, Tree.walk, List.flatMap_assoc] at sorted
    simpa only [List.flatMap_cons, List.append_assoc, foundBelow] using sorted
  refine ⟨findings, alone, context, content, returned, ?_, ?_, ?_⟩
  · intro root member
    refine ⟨(aloneValidated root).1, contextReturned root, contentReturned root, ?_, ?_, ?_⟩
    · rintro ⟨isPage, several⟩
      exact Registry.builtin_context_of_several member (contextReturned root) isPage several
    · exact Registry.builtin_context_of_not_several member (contextReturned root)
    · intro finding inContent
      exact Registry.isContext_of_mem_checkContent (contentReturned root) inContent
  · apply byRoot.of_parts
    · intro root member
      exact (aloneSorted root member).perm.symm.append_left _
    · intro root member position
      rw [List.filter_append, List.filter_append, (aloneSorted root member).stable]
  · have kept := byRoot.filter fun finding =>
      finding ∉ (Tree.document nodes).roots.flatMap context
    rw [List.filter_flatMap] at kept
    apply kept.of_parts
    · intro root member
      rw [Registry.filter_not_mem_context contextReturned contentReturned member]
      exact (aloneSorted root member).perm.symm
    · intro root member position
      rw [Registry.filter_not_mem_context contextReturned contentReturned member,
        (aloneSorted root member).stable]

end HtmlNesting
