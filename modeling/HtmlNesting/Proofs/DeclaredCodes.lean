import HtmlNesting.Proofs.Orders
import HtmlNesting.Proofs.Origins
import HtmlNesting.Proofs.Validation
import HtmlNesting.Proofs.Wrapping

/-!
# Declared codes

Every rule and every model declares the codes it may report under, and a registry collects those of
its entries. A finding about an element comes from a context rule of its entry, from the content
model of its entry, or from a model that a transparent element delegates to. That last one is
declared elsewhere: by the entry of an enclosing element, or nowhere at all if the elements run out
and flow content decides. Flow content has no quotas, so all it reports is that a child is not
allowed, which a transparent model declares for itself (`PlainModel.code_of_mem_flow`).

`Registry.Declares` says that a code is declared by an entry in force. The lemmas before it go along
the definitions of the checks, `Registry.declares_of_mem_checkPlace` puts them together.
-/

namespace HtmlNesting

/-! ## Context rules -/

namespace Requirement

variable {registry : Registry} {place : Place} {violation : Violation}

/-- A category that is refused further up is reported as not expected. -/
theorem code_of_expectedAbove {category : Category} {ancestors : List Place}
    (failed : expectedAbove registry place category ancestors = .ok (some violation)) :
    violation.code = .categoryNotExpected := by
  induction ancestors with
  | nil => simp [expectedAbove] at failed
  | cons ancestor rest ih =>
    rw [expectedAbove] at failed
    split at failed
    · simp at failed
    · cases registered : registry.content? ancestor.tag with
      | none => exact ih (by simpa [registered] using failed)
      | some model =>
        simp only [registered] at failed
        split at failed
        · cases failed
        · cases failed
        · cases failed
          rfl

theorem code_of_parentViolation {shown : String} {parent : Place} {further : List Place}
    {tags through : List Tag}
    (failed : parentViolation shown parent further tags through = some violation) :
    violation.code = .wrongParent := by
  simp only [parentViolation, Option.ite_none_left_eq_some, Option.some.injEq] at failed
  rw [← failed.2]

theorem code_of_nthViolation {parent : Place} {tag : Tag} {index : Int} {after : List Tag}
    (failed : nthViolation place parent tag index after = some violation) :
    violation.code ∈ [Code.wrongParent, .wrongPosition] := by
  rw [nthViolation] at failed
  split at failed
  · simp only at failed
    split at failed
    · cases failed
    · cases failed
      simp
  · cases failed
    simp [wrongParent]

theorem code_of_edgeViolation {parent : Place} {tag : Tag}
    (failed : edgeViolation place parent tag = some violation) :
    violation.code ∈ [Code.wrongParent, .wrongPosition] := by
  rw [edgeViolation] at failed
  split at failed
  · split at failed
    · cases failed
    · cases failed
      simp [notAtEdge]
  · cases failed
    simp [wrongParent]

/-- An element fails to meet a requirement under a code that the requirement declares. -/
theorem code_of_failureAt {requirement : Requirement}
    (failed : requirement.failureAt registry place = .ok (some violation)) :
    violation.code ∈ requirement.codes := by
  unfold failureAt at failed
  cases around : place.ancestors with
  | nil =>
    cases requirement with
    | documentRoot =>
      simp only [around, Except.ok.injEq] at failed
      obtain ⟨other, _, rfl⟩ := Option.map_eq_some_iff.mp failed
      simp [codes]
    | _ => simp [around] at failed
  | cons parent further =>
    simp only [around] at failed
    cases requirement with
    | documentRoot =>
      cases failed
      simp [codes, insideParent]
    | expected category =>
      simp only [expectedViolation] at failed
      split at failed
      · cases failed
      · simp [codes, code_of_expectedAbove failed]
    | parentIs tags through => simp [codes, code_of_parentViolation (Except.ok.inj failed)]
    | nthChildOf tag index after => exact code_of_nthViolation (Except.ok.inj failed)
    | firstOrLastChildOf tag => exact code_of_edgeViolation (Except.ok.inj failed)
    | uniqueAmongSiblings =>
      simp only [duplicateViolation, Except.ok.injEq] at failed
      split at failed
      · cases failed
        simp [codes]
      · cases failed
    | noAncestor tags =>
      obtain ⟨ancestor, _, rfl⟩ := Option.map_eq_some_iff.mp (Except.ok.inj failed)
      simp [codes]
    | hasAncestor tags =>
      simp only [outsideViolation, Except.ok.injEq] at failed
      split at failed
      · cases failed
      · cases failed
        simp [codes]
    | beforeAny tags categories =>
      obtain ⟨sibling, _, rfl⟩ := Option.map_eq_some_iff.mp (Except.ok.inj failed)
      simp [codes]
    | unstated => cases failed

end Requirement

namespace ContextRule

mutual

/-- A rule declares the codes of the requirements it comes down to. -/
theorem codes_eq_sources : (rule : ContextRule) →
    rule.codes = rule.sources.flatMap fun source => source.1.codes
  | require requirement severity => by simp [codes, sources]
  | anyOf rules severity => by
    rw [codes, sources, codesOfRules_eq_sources rules, List.flatMap_map]
  | byAttribute branches otherwise => by
    rw [codes, sources, codesOfRules_eq_sources otherwise, codesOfBranches_eq_sources branches,
      List.flatMap_append]

theorem codesOfRules_eq_sources : (rules : List ContextRule) →
    codesOfRules rules = (sourcesOfRules rules).flatMap fun source => source.1.codes
  | [] => rfl
  | rule :: rest => by
    rw [codesOfRules, sourcesOfRules, codes_eq_sources rule, codesOfRules_eq_sources rest,
      List.flatMap_append]

theorem codesOfBranches_eq_sources : (branches : List (AttributeTest × List ContextRule)) →
    codesOfBranches branches = (sourcesOfBranches branches).flatMap fun source => source.1.codes
  | [] => rfl
  | (_, rules) :: rest => by
    rw [codesOfBranches, sourcesOfBranches, codesOfRules_eq_sources rules,
      codesOfBranches_eq_sources rest, List.flatMap_append]

end

/-- The diagnostics of some rules carry codes that these declare. -/
theorem code_of_mem_checkAll {registry : Registry} {place : Place} {found : List Diagnostic}
    {finding : Diagnostic} (rules : List ContextRule)
    (returned : checkAll registry (.element place) rules = .ok found) (member : finding ∈ found) :
    ∃ code ∈ codesOfRules rules, finding.code = code.name := by
  obtain ⟨source, listed, violation, failed, rfl⟩ := source_of_mem_checkAll rules returned member
  have declared := Requirement.code_of_failureAt failed
  rw [codesOfRules_eq_sources]
  exact ⟨violation.code, List.mem_flatMap.mpr ⟨source, listed, declared⟩, rfl⟩

/-- The codes of some rules are those of each of them. -/
theorem codesOfRules_eq_flatMap (rules : List ContextRule) :
    codesOfRules rules = rules.flatMap codes := by
  induction rules with
  | nil => rfl
  | cons rule rest ih => rw [codesOfRules, List.flatMap_cons, ih]

end ContextRule

/-! ## Content models -/

/-- The scan for excluded descendants reports under one code. -/
theorem code_of_mem_scanFor {exclusion : Option Exclusion} {place : Place} {finding : Diagnostic}
    (member : finding ∈ scanFor exclusion place) :
    exclusion.isSome = true ∧ finding.code = Code.forbiddenDescendant.name := by
  cases exclusion with
  | none => simp [scanFor] at member
  | some exclusion =>
    obtain ⟨descendant, _, rfl⟩ := List.mem_map.mp member
    exact ⟨rfl, rfl⟩

/-- A plain model reports under codes that it declares. -/
theorem PlainModel.code_of_mem_check {model : PlainModel} {place : Place} {finding : Diagnostic}
    (member : finding ∈ model.check place) : ∃ code ∈ model.codes, finding.code = code.name := by
  rcases List.mem_append.mp member with near | excluded
  · obtain ⟨code, declared, _, same⟩ := code_of_mem_checkChildren near
    exact ⟨code, declared, same⟩
  · cases model with
    | members members =>
      obtain ⟨present, same⟩ := code_of_mem_scanFor excluded
      exact ⟨.forbiddenDescendant, by simp [codes, Members.codes, present], same⟩
    | _ => simp at excluded

/-- Flow content reports nothing but children that are not allowed. -/
theorem PlainModel.code_of_mem_flow {model : PlainModel} {parent : StartTag}
    {children : List Node} {finding : Diagnostic} (flow : model ∈ ContentModel.flowContent.plains)
    (member : finding ∈ model.checkChildren parent children) :
    finding.code = Code.notAllowed.name := by
  have isFlow : model = .members { category := some .flow } := List.mem_singleton.mp flow
  rw [isFlow, checkChildren, Members.checkChildren, Members.checkFrom_of_unlimited rfl] at member
  obtain ⟨child, _, rfl⟩ := List.mem_map.mp member
  rfl

namespace ContentModel

/-- A model declares the codes of the plain models it chooses among. -/
theorem codes_of_mem_plains {model : ContentModel} {plain : PlainModel}
    (choice : plain ∈ model.plains) : plain.codes ⊆ model.codes := by
  induction model with
  | plain inner => rw [List.mem_singleton.mp choice]; exact List.Subset.refl _
  | transparent handing => simp [plains] at choice
  | whenAttribute name present absent presentHolds absentHolds =>
    rcases List.mem_append.mp choice with chosen | chosen
    · exact List.Subset.trans (presentHolds chosen) (List.subset_append_left _ _)
    · exact List.Subset.trans (absentHolds chosen) (List.subset_append_right _ _)

/-- A model declares the codes of the transparent models it chooses among. -/
theorem codes_of_mem_transparents {model : ContentModel} {handing : Transparent}
    (choice : handing ∈ model.transparents) : handing.codes ⊆ model.codes := by
  induction model with
  | plain inner => simp [transparents] at choice
  | transparent inner => rw [List.mem_singleton.mp choice]; exact List.Subset.refl _
  | whenAttribute name present absent presentHolds absentHolds =>
    rcases List.mem_append.mp choice with chosen | chosen
    · exact List.Subset.trans (presentHolds chosen) (List.subset_append_left _ _)
    · exact List.Subset.trans (absentHolds chosen) (List.subset_append_right _ _)

end ContentModel

/-- What a transparent element delegates to is in force, whether or not one choice by attribute
settles the models of the registry. -/
theorem applies_of_delegate {registry : Registry} {place : Place} {plain : PlainModel}
    (delegated : delegate registry place = .ok (some plain)) : registry.Applies plain := by
  rw [delegate] at delegated
  cases found : effectiveModel registry (.element place) with
  | none => simp [found] at delegated
  | some model =>
    simp only [found] at delegated
    cases resolved : model.resolve place.attributes with
    | transparent handing => simp [resolved] at delegated
    | plain inner =>
      simp only [resolved, Except.ok.injEq, Option.some.injEq] at delegated
      exact effectiveAmong_applies found plain
        (ContentModel.mem_plains_of_resolve (delegated ▸ resolved))

/-- What a transparent element delegates to reports under codes that a model in force declares, or
only children that are not allowed. -/
theorem code_of_mem_delegate {registry : Registry} {place : Place} {plain : PlainModel}
    (delegated : delegate registry place = .ok (some plain)) {children : List Node}
    {finding : Diagnostic} (member : finding ∈ plain.checkChildren place.start children) :
    finding.code = Code.notAllowed.name ∨
      ∃ tag model, registry.content? tag = some model ∧
        ∃ code ∈ model.codes, finding.code = code.name := by
  rcases applies_of_delegate delegated with flow | ⟨tag, model, inForce, choice⟩
  · exact .inl (plain.code_of_mem_flow flow member)
  · obtain ⟨code, declared, _, same⟩ := plain.code_of_mem_checkChildren member
    exact .inr ⟨tag, model, inForce, code, ContentModel.codes_of_mem_plains choice declared, same⟩

/-! ## Registries -/

namespace Registry

variable {registry : Registry}

/-- Some entry in force declares a code with a name. -/
def Declares (registry : Registry) (name : String) : Prop :=
  ∃ tag, ∃ code ∈ (registry.entry tag).codes, name = code.name

/-- A model in force declares its codes. -/
theorem declares_of_content {tag : Tag} {model : ContentModel}
    (inForce : registry.content? tag = some model) {code : Code} (declared : code ∈ model.codes)
    {name : String} (same : name = code.name) : registry.Declares name := by
  refine ⟨tag, code, ?_, same⟩
  rw [content?] at inForce
  rw [RuleEntry.codes, inForce]
  exact List.mem_append_right _ declared

/-- A content check reports under declared codes. -/
theorem declares_of_mem_check {place : Place} {model : ContentModel} {tag : Tag}
    (inForce : registry.content? tag = some model) {found : List Diagnostic}
    (returned : model.check registry place = .ok found) {finding : Diagnostic}
    (member : finding ∈ found) : registry.Declares finding.code := by
  rcases ContentModel.origin_of_mem_check returned member with
    ⟨plain, resolved, reported⟩ | ⟨handing, resolved, origin⟩
  · obtain ⟨code, declared, same⟩ := plain.code_of_mem_check reported
    have choice := ContentModel.mem_plains_of_resolve resolved
    exact declares_of_content inForce (ContentModel.codes_of_mem_plains choice declared) same
  · have own : ∀ {code}, code ∈ handing.codes → finding.code = code.name →
        registry.Declares finding.code := by
      intro code declared same
      have choice := ContentModel.mem_transparents_of_resolve resolved
      exact declares_of_content inForce
        (ContentModel.codes_of_mem_transparents choice declared) same
    have notAllowed : Code.notAllowed ∈ handing.codes := by simp [Transparent.codes]
    rcases origin with forbidden | excluded | ⟨plain, delegated, handedOn⟩
    · obtain ⟨child, _, rfl⟩ := List.mem_map.mp forbidden
      exact own notAllowed rfl
    · obtain ⟨present, same⟩ := code_of_mem_scanFor excluded
      exact own (by simp [Transparent.codes, present]) same
    · rcases code_of_mem_delegate delegated handedOn with
        same | ⟨other, model, otherInForce, code, declared, same⟩
      · exact own notAllowed same
      · exact declares_of_content otherInForce declared same

/-- The checks of an element report under declared codes. -/
theorem declares_of_mem_checkPlace {place : Place} {found : List Diagnostic}
    (returned : registry.checkPlace place = .ok found) {finding : Diagnostic}
    (member : finding ∈ found) : registry.Declares finding.code := by
  obtain ⟨context, content, contextReturned, contentReturned, rfl⟩ :=
    checkPlace_eq_ok_iff.mp returned
  rcases List.mem_append.mp member with inContext | inContent
  · obtain ⟨code, declared, same⟩ :=
      ContextRule.code_of_mem_checkAll _ contextReturned inContext
    refine ⟨place.tag, code, ?_, same⟩
    rw [ContextRule.codesOfRules_eq_flatMap] at declared
    exact List.mem_append_left _ declared
  · rw [RuleEntry.checkContent] at contentReturned
    cases inForce : (registry.entry place.tag).content with
    | none =>
      simp only [inForce, Except.ok.injEq] at contentReturned
      simp [← contentReturned] at inContent
    | some model =>
      simp only [inForce] at contentReturned
      exact declares_of_mem_check inForce contentReturned inContent

/-- Validation reports under declared codes. -/
theorem declares_of_mem_validate {tree : Tree} {found : List Diagnostic}
    (returned : registry.validate tree = .ok found) {finding : Diagnostic}
    (member : finding ∈ found) : registry.Declares finding.code := by
  rw [validate] at returned
  cases outcome : gather registry.checkPlace tree.visited with
  | error fault => simp [outcome] at returned
  | ok findings =>
    simp only [outcome, Except.ok.injEq] at returned
    rw [← returned, List.mem_mergeSort] at member
    obtain ⟨findingsAt, checked, rfl⟩ := gather_eq_ok_iff.mp outcome
    obtain ⟨place, visited, atPlace⟩ := List.mem_flatMap.mp member
    exact declares_of_mem_checkPlace (checked place visited) atPlace

/-- A registry lists the names of all codes that its entries declare. -/
theorem mem_codeNames_of_declares {name : String} (declared : registry.Declares name) :
    name ∈ registry.codeNames := by
  obtain ⟨tag, code, inEntry, rfl⟩ := declared
  rw [codeNames, Text.mem_sortedTexts, List.mem_flatMap]
  rw [entry] at inEntry
  cases registered : Dictionary.get? registry.entries tag with
  | none => simp [registered, RuleEntry.permissive, RuleEntry.of, RuleEntry.codes] at inEntry
  | some own =>
    rw [registered, Option.getD_some] at inEntry
    exact ⟨(tag, own), Dictionary.mem_of_get? registered, List.mem_map_of_mem inEntry⟩

/-- An entry in force that declares a code is listed in one of the rule sets, under its tag. -/
theorem mem_of_mem_codes {ruleSets : List RuleSet} {tag : Tag} {code : Code}
    (declared : code ∈ ((Registry.discover ruleSets).registry.entry tag).codes) :
    (Registry.discover ruleSets).registry.entry tag ∈ ruleSets.flatMap RuleSet.entries ∧
      ((Registry.discover ruleSets).registry.entry tag).tag = tag := by
  rw [entry_discover] at declared ⊢
  cases found : listedFor? (ruleSets.flatMap RuleSet.entries) tag with
  | none => simp [found, RuleEntry.permissive, RuleEntry.of, RuleEntry.codes] at declared
  | some own =>
    rw [listedFor?] at found
    split at found
    · cases found
    · exact ⟨List.mem_of_find?_eq_some found, by simpa using List.find?_some found⟩

/-- Every code that is ever reported is declared, whatever rule sets a registry is filled from: it
is among the codes of the registry, and an entry declares it that is listed in one of the rule sets
and was not passed over. -/
theorem reported_codes_declared (ruleSets : List RuleSet) {tree : Tree}
    {found : List Diagnostic}
    (returned : (Registry.discover ruleSets).registry.validate tree = .ok found)
    {finding : Diagnostic} (member : finding ∈ found) :
    finding.code ∈ (Registry.discover ruleSets).registry.codeNames ∧
      ∃ entry ∈ ruleSets.flatMap RuleSet.entries,
        (Registry.discover ruleSets).registry.entry entry.tag = entry ∧
          finding.code ∈ entry.codeNames := by
  have declared := declares_of_mem_validate returned member
  refine ⟨mem_codeNames_of_declares declared, ?_⟩
  obtain ⟨tag, code, inEntry, same⟩ := declared
  obtain ⟨listed, ownTag⟩ := mem_of_mem_codes inEntry
  refine ⟨_, listed, by rw [ownTag], ?_⟩
  rw [RuleEntry.codeNames, Text.mem_sortedTexts, same]
  exact List.mem_map_of_mem inEntry

end Registry

/-- Rule sets for asides and figures. A name without a tag and a second entry for asides are passed
over, and an aside hands its children on unless it is hidden. -/
def asideRules : List RuleSet := [
  { name := "notes"
    definitions := [
      some { name := "note", contexts := [.require .uniqueAmongSiblings .error] },
      none,
      some (.of .aside [
        .byAttribute [
          (.present "lang", [
            .alternatives (.parentIs [.body]) [.require (.hasAncestor [.main]) .warn]])] []]
        (some (.whenAttribute "hidden" .void (.transparent {}))))] },
  { name := "pictures"
    definitions := [
      some (.of .aside [.require .documentRoot .error] none),
      some (.of .figure []
        (some (.plain (.members { tags := [.img], limits := .ofList [(.img, 1)] }))))] }]

/-- A figure with two pictures in an aside. -/
def picturesInAside : Tree :=
  .detached (.named "figure") [
    .element (.named "aside" [("lang", "en")]) [
      .element (.named "img") [], .element (.named "img") []]]

theorem reported_codes_declared_aside :
    ∃ found,
      (Registry.discover asideRules).registry.validate picturesInAside = .ok found ∧
      (found.map Diagnostic.code).Perm
        [Code.notAllowed.name, Code.wrongParent.name, Code.tooMany.name] ∧
      ∀ finding ∈ found,
        finding.code ∈ (Registry.discover asideRules).registry.codeNames ∧
          ∃ entry ∈ asideRules.flatMap RuleSet.entries,
            (Registry.discover asideRules).registry.entry entry.tag = entry ∧
              finding.code ∈ entry.codeNames := by
  have checked : (gather (Registry.discover asideRules).registry.checkPlace
      picturesInAside.places).toOption.map (List.map Diagnostic.code) =
        some [Code.notAllowed.name, Code.wrongParent.name, Code.tooMany.name] := by
    decide +kernel
  obtain ⟨findings, joined, codes⟩ := Option.map_eq_some_iff.mp checked
  have returned : (Registry.discover asideRules).registry.validate picturesInAside =
      .ok (findings.mergeSort Diagnostic.reportedBy) := by
    rw [Registry.validate, Tree.visited_eq_places]
    cases outcome : gather (Registry.discover asideRules).registry.checkPlace
        picturesInAside.places with
    | error fault => simp [outcome, Except.toOption] at joined
    | ok found =>
      rw [outcome] at joined
      rw [Option.some.inj joined]
  refine ⟨_, returned, ?_, fun finding member =>
    Registry.reported_codes_declared asideRules returned member⟩
  rw [← codes]
  exact (List.mergeSort_perm _ _).map _

end HtmlNesting
