import HtmlNesting.Proofs.DeclaredCodes
import Mathlib.Data.List.Nodup

/-!
# Excluded descendants

Some models exclude elements at any depth. Such a model may stand behind a choice by attribute, and
a transparent element may carry an exclusion of its own while its children are handed on to another
model. Whatever the way to the model, its scan is run once: a content check is a check of the
children (`ContentModel.checkNear`) followed by one scan, for the exclusion that the model of the
element itself carries (`ContentModel.check_eq_ok_iff`). A model that children are handed on to has
its exclusion scanned for at its own element only.

The reports of a whole run are counted by pairs of an element and one inside it.
-/

namespace HtmlNesting

/-! ## The scan of a content check -/

/-- The exclusion that a model carries. -/
def Resolved.exclusion? : Resolved → Option Exclusion
  | .plain (.members members) => members.exclude
  | .plain _ => none
  | .transparent handing => handing.exclude

/-- A plain model checks the children and then scans for what it excludes. -/
theorem PlainModel.check_eq_append (place : Place) (model : PlainModel) :
    model.check place =
      model.checkChildren place.start place.children ++
        scanFor (Resolved.plain model).exclusion? place := by
  unfold check
  cases model <;> rfl

/-- A content check is a check of the children followed by one scan, for what the model excludes
that the attributes of the element select. -/
theorem ContentModel.check_eq_ok_iff {registry : Registry} {place : Place} {model : ContentModel}
    {found : List Diagnostic} :
    model.check registry place = .ok found ↔
      ∃ near, model.checkNear registry place = .ok near ∧
        found = near ++ scanFor (model.resolve place.attributes).exclusion? place := by
  rw [check, checkNear]
  cases model.resolve place.attributes with
  | plain plain => simp [plain.check_eq_append, eq_comm]
  | transparent handing =>
    cases outcome : checkDelegated registry place (handing.visible place.children) with
    | error fault => simp [outcome]
    | ok delegated => simp [outcome, Resolved.exclusion?, eq_comm]

/-! ## Registries -/

namespace Registry

/-- The exclusion in force for elements with a start tag. -/
def exclusion? (registry : Registry) (start : StartTag) : Option Exclusion :=
  (registry.content? start.tag).bind fun model => (model.resolve start.attributes).exclusion?

/-- An element must not hold another at any depth: the model that its attributes select carries an
exclusion, and the other has one of its tags or is of one of its categories. -/
def Excludes (registry : Registry) (outer inner : StartTag) : Prop :=
  ∃ exclusion, registry.exclusion? outer = some exclusion ∧
    (inner.tag ∈ exclusion.tags ∨ ∃ category ∈ inner.categories, category ∈ exclusion.categories)

theorem excludes_iff {registry : Registry} {outer inner : StartTag} :
    registry.Excludes outer inner ↔
      ∃ exclusion, registry.exclusion? outer = some exclusion ∧ exclusion.covers inner = true := by
  simp [Excludes, Exclusion.covers]

variable {registry : Registry} {place : Place} {found : List Diagnostic}

/-- The findings about an element and its children, excluded descendants left aside. -/
def checkNear (registry : Registry) (place : Place) : Except RuleFault (List Diagnostic) :=
  match registry.content? place.tag with
  | none => .ok []
  | some model => model.checkNear registry place

/-- The content check of an element looks at the children and then scans for the exclusion in
force. -/
theorem checkContent_eq_ok_iff :
    (registry.entry place.tag).checkContent registry (.element place) = .ok found ↔
      ∃ near, registry.checkNear place = .ok near ∧
        found = near ++ scanFor (registry.exclusion? place.start) place := by
  rw [RuleEntry.checkContent, checkNear, exclusion?, ← content?]
  have sameTag : place.start.tag = place.tag := rfl
  cases inForce : registry.content? place.tag with
  | none => simp [sameTag, inForce, scanFor, eq_comm]
  | some model =>
    simp only [sameTag, inForce, Option.bind_some]
    exact ContentModel.check_eq_ok_iff

/-- The near findings are not about excluded descendants. -/
theorem isNear_of_mem_checkNear {near : List Diagnostic} {finding : Diagnostic}
    (returned : registry.checkNear place = .ok near) (member : finding ∈ near) :
    finding.isNear = true := by
  rw [checkNear] at returned
  cases inForce : registry.content? place.tag with
  | none =>
    simp only [inForce, Except.ok.injEq] at returned
    simp [← returned] at member
  | some model =>
    simp only [inForce] at returned
    have checked := ContentModel.check_eq_ok_iff.mpr ⟨near, returned, rfl⟩
    have nearOnly := Except.ok.inj (returned.symm.trans (ContentModel.checkNear_of_check checked))
    rw [nearOnly] at member
    exact (List.mem_filter.mp member).2

/-- The content check of an element scans for the exclusion in force. -/
theorem filter_far_of_checkContent
    (returned : (registry.entry place.tag).checkContent registry (.element place) = .ok found) :
    (found.filter fun finding => !finding.isNear) =
      scanFor (registry.exclusion? place.start) place := by
  obtain ⟨near, nearReturned, joined⟩ := checkContent_eq_ok_iff.mp returned
  have allNear : ∀ finding ∈ near, finding.isNear = true :=
    fun _ member => isNear_of_mem_checkNear nearReturned member
  have allFar : ∀ finding ∈ scanFor (registry.exclusion? place.start) place,
      finding.isNear = false := by
    intro finding member
    rw [Diagnostic.isNear, (code_of_mem_scanFor member).2]
    simp
  rw [joined, List.filter_append, List.filter_eq_nil_iff.mpr (by simpa using allNear),
    List.filter_eq_self.mpr (by simpa using allFar), List.nil_append]

/-- Context rules say nothing about excluded descendants. -/
theorem filter_far_of_checkContext
    (returned : (registry.entry place.tag).checkContext registry (.element place) = .ok found) :
    (found.filter fun finding => !finding.isNear) = [] := by
  rw [List.filter_eq_nil_iff]
  intro finding member
  obtain ⟨source, _, violation, failed, rfl⟩ :=
    ContextRule.source_of_mem_checkAll _ returned member
  have declared := Requirement.code_of_failureAt failed
  have other : violation.code ≠ .forbiddenDescendant := by
    intro same
    rw [same] at declared
    cases requirement : source.1 <;> simp [requirement, Requirement.codes] at declared
  rw [Diagnostic.isNear_of_code other rfl]
  simp

/-- The pairs of an element and an excluded one inside it. -/
def offences (registry : Registry) (outer : Place) : List (Place × Place) :=
  (outer.descendants.filter fun inner =>
    (registry.exclusion? outer.start).any fun exclusion => exclusion.covers inner.start).map
      fun inner => (outer, inner)

theorem mem_offences {outer : Place} {pair : Place × Place} :
    pair ∈ registry.offences outer ↔
      pair.1 = outer ∧ outer ∈ pair.2.ancestors ∧
        registry.Excludes outer.start pair.2.start := by
  obtain ⟨first, second⟩ := pair
  simp only [offences, List.mem_map, List.mem_filter, Option.any_eq_true, Prod.mk.injEq,
    Place.mem_descendants_iff, excludes_iff]
  constructor
  · rintro ⟨inner, ⟨around, excluded⟩, rfl, rfl⟩
    exact ⟨rfl, around, excluded⟩
  · rintro ⟨rfl, around, excluded⟩
    exact ⟨second, ⟨around, excluded⟩, rfl, rfl⟩

/-- No pair is listed twice for elements that are not. -/
theorem nodup_offences {outers : List Place} (distinct : outers.Nodup) :
    (outers.flatMap registry.offences).Nodup := by
  rw [List.nodup_flatMap]
  constructor
  · intro outer _
    refine (outer.nodup_descendants.filter _).map ?_
    intro first second same
    exact (Prod.mk.inj same).2
  · refine distinct.imp ?_
    intro first second different pair inFirst inSecond
    exact different ((mem_offences.mp inFirst).1.symm.trans (mem_offences.mp inSecond).1)

/-- An exclusion is scanned for pair by pair. -/
theorem scanFor_exclusion? (severity : Severity)
    (same : ∀ exclusion ∈ registry.exclusion? place.start, exclusion.severity = severity) :
    scanFor (registry.exclusion? place.start) place =
      (registry.offences place).map fun pair =>
        .atElement .forbiddenDescendant pair.2.start
          (pair.2.start.shown ++ " must not be a descendant of " ++ pair.1.start.shown)
          severity := by
  rw [offences]
  cases carried : registry.exclusion? place.start with
  | none => simp [scanFor]
  | some exclusion =>
    have own := same exclusion carried
    simp [scanFor, Exclusion.scan, Exclusion.report, own, Function.comp_def]

end Registry

/-! ## The built-in rules -/

namespace Registry

/-- The built-in exclusions report with a warning. -/
theorem builtin_exclusion_warn {start : StartTag} {exclusion : Exclusion}
    (carried : Registry.builtin.exclusion? start = some exclusion) :
    exclusion.severity = .warn := by
  have listed : ∀ entry ∈ Rulebook.entries, ∀ model ∈ entry.content.toList,
      (∀ plain ∈ model.plains, ∀ own ∈ (Resolved.plain plain).exclusion?.toList,
        own.severity = .warn) ∧
      ∀ handing ∈ model.transparents, ∀ own ∈ handing.exclude.toList, own.severity = .warn := by
    decide +kernel
  rw [exclusion?, Option.bind_eq_some_iff] at carried
  obtain ⟨model, inForce, carries⟩ := carried
  obtain ⟨entry, member, _, content⟩ := mem_of_builtin_content inForce
  obtain ⟨plainWarn, transparentWarn⟩ := listed entry member model (by simp [content])
  cases resolved : model.resolve start.attributes with
  | plain plain =>
    rw [resolved] at carries
    exact plainWarn plain (ContentModel.mem_plains_of_resolve resolved) exclusion
      (by simp [carries])
  | transparent handing =>
    rw [resolved] at carries
    have own : handing.exclude = some exclusion := carries
    exact transparentWarn handing (ContentModel.mem_transparents_of_resolve resolved) exclusion
      (by simp [own])

end Registry

/-- Every excluded element inside another is reported once: the findings about excluded descendants
are, in some order, one warning for each pair of an element of the tree and an element inside it
that the model selected by the attributes of the outer one excludes. It is at the inner element,
under the name of that, and names both. -/
theorem excluded_descendants_reported_once (tree : Tree) :
    ∃ findings, ∃ pairs : List (Place × Place),
      Registry.builtin.validate tree = .ok findings ∧ pairs.Nodup ∧
      (∀ outer inner, (outer, inner) ∈ pairs ↔
        tree.Holds outer ∧ tree.Holds inner ∧ outer ∈ inner.ancestors ∧
          Registry.builtin.Excludes outer.start inner.start) ∧
      (findings.filter fun finding => finding.code = Code.forbiddenDescendant.name).Perm
        (pairs.map fun pair =>
          .atElement .forbiddenDescendant pair.2.start
            (pair.2.start.shown ++ " must not be a descendant of " ++ pair.1.start.shown)
            .warn) := by
  obtain ⟨context, content, contextReturned, contentReturned, validated⟩ :=
    Registry.builtin_findings
  obtain ⟨findings, returned, sorted⟩ := validated tree
  refine ⟨findings, tree.places.flatMap Registry.builtin.offences, returned, ?_, ?_, ?_⟩
  · rw [← tree.visited_eq_places]
    exact Registry.nodup_offences tree.nodup_visited
  · intro outer inner
    rw [List.mem_flatMap]
    simp only [Registry.mem_offences, ← tree.visited_eq_places, Tree.mem_visited]
    constructor
    · rintro ⟨_, held, rfl, around, excluded⟩
      exact ⟨held, held.of_mem_descendants (Place.mem_descendants_iff.mpr around), around, excluded⟩
    · rintro ⟨held, _, around, excluded⟩
      exact ⟨outer, held, rfl, around, excluded⟩
  · have isFar :
        (fun finding : Diagnostic => decide (finding.code = Code.forbiddenDescendant.name)) =
          fun finding => !finding.isNear := by
      funext finding
      simp [Diagnostic.isNear, bne, Bool.beq_eq_decide_eq]
    have atPlace : ∀ place : Place,
        ((context place ++ content place).filter fun finding => !finding.isNear) =
          (Registry.builtin.offences place).map fun pair =>
            .atElement .forbiddenDescendant pair.2.start
              (pair.2.start.shown ++ " must not be a descendant of " ++ pair.1.start.shown)
              .warn := by
      intro place
      rw [List.filter_append, Registry.filter_far_of_checkContext (contextReturned place),
        Registry.filter_far_of_checkContent (contentReturned place), List.nil_append]
      exact Registry.scanFor_exclusion? .warn fun exclusion carried =>
        Registry.builtin_exclusion_warn carried
    rw [isFar, List.map_flatMap]
    refine (sorted.perm.filter _).trans (.of_eq ?_)
    rw [List.filter_flatMap]
    exact congrArg (List.flatMap · tree.places) (funext atPlace)

end HtmlNesting
