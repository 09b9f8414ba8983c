import HtmlNesting.Proofs.Alike
import HtmlNesting.Validate

/-!
# What a check sees of the surroundings

A registry is asked about tags and attributes, so of the enclosing elements a check sees the start
tags alone. `Place.lineage` is the list of these, from an element up to its root: delegation, and
with it the question what a model accepts, depends on nothing else.

Context rules look at siblings besides, and siblings matter only as far as `Alike` goes. Two places
that are `AlikeAround` therefore have the same findings about their context.
-/

namespace HtmlNesting

/-! ## Enclosing elements -/

namespace Place

/-- The start tags from an element up to its root. -/
def lineage (place : Place) : List StartTag :=
  place.start :: place.above.map Level.start

/-- The enclosing elements have the start tags of the levels above. -/
theorem ancestorsFrom_start (level : Level) (children : List Node) (above : List Level) :
    (ancestorsFrom level children above).map (fun ancestor => ancestor.start) =
      above.map Level.start := by
  induction above generalizing level children with
  | nil => rfl
  | cons outer rest ih => rw [ancestorsFrom, List.map_cons, List.map_cons, ih]

theorem ancestors_start (place : Place) :
    place.ancestors.map (fun ancestor => ancestor.start) = place.above.map Level.start :=
  ancestorsFrom_start _ _ _

/-- Enclosing elements have the same lineages where the levels above have the same start tags. -/
theorem ancestorsFrom_lineage {level other : Level} {children others : List Node}
    {above otherAbove : List Level} (same : above.map Level.start = otherAbove.map Level.start) :
    (ancestorsFrom level children above).map lineage =
      (ancestorsFrom other others otherAbove).map lineage := by
  induction above generalizing level other children others otherAbove with
  | nil =>
    cases otherAbove with
    | nil => rfl
    | cons => simp at same
  | cons outer rest ih =>
    cases otherAbove with
    | nil => simp at same
    | cons otherOuter otherRest =>
      rw [List.map_cons, List.map_cons, List.cons.injEq] at same
      rw [ancestorsFrom, ancestorsFrom, List.map_cons, List.map_cons, List.cons.injEq]
      exact ⟨by simp only [lineage, same.1, same.2], ih same.2⟩

theorem ancestors_lineage {first second : Place}
    (same : first.above.map Level.start = second.above.map Level.start) :
    first.ancestors.map lineage = second.ancestors.map lineage :=
  ancestorsFrom_lineage same

/-- Places with the same lineages have the same start tags. -/
theorem map_start_of_lineage {firsts seconds : List Place}
    (same : firsts.map lineage = seconds.map lineage) :
    firsts.map (fun place => place.start) = seconds.map (fun place => place.start) := by
  induction firsts generalizing seconds with
  | nil =>
    cases seconds with
    | nil => rfl
    | cons => simp at same
  | cons first rest ih =>
    cases seconds with
    | nil => simp at same
    | cons second others =>
      rw [List.map_cons, List.map_cons, List.cons.injEq, lineage, lineage, List.cons.injEq] at same
      rw [List.map_cons, List.map_cons, same.1.1, ih same.2]

end Place

/-- The model found among enclosing elements depends on their start tags. -/
theorem effectiveAmong_congr (registry : Registry) {firsts seconds : List Place}
    (same : firsts.map (fun place => place.start) = seconds.map (fun place => place.start)) :
    effectiveAmong registry firsts = effectiveAmong registry seconds := by
  induction firsts generalizing seconds with
  | nil =>
    cases seconds with
    | nil => rfl
    | cons => simp at same
  | cons first rest ih =>
    cases seconds with
    | nil => simp at same
    | cons second others =>
      rw [List.map_cons, List.map_cons, List.cons.injEq] at same
      have sameTag : first.tag = second.tag := congrArg StartTag.tag same.1
      have sameAttributes : first.attributes = second.attributes :=
        congrArg StartTag.attributes same.1
      rw [effectiveAmong, effectiveAmong, sameTag, sameAttributes, ih same.2]

/-- Delegation depends on the attributes of the element and the start tags around it. -/
theorem delegate_congr (registry : Registry) {first second : Place}
    (attributes : first.attributes = second.attributes)
    (above : first.above.map Level.start = second.above.map Level.start) :
    delegate registry first = delegate registry second := by
  have same : effectiveModel registry (.element first) =
      effectiveModel registry (.element second) :=
    effectiveAmong_congr registry (by rw [Subject.ancestors, Subject.ancestors,
      Place.ancestors_start, Place.ancestors_start, above])
  rw [delegate, delegate, same, attributes]

/-- What a model accepts at an element depends on its attributes and the start tags around it. -/
theorem ContentModel.accepts_congr (registry : Registry) {first second : Place}
    (attributes : first.attributes = second.attributes)
    (above : first.above.map Level.start = second.above.map Level.start) (category : Category)
    (model : ContentModel) :
    model.accepts registry first category = model.accepts registry second category := by
  rw [accepts, accepts, attributes, delegate_congr registry attributes above]

namespace Requirement

variable {registry : Registry} {first second : Place}

/-- Looking for a content model further up depends on the lineages of the enclosing elements. -/
theorem expectedAbove_congr (start : first.start = second.start) (category : Category)
    {firsts seconds : List Place} (same : firsts.map Place.lineage = seconds.map Place.lineage) :
    expectedAbove registry first category firsts =
      expectedAbove registry second category seconds := by
  induction firsts generalizing seconds with
  | nil =>
    cases seconds with
    | nil => rfl
    | cons => simp at same
  | cons ancestor rest ih =>
    cases seconds with
    | nil => simp at same
    | cons other others =>
      rw [List.map_cons, List.map_cons, List.cons.injEq] at same
      have sameStart : ancestor.start = other.start := (List.cons.inj same.1).1
      have sameTag : ancestor.tag = other.tag := congrArg StartTag.tag sameStart
      have attributes : ancestor.attributes = other.attributes :=
        congrArg StartTag.attributes sameStart
      rw [expectedAbove, expectedAbove, ih same.2, sameTag, sameStart, start]
      split
      · rfl
      · cases registry.content? other.tag with
        | none => rfl
        | some model => simp only [model.accepts_congr registry attributes (List.cons.inj same.1).2]

end Requirement

/-! ## Siblings -/

/-- Two places that context rules cannot tell apart. -/
structure Place.AlikeAround (first second : Place) : Prop where
  start : first.start = second.start
  before : Alike id first.before second.before
  after : Alike id first.after second.after
  above : first.above.map Level.start = second.above.map Level.start

namespace Requirement

variable {first second : Place}

theorem elementsBefore_congr (alike : first.AlikeAround second) :
    first.elementsBefore = second.elementsBefore := by
  have same := alike.before.starts
  rw [Place.elementsBefore, Place.elementsBefore, same]
  simp

theorem elementsAfter_congr (alike : first.AlikeAround second) :
    first.elementsAfter = second.elementsAfter := by
  have same := alike.after.starts
  rw [Place.elementsAfter, Place.elementsAfter, same]
  simp

/-- The first sibling that must not come before is named alike in lists that are alike. -/
theorem lateViolation_congr (alike : first.AlikeAround second) (tags : List Tag)
    (categories : List Category) :
    lateViolation first tags categories = lateViolation second tags categories := by
  have before := alike.before
  rw [lateViolation, lateViolation, alike.start]
  generalize first.before = earlier at before ⊢
  generalize second.before = others at before ⊢
  induction before with
  | nil => rfl
  | spacesFirst blank _ ih => simpa [List.find?_cons, blocks, blank] using ih
  | spacesSecond blank _ ih => simpa [List.find?_cons, blocks, blank] using ih
  | @text data position _ _ _ ih =>
    have same : blocks tags categories (.text data (id position)) =
        blocks tags categories (.text data position) := rfl
    rw [List.find?_cons, List.find?_cons, same]
    split
    · rfl
    · exact ih
  | @element start children others _ _ _ ih =>
    have same : blocks tags categories (.element (start.moved id) others) =
        blocks tags categories (.element start children) := rfl
    rw [List.find?_cons, List.find?_cons, same]
    split
    · rfl
    · exact ih

/-- An element among some is found by its start tag. -/
theorem find?_map_start {β : Type} (places : List Place) (wanted : StartTag → Bool)
    (read : StartTag → β) :
    (places.find? fun place => wanted place.start).map (fun place => read place.start) =
      ((places.map fun place => place.start).find? wanted).map read := by
  rw [List.find?_map, Option.map_map]
  rfl

theorem insideViolation_congr (start : first.start = second.start) {firsts seconds : List Place}
    (same : firsts.map (fun place => place.start) = seconds.map (fun place => place.start))
    (tags : List Tag) :
    insideViolation first firsts tags = insideViolation second seconds tags := by
  have general := fun places : List Place => find?_map_start places
    (fun ancestor => tags.contains ancestor.tag) fun ancestor =>
      ({ code := .forbiddenAncestor
         message := second.start.shown ++ " must not be a descendant of " ++ ancestor.shown } :
        Violation)
  rw [insideViolation, insideViolation, start]
  refine (general firsts).trans ?_
  rw [same]
  exact (general seconds).symm

theorem outsideViolation_congr (start : first.start = second.start) {firsts seconds : List Place}
    (same : firsts.map (fun place => place.start) = seconds.map (fun place => place.start))
    (tags : List Tag) :
    outsideViolation first firsts tags = outsideViolation second seconds tags := by
  have general : ∀ places : List Place,
      (places.any fun ancestor => tags.contains ancestor.tag) =
        (places.map fun place => place.start).any fun ancestor => tags.contains ancestor.tag := by
    intro places
    rw [List.any_map]
    rfl
  rw [outsideViolation, outsideViolation, start, general, general, same]

/-- An element meets the same requirements in surroundings that are alike. -/
theorem failureAt_congr (registry : Registry) (alike : first.AlikeAround second)
    (requirement : Requirement) :
    requirement.failureAt registry first = requirement.failureAt registry second := by
  have lineages := Place.ancestors_lineage alike.above
  unfold failureAt
  revert lineages
  cases first.ancestors with
  | nil =>
    cases second.ancestors with
    | nil =>
      intro _
      cases requirement with
      | documentRoot =>
        simp only [rootViolation, elementsBefore_congr alike, elementsAfter_congr alike,
          alike.start]
      | _ => rfl
    | cons => simp
  | cons parent further =>
    cases second.ancestors with
    | nil => simp
    | cons otherParent otherFurther =>
      intro lineages
      have starts := Place.map_start_of_lineage lineages
      have parentStart : parent.start = otherParent.start := (List.cons.inj starts).1
      have parentTag : parent.tag = otherParent.tag := congrArg StartTag.tag parentStart
      have furtherStarts := (List.cons.inj starts).2
      cases requirement with
      | documentRoot => simp only [insideParent, alike.start, parentStart]
      | expected category =>
        simp only [expectedViolation, parentTag,
          expectedAbove_congr alike.start category (List.cons.inj lineages).2]
      | parentIs tags through =>
        simp only [parentViolation, alike.start, parentStart, parentTag]
        cases further with
        | nil =>
          cases otherFurther with
          | nil => rfl
          | cons => simp at furtherStarts
        | cons outer rest =>
          cases otherFurther with
          | nil => simp at furtherStarts
          | cons otherOuter otherRest =>
            have outerTag : outer.tag = otherOuter.tag :=
              congrArg StartTag.tag (List.cons.inj furtherStarts).1
            simp only [outerTag]
      | nthChildOf tag index after =>
        simp only [nthViolation, wrongParent, elementsBefore_congr alike, alike.start, parentStart,
          parentTag]
      | firstOrLastChildOf tag =>
        simp only [edgeViolation, wrongParent, elementsBefore_congr alike,
          elementsAfter_congr alike, alike.start, parentStart, parentTag]
      | uniqueAmongSiblings =>
        simp only [duplicateViolation, elementsBefore_congr alike, alike.start, parentStart]
      | noAncestor tags => simp only [insideViolation_congr alike.start starts tags]
      | hasAncestor tags => simp only [outsideViolation_congr alike.start starts tags]
      | beforeAny tags categories => simp only [lateViolation_congr alike tags categories]
      | unstated => rfl

end Requirement

/-! ## Checks -/

namespace ContextRule

variable {first second : Place}

/-- An outcome is reported in the same way at places with one start tag. -/
theorem reports_congr (start : first.start = second.start) (severity : Severity)
    (outcome : Except RuleFault (Option Violation)) :
    reports (.element first) severity outcome = reports (.element second) severity outcome := by
  cases outcome with
  | error fault => rfl
  | ok violation =>
    cases violation with
    | none => rfl
    | some violation =>
      simp only [reports, report, Diagnostic.atNode, Subject.node, Place.node, Node.position,
        Node.name, start]

theorem isRoot_congr (above : first.above.map Level.start = second.above.map Level.start) :
    (Subject.element first).isRoot = (Subject.element second).isRoot := by
  have lengths := congrArg List.isEmpty (Place.ancestors_start first)
  have otherLengths := congrArg List.isEmpty (Place.ancestors_start second)
  rw [List.isEmpty_map] at lengths otherLengths
  rw [Subject.isRoot, Subject.isRoot, Subject.ancestors, Subject.ancestors, lengths, otherLengths,
    above]

theorem attributes?_congr (start : first.start = second.start) :
    (Subject.element first).attributes? = (Subject.element second).attributes? := by
  rw [Subject.attributes?, Subject.attributes?, Place.attributes, Place.attributes, start]

mutual

/-- The first violation of a rule is the same in surroundings that are alike. -/
theorem failure_congr (registry : Registry) (alike : first.AlikeAround second) :
    (rule : ContextRule) →
    rule.failure registry (.element first) = rule.failure registry (.element second)
  | require requirement _ => by
    rw [failure, failure]
    exact requirement.failureAt_congr registry alike
  | anyOf rules _ => by
    rw [failure, failure, isRoot_congr alike.above, failureOfAll_congr registry alike rules]
  | byAttribute branches otherwise => by
    rw [failure, failure, firstFailure_congr registry alike otherwise,
      failureOfBranches_congr registry alike _ branches]

theorem failureOfAll_congr (registry : Registry) (alike : first.AlikeAround second) :
    (rules : List ContextRule) →
    failureOfAll registry (.element first) rules = failureOfAll registry (.element second) rules
  | [] => by rw [failureOfAll, failureOfAll]
  | rule :: rest => by
    rw [failureOfAll, failureOfAll, failure_congr registry alike rule]
    cases rule.failure registry (.element second) with
    | error fault => rfl
    | ok violation =>
      cases violation with
      | none => rfl
      | some violation => exact failureUnlessAny_congr registry alike violation rest

theorem failureUnlessAny_congr (registry : Registry) (alike : first.AlikeAround second)
    (violation : Violation) : (rules : List ContextRule) →
    failureUnlessAny registry (.element first) violation rules =
      failureUnlessAny registry (.element second) violation rules
  | [] => by rw [failureUnlessAny, failureUnlessAny]
  | rule :: rest => by
    rw [failureUnlessAny, failureUnlessAny, failure_congr registry alike rule,
      failureUnlessAny_congr registry alike violation rest]

theorem firstFailure_congr (registry : Registry) (alike : first.AlikeAround second) :
    (rules : List ContextRule) →
    firstFailure registry (.element first) rules = firstFailure registry (.element second) rules
  | [] => by rw [firstFailure, firstFailure]
  | rule :: rest => by
    rw [firstFailure, firstFailure, failure_congr registry alike rule,
      firstFailure_congr registry alike rest]

theorem failureOfBranches_congr (registry : Registry) (alike : first.AlikeAround second)
    (otherwise : Except RuleFault (Option Violation)) :
    (branches : List (AttributeTest × List ContextRule)) →
    failureOfBranches registry (.element first) otherwise branches =
      failureOfBranches registry (.element second) otherwise branches
  | [] => by rw [failureOfBranches, failureOfBranches]
  | (test, rules) :: rest => by
    rw [failureOfBranches, failureOfBranches, attributes?_congr alike.start,
      firstFailure_congr registry alike rules,
      failureOfBranches_congr registry alike otherwise rest]

end

mutual

/-- The findings of a rule are the same in surroundings that are alike. -/
theorem check_congr (registry : Registry) (alike : first.AlikeAround second) :
    (rule : ContextRule) →
    rule.check registry (.element first) = rule.check registry (.element second)
  | require requirement severity => by
    have same := failure_congr registry alike (.require requirement severity)
    rw [failure, failure] at same
    rw [check, check, same, reports_congr alike.start]
  | anyOf rules severity => by
    rw [check, check, failure_congr registry alike, reports_congr alike.start]
  | byAttribute branches otherwise => by
    rw [check, check, checkAll_congr registry alike otherwise,
      checkBranches_congr registry alike _ branches]

/-- The findings of rules are the same in surroundings that are alike. -/
theorem checkAll_congr (registry : Registry) (alike : first.AlikeAround second) :
    (rules : List ContextRule) →
    checkAll registry (.element first) rules = checkAll registry (.element second) rules
  | [] => by rw [checkAll, checkAll]
  | rule :: rest => by
    rw [checkAll, checkAll, check_congr registry alike rule, checkAll_congr registry alike rest]

theorem checkBranches_congr (registry : Registry) (alike : first.AlikeAround second)
    (otherwise : Except RuleFault (List Diagnostic)) :
    (branches : List (AttributeTest × List ContextRule)) →
    checkBranches registry (.element first) otherwise branches =
      checkBranches registry (.element second) otherwise branches
  | [] => by rw [checkBranches, checkBranches]
  | (test, rules) :: rest => by
    rw [checkBranches, checkBranches, attributes?_congr alike.start,
      checkAll_congr registry alike rules, checkBranches_congr registry alike otherwise rest]

end

end ContextRule

/-- The reports of an exclusion that may be missing on some start tags inside an element. -/
def reportsOn (exclusion : Option Exclusion) (outer : StartTag) (inner : List StartTag) :
    List Diagnostic :=
  match exclusion with
  | none => []
  | some exclusion => (inner.filter exclusion.covers).map (exclusion.report outer)

theorem reportsOn_append (exclusion : Option Exclusion) (outer : StartTag)
    (first second : List StartTag) :
    reportsOn exclusion outer (first ++ second) =
      reportsOn exclusion outer first ++ reportsOn exclusion outer second := by
  cases exclusion with
  | none => rfl
  | some exclusion => rw [reportsOn, reportsOn, reportsOn, List.filter_append, List.map_append]

/-- A scan reports on the start tags of all descendants. -/
theorem scanFor_eq_reportsOn (exclusion : Option Exclusion) (place : Place) :
    scanFor exclusion place =
      reportsOn exclusion place.start (place.descendants.map fun inner => inner.start) := by
  cases exclusion with
  | none => rfl
  | some exclusion =>
    rw [scanFor, Exclusion.scan, reportsOn, List.filter_map, List.map_map]
    rfl

/-- The reports on excluded descendants depend on the start tags of the descendants. -/
theorem scanFor_congr {first second : Place} (start : first.start = second.start)
    (inside : first.descendants.map (fun place => place.start) =
      second.descendants.map (fun place => place.start)) (exclusion : Option Exclusion) :
    scanFor exclusion first = scanFor exclusion second := by
  rw [scanFor_eq_reportsOn, scanFor_eq_reportsOn, start, inside]

/-- The findings about the content of an element are the same for children that are alike and have
the same start tags inside. -/
theorem ContentModel.check_congr (registry : Registry) {first second : Place}
    (lineage : first.lineage = second.lineage) (children : Alike id first.children second.children)
    (inside : first.descendants.map (fun place => place.start) =
      second.descendants.map (fun place => place.start)) (model : ContentModel) :
    model.check registry first = model.check registry second := by
  rw [Place.lineage, Place.lineage, List.cons.injEq] at lineage
  obtain ⟨start, above⟩ := lineage
  have attributes : first.attributes = second.attributes := congrArg StartTag.attributes start
  have plainSame : ∀ plain : PlainModel, ∀ {firsts seconds : List Node}, Alike id firsts seconds →
      plain.checkChildren first.start firsts = plain.checkChildren second.start seconds := by
    intro plain firsts seconds alike
    simpa [start] using (plain.checkChildren_alike alike first.start).symm
  rw [check, check, attributes]
  cases model.resolve second.attributes with
  | plain plain =>
    simp only [PlainModel.check, plainSame plain children]
    cases plain with
    | members members => simp only [scanFor_congr start inside]
    | _ => rfl
  | transparent handing =>
    have forbidden : handing.forbiddenReports first.start first.children =
        handing.forbiddenReports second.start second.children := by
      simpa [start] using (handing.forbiddenReports_alike children first.start).symm
    have visible := handing.visible_alike children
    simp only [checkDelegated, delegate_congr registry attributes above, forbidden,
      scanFor_congr start inside]
    cases delegate registry second with
    | error fault => rfl
    | ok found =>
      cases found with
      | none => rfl
      | some plain => simp only [plainSame plain visible]

end HtmlNesting
