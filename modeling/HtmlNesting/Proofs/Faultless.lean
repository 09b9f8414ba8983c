import HtmlNesting.Proofs.Discovery
import HtmlNesting.Proofs.Joining

/-!
# Checks that return

A check may end with a fault: a rule that states no condition, alternatives without a single one, or
a transparent element that hands its children on to itself. None of this occurs under the built-in
rules when elements are asked. `ContextRule.stated` and `ContentModel.isShallow` say of a rule and
of a model that it leaves no room for such a fault; both are computed, so the built-in rules are
gone through by evaluation.

`ContentModel.plains` lists the plain models a model can come down to. Whatever a transparent
element delegates to is one of these for some registered model, or flow content.
-/

namespace HtmlNesting

/-! ## Content models -/

namespace ContentModel

/-- The plain models among which attributes choose. -/
def plains : ContentModel → List PlainModel
  | plain model => [model]
  | transparent _ => []
  | whenAttribute _ present absent => present.plains ++ absent.plains

/-- The transparent models among which attributes choose. -/
def transparents : ContentModel → List Transparent
  | plain _ => []
  | transparent model => [model]
  | whenAttribute _ present absent => present.transparents ++ absent.transparents

/-- Whether a model leaves a choice by attribute open. -/
def isOpen : ContentModel → Bool
  | whenAttribute _ _ _ => true
  | _ => false

/-- Whether one choice by attribute settles the model. -/
def isShallow : ContentModel → Bool
  | whenAttribute _ present absent => !present.isOpen && !absent.isOpen
  | _ => true

theorem mem_plains_of_resolve {attributes : Attributes} {model : ContentModel} {plain : PlainModel}
    (resolved : model.resolve attributes = .plain plain) : plain ∈ model.plains := by
  induction model with
  | plain inner => simp_all [resolve, plains]
  | transparent inner => simp [resolve] at resolved
  | whenAttribute name present absent presentHolds absentHolds =>
    rw [resolve] at resolved
    rw [plains, List.mem_append]
    split at resolved
    · exact .inl (presentHolds resolved)
    · exact .inr (absentHolds resolved)

theorem mem_transparents_of_resolve {attributes : Attributes} {model : ContentModel}
    {handing : Transparent} (resolved : model.resolve attributes = .transparent handing) :
    handing ∈ model.transparents := by
  induction model with
  | plain inner => simp [resolve] at resolved
  | transparent inner => simp_all [resolve, transparents]
  | whenAttribute name present absent presentHolds absentHolds =>
    rw [resolve] at resolved
    rw [transparents, List.mem_append]
    split at resolved
    · exact .inl (presentHolds resolved)
    · exact .inr (absentHolds resolved)

/-- One choice leaves only plain models that were there before. -/
theorem plains_select {attributes : Attributes} {model : ContentModel} {plain : PlainModel}
    (member : plain ∈ (model.select attributes).plains) : plain ∈ model.plains := by
  cases model with
  | plain inner => exact member
  | transparent inner => exact member
  | whenAttribute name present absent =>
    rw [select] at member
    rw [plains, List.mem_append]
    split at member
    · exact .inl member
    · exact .inr member

/-- Choosing once and then all the way is choosing all the way. -/
theorem resolve_select (attributes : Attributes) (model : ContentModel) :
    (model.select attributes).resolve attributes = model.resolve attributes := by
  cases model with
  | plain inner => rfl
  | transparent inner => rfl
  | whenAttribute name present absent =>
    rw [select, resolve]
    split <;> rfl

/-- A shallow model has no choice left after one. -/
theorem isOpen_select (attributes : Attributes) {model : ContentModel}
    (shallow : model.isShallow = true) : (model.select attributes).isOpen = false := by
  cases model with
  | plain inner => rfl
  | transparent inner => rfl
  | whenAttribute name present absent =>
    rw [isShallow, Bool.and_eq_true] at shallow
    rw [select]
    split
    · simpa using shallow.1
    · simpa using shallow.2

end ContentModel

namespace Registry

/-- All content models in force are settled by one choice. -/
def Shallow (registry : Registry) : Prop :=
  ∀ tag model, registry.content? tag = some model → model.isShallow = true

/-- The plain models that the registry can come to apply. -/
def Applies (registry : Registry) (plain : PlainModel) : Prop :=
  plain ∈ ContentModel.flowContent.plains ∨
    ∃ tag model, registry.content? tag = some model ∧ plain ∈ model.plains

end Registry

/-- A model found among enclosing elements is not transparent, and its plain models are in force. -/
theorem effectiveAmong_applies {registry : Registry} {ancestors : List Place} {model : ContentModel}
    (found : effectiveAmong registry ancestors = some model) :
    ∀ plain ∈ model.plains, registry.Applies plain := by
  induction ancestors with
  | nil =>
    rw [effectiveAmong, Option.some.injEq] at found
    intro plain member
    exact .inl (found ▸ member)
  | cons ancestor rest ih =>
    rw [effectiveAmong] at found
    cases registered : registry.content? ancestor.tag with
    | none => simp [registered] at found
    | some own =>
      simp only [registered] at found
      have inForce : ∀ plain ∈ (own.select ancestor.attributes).plains, registry.Applies plain :=
        fun plain member => .inr ⟨_, own, registered, ContentModel.plains_select member⟩
      cases selected : own.select ancestor.attributes with
      | plain inner => simp_all
      | transparent inner => simp_all
      | whenAttribute name present absent => simp_all

/-- Under shallow models what is found among enclosing elements is plain. -/
theorem effectiveAmong_plain {registry : Registry} (shallow : registry.Shallow)
    {ancestors : List Place} {model : ContentModel}
    (found : effectiveAmong registry ancestors = some model) : ∃ plain, model = .plain plain := by
  induction ancestors with
  | nil => exact ⟨_, (Option.some.inj found).symm⟩
  | cons ancestor rest ih =>
    rw [effectiveAmong] at found
    cases registered : registry.content? ancestor.tag with
    | none => simp [registered] at found
    | some own =>
      have settled := ContentModel.isOpen_select ancestor.attributes (shallow _ own registered)
      cases selected : own.select ancestor.attributes with
      | plain inner => exact ⟨inner, by simp_all⟩
      | transparent inner => exact ih (by simp_all)
      | whenAttribute name present absent => simp [selected, ContentModel.isOpen] at settled

/-- Delegation ends with a plain model in force or with none. -/
theorem delegate_cases {registry : Registry} (shallow : registry.Shallow) (place : Place) :
    delegate registry place = .ok none ∨
      ∃ plain, delegate registry place = .ok (some plain) ∧ registry.Applies plain := by
  rw [delegate, effectiveModel]
  cases found : effectiveAmong registry (Subject.element place).ancestors with
  | none => exact .inl rfl
  | some model =>
    obtain ⟨plain, rfl⟩ := effectiveAmong_plain shallow found
    exact .inr ⟨plain, rfl, effectiveAmong_applies found plain (by simp [ContentModel.plains])⟩

/-- A content check returns. -/
theorem ContentModel.check_returns {registry : Registry} (shallow : registry.Shallow)
    (place : Place) (model : ContentModel) : Returns (model.check registry place) := by
  rw [check]
  cases model.resolve place.attributes with
  | plain inner => exact returns_ok _
  | transparent handing =>
    rcases delegate_cases shallow place with equal | ⟨plain, equal, _⟩
    · simp only [checkDelegated, equal]
      exact returns_ok _
    · simp only [checkDelegated, equal]
      exact returns_ok _

/-- The question whether a model accepts a category is answered. -/
theorem ContentModel.accepts_returns {registry : Registry} (shallow : registry.Shallow)
    (place : Place) (category : Category) (model : ContentModel) :
    Returns (model.accepts registry place category) := by
  rw [accepts]
  cases model.resolve place.attributes with
  | plain inner => exact returns_ok _
  | transparent handing =>
    rcases delegate_cases shallow place with equal | ⟨plain, equal, _⟩
    · simp only [equal]
      exact returns_ok _
    · simp only [equal]
      exact returns_ok _

/-! ## Context rules -/

/-- A requirement with a stated condition is met by an element or not. -/
theorem Requirement.failure_returns {registry : Registry} (shallow : registry.Shallow)
    (place : Place) {requirement : Requirement} (stated : requirement ≠ .unstated) :
    Returns (requirement.failure registry (.element place)) := by
  have above : ∀ category ancestors,
      Returns (expectedAbove registry place category ancestors) := by
    intro category ancestors
    induction ancestors with
    | nil => exact returns_ok _
    | cons ancestor rest ih =>
      rw [expectedAbove]
      split
      · exact returns_ok _
      · cases registry.content? ancestor.tag with
        | none => exact ih
        | some model =>
          obtain ⟨accepted, equal⟩ := model.accepts_returns shallow ancestor category
          simp only [equal]
          cases accepted <;> exact returns_ok _
  change Returns (requirement.failureAt registry place)
  unfold failureAt
  cases place.ancestors with
  | nil => cases requirement <;> exact returns_ok _
  | cons parent further =>
    cases requirement with
    | expected category =>
      simp only [expectedViolation]
      split
      · exact returns_ok _
      · exact above category further
    | unstated => exact absurd rfl stated
    | _ => exact returns_ok _

namespace ContextRule

mutual

/-- Whether a rule states all its conditions: none is left out and there are alternatives where
alternatives are asked for. -/
def stated : ContextRule → Bool
  | require requirement _ => decide (requirement ≠ .unstated)
  | anyOf rules _ => !rules.isEmpty && allStated rules
  | byAttribute branches otherwise => allStated otherwise && branchesStated branches

/-- Whether some rules state all their conditions. -/
def allStated : List ContextRule → Bool
  | [] => true
  | rule :: rest => rule.stated && allStated rest

/-- Whether the rules of some branches state all their conditions. -/
def branchesStated : List (AttributeTest × List ContextRule) → Bool
  | [] => true
  | (_, rules) :: rest => allStated rules && branchesStated rest

end

/-- The diagnostics for an outcome are returned if there is one. -/
theorem reports_returns (subject : Subject) (severity : Severity)
    {outcome : Except RuleFault (Option Violation)} (returns : Returns outcome) :
    Returns (reports subject severity outcome) := by
  obtain ⟨violation, rfl⟩ := returns
  cases violation <;> exact returns_ok _

variable {registry : Registry}

mutual

/-- The first violation of a stated rule is found. -/
theorem failure_returns (shallow : registry.Shallow) (place : Place) :
    (rule : ContextRule) → rule.stated = true →
    Returns (rule.failure registry (.element place))
  | require requirement _, isStated => by
    rw [failure]
    exact requirement.failure_returns shallow place (by simpa [stated] using isStated)
  | anyOf rules _, isStated => by
    rw [stated, Bool.and_eq_true] at isStated
    rw [failure]
    split
    · exact returns_ok _
    · exact failureOfAll_returns shallow place rules (by simpa using isStated.1) isStated.2
  | byAttribute branches otherwise, isStated => by
    rw [stated, Bool.and_eq_true] at isStated
    rw [failure]
    exact failureOfBranches_returns shallow place _
      (firstFailure_returns shallow place otherwise isStated.1) branches isStated.2

/-- Stated alternatives are decided if there are any. -/
theorem failureOfAll_returns (shallow : registry.Shallow) (place : Place) :
    (rules : List ContextRule) → rules ≠ [] → allStated rules = true →
    Returns (failureOfAll registry (.element place) rules)
  | [], nonempty, _ => absurd rfl nonempty
  | rule :: rest, _, isStated => by
    rw [allStated, Bool.and_eq_true] at isStated
    obtain ⟨violation, equal⟩ := failure_returns shallow place rule isStated.1
    rw [failureOfAll, equal]
    cases violation with
    | none => exact returns_ok _
    | some violation => exact failureUnlessAny_returns shallow place violation rest isStated.2

/-- Further stated alternatives are decided. -/
theorem failureUnlessAny_returns (shallow : registry.Shallow) (place : Place)
    (violation : Violation) : (rules : List ContextRule) → allStated rules = true →
    Returns (failureUnlessAny registry (.element place) violation rules)
  | [], _ => by
    rw [failureUnlessAny]
    exact returns_ok _
  | rule :: rest, isStated => by
    rw [allStated, Bool.and_eq_true] at isStated
    obtain ⟨other, equal⟩ := failure_returns shallow place rule isStated.1
    rw [failureUnlessAny, equal]
    cases other with
    | none => exact returns_ok _
    | some _ => exact failureUnlessAny_returns shallow place violation rest isStated.2

/-- The first violation of stated rules is found. -/
theorem firstFailure_returns (shallow : registry.Shallow) (place : Place) :
    (rules : List ContextRule) → allStated rules = true →
    Returns (firstFailure registry (.element place) rules)
  | [], _ => by
    rw [firstFailure]
    exact returns_ok _
  | rule :: rest, isStated => by
    rw [allStated, Bool.and_eq_true] at isStated
    obtain ⟨violation, equal⟩ := failure_returns shallow place rule isStated.1
    rw [firstFailure, equal]
    cases violation with
    | none => exact firstFailure_returns shallow place rest isStated.2
    | some violation => exact returns_ok _

/-- The first violation in the branch chosen by the attributes is found. -/
theorem failureOfBranches_returns (shallow : registry.Shallow) (place : Place)
    (otherwise : Except RuleFault (Option Violation)) (returns : Returns otherwise) :
    (branches : List (AttributeTest × List ContextRule)) → branchesStated branches = true →
    Returns (failureOfBranches registry (.element place) otherwise branches)
  | [], _ => by
    rw [failureOfBranches]
    exact returns
  | (test, rules) :: rest, isStated => by
    rw [branchesStated, Bool.and_eq_true] at isStated
    simp only [failureOfBranches, Subject.attributes?]
    split
    · exact firstFailure_returns shallow place rules isStated.1
    · exact failureOfBranches_returns shallow place otherwise returns rest isStated.2

end

mutual

/-- A stated rule returns its diagnostics. -/
theorem check_returns (shallow : registry.Shallow) (place : Place) :
    (rule : ContextRule) → rule.stated = true →
    Returns (rule.check registry (.element place))
  | require requirement severity, isStated => by
    rw [check]
    exact reports_returns _ _
      (requirement.failure_returns shallow place (by simpa [stated] using isStated))
  | anyOf rules severity, isStated => by
    rw [check]
    exact reports_returns _ _ (failure_returns shallow place (.anyOf rules severity) isStated)
  | byAttribute branches otherwise, isStated => by
    rw [stated, Bool.and_eq_true] at isStated
    rw [check]
    exact checkBranches_returns shallow place _
      (checkAll_returns shallow place otherwise isStated.1) branches isStated.2

/-- Stated rules return their diagnostics. -/
theorem checkAll_returns (shallow : registry.Shallow) (place : Place) :
    (rules : List ContextRule) → allStated rules = true →
    Returns (checkAll registry (.element place) rules)
  | [], _ => by
    rw [checkAll]
    exact returns_ok _
  | rule :: rest, isStated => by
    rw [allStated, Bool.and_eq_true] at isStated
    obtain ⟨found, equal⟩ := check_returns shallow place rule isStated.1
    obtain ⟨more, moreEqual⟩ := checkAll_returns shallow place rest isStated.2
    rw [checkAll, equal, moreEqual]
    exact returns_ok _

/-- The branch chosen by the attributes returns its diagnostics. -/
theorem checkBranches_returns (shallow : registry.Shallow) (place : Place)
    (otherwise : Except RuleFault (List Diagnostic)) (returns : Returns otherwise) :
    (branches : List (AttributeTest × List ContextRule)) → branchesStated branches = true →
    Returns (checkBranches registry (.element place) otherwise branches)
  | [], _ => by
    rw [checkBranches]
    exact returns
  | (test, rules) :: rest, isStated => by
    rw [branchesStated, Bool.and_eq_true] at isStated
    simp only [checkBranches, Subject.attributes?]
    split
    · exact checkAll_returns shallow place rules isStated.1
    · exact checkBranches_returns shallow place otherwise returns rest isStated.2

end

end ContextRule

/-! ## The built-in rules -/

/-- The built-in content models are settled by one choice. -/
theorem Registry.builtin_shallow : Registry.builtin.Shallow := by
  have listed : ∀ entry ∈ Rulebook.entries, entry.content.all ContentModel.isShallow = true := by
    decide +kernel
  intro tag model inForce
  obtain ⟨entry, member, _, content⟩ := mem_of_builtin_content inForce
  simpa [content] using listed entry member

/-- The built-in context rules state all their conditions. -/
theorem Registry.builtin_stated (tag : Tag) :
    ContextRule.allStated (Registry.builtin.entry tag).contexts = true := by
  have listed : ∀ entry ∈ Rulebook.entries, ContextRule.allStated entry.contexts = true := by
    decide +kernel
  rcases builtin_entry_cases tag with ⟨member, _⟩ | permissive
  · exact listed _ member
  · rw [permissive]
    rfl

/-- The context check of an element under the built-in rules returns. -/
theorem Registry.builtin_checkContext_returns (tag : Tag) (place : Place) :
    Returns ((Registry.builtin.entry tag).checkContext Registry.builtin (.element place)) :=
  ContextRule.checkAll_returns builtin_shallow place _ (builtin_stated tag)

/-- The content check of an element under the built-in rules returns. -/
theorem Registry.builtin_checkContent_returns (tag : Tag) (place : Place) :
    Returns ((Registry.builtin.entry tag).checkContent Registry.builtin (.element place)) := by
  rw [RuleEntry.checkContent]
  cases (Registry.builtin.entry tag).content with
  | none => exact returns_ok _
  | some model => exact model.check_returns builtin_shallow place

end HtmlNesting
