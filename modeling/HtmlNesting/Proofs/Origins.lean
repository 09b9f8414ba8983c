import HtmlNesting.Content.Check
import HtmlNesting.Context.Check

/-!
# Where findings come from

However context rules are combined, what fails in the end is a single requirement.
`ContextRule.sources` lists the requirements of a rule, each with the severity that its failure is
reported with; alternatives report with a severity of their own, whatever that of the rules among
them. A violation of a rule is that of one of its sources (`source_of_failure`), and so is every
finding (`source_of_mem_check`). What is to be said about all findings of a rule is therefore said
about its sources.

Likewise a content check comes down to plain models: that of the element itself, or the one that a
transparent element delegates to (`ContentModel.origin_of_mem_check`).
-/

namespace HtmlNesting

namespace ContextRule

mutual

/-- The requirements that a rule comes down to, each with the severity of the reports on it. -/
def sources : ContextRule → List (Requirement × Severity)
  | require requirement severity => [(requirement, severity)]
  | anyOf rules severity => (sourcesOfRules rules).map fun source => (source.1, severity)
  | byAttribute branches otherwise => sourcesOfRules otherwise ++ sourcesOfBranches branches

/-- The requirements that some rules come down to. -/
def sourcesOfRules : List ContextRule → List (Requirement × Severity)
  | [] => []
  | rule :: rest => rule.sources ++ sourcesOfRules rest

/-- The requirements that the rules of some branches come down to. -/
def sourcesOfBranches : List (AttributeTest × List ContextRule) → List (Requirement × Severity)
  | [] => []
  | (_, rules) :: rest => sourcesOfRules rules ++ sourcesOfBranches rest

end

/-- An element violates one of some requirements in a certain way. -/
def Violates (registry : Registry) (place : Place) (sources : List (Requirement × Severity))
    (violation : Violation) : Prop :=
  ∃ source ∈ sources, source.1.failureAt registry place = .ok (some violation)

/-- A finding is the report on the violation of one of some requirements. -/
def Reports (registry : Registry) (place : Place) (sources : List (Requirement × Severity))
    (finding : Diagnostic) : Prop :=
  ∃ source ∈ sources, ∃ violation,
    source.1.failureAt registry place = .ok (some violation) ∧
      finding = report (.element place) source.2 violation

variable {registry : Registry} {place : Place} {sources others : List (Requirement × Severity)}
  {violation : Violation} {finding : Diagnostic}

theorem violates_append :
    Violates registry place (sources ++ others) violation ↔
      Violates registry place sources violation ∨ Violates registry place others violation := by
  simp only [Violates, List.mem_append, or_and_right, exists_or]

theorem reports_append :
    Reports registry place (sources ++ others) finding ↔
      Reports registry place sources finding ∨ Reports registry place others finding := by
  simp only [Reports, List.mem_append, or_and_right, exists_or]

/-- A failure that no further alternative excuses is the given one. -/
theorem eq_of_failureUnlessAny {subject : Subject} {first : Violation} {rules : List ContextRule}
    (failed : failureUnlessAny registry subject first rules = .ok (some violation)) :
    violation = first := by
  induction rules with
  | nil =>
    rw [failureUnlessAny] at failed
    cases failed
    rfl
  | cons rule rest ih =>
    rw [failureUnlessAny] at failed
    split at failed
    · cases failed
    · cases failed
    · exact ih failed

mutual

/-- A rule is violated by the violation of one of its requirements. -/
theorem source_of_failure : (rule : ContextRule) →
    rule.failure registry (.element place) = .ok (some violation) →
    Violates registry place rule.sources violation
  | require requirement severity, failed => by
    rw [failure] at failed
    exact ⟨(requirement, severity), by simp [ContextRule.sources], failed⟩
  | anyOf rules severity, failed => by
    rw [failure] at failed
    split at failed
    · cases failed
    · obtain ⟨source, listed, violated⟩ := source_of_failureOfAll rules failed
      rw [ContextRule.sources]
      exact ⟨(source.1, severity), List.mem_map_of_mem listed, violated⟩
  | byAttribute branches otherwise, failed => by
    rw [failure] at failed
    rw [ContextRule.sources, violates_append]
    exact (source_of_failureOfBranches branches failed).imp_left (source_of_firstFailure otherwise)

/-- Alternatives that all fail do so by the violation of a requirement of one of them. -/
theorem source_of_failureOfAll : (rules : List ContextRule) →
    failureOfAll registry (.element place) rules = .ok (some violation) →
    Violates registry place (sourcesOfRules rules) violation
  | [], failed => by cases failed
  | rule :: rest, failed => by
    rw [failureOfAll] at failed
    rw [sourcesOfRules, violates_append]
    left
    cases outcome : rule.failure registry (.element place) with
    | error fault => simp [outcome] at failed
    | ok first =>
      cases first with
      | none => simp [outcome] at failed
      | some first =>
        simp only [outcome] at failed
        obtain rfl := eq_of_failureUnlessAny failed
        exact source_of_failure rule outcome

/-- The first failure of some rules is the violation of a requirement of one of them. -/
theorem source_of_firstFailure : (rules : List ContextRule) →
    firstFailure registry (.element place) rules = .ok (some violation) →
    Violates registry place (sourcesOfRules rules) violation
  | [], failed => by cases failed
  | rule :: rest, failed => by
    rw [firstFailure] at failed
    rw [sourcesOfRules, violates_append]
    cases outcome : rule.failure registry (.element place) with
    | error fault => simp [outcome] at failed
    | ok first =>
      cases first with
      | none => exact .inr (source_of_firstFailure rest (by simpa [outcome] using failed))
      | some first =>
        simp only [outcome] at failed
        exact .inl (source_of_failure rule (outcome.trans failed))

/-- A failure in the chosen branch is the violation of a requirement of one of the branches, unless
no branch was chosen. -/
theorem source_of_failureOfBranches {otherwise : Except RuleFault (Option Violation)} :
    (branches : List (AttributeTest × List ContextRule)) →
    failureOfBranches registry (.element place) otherwise branches = .ok (some violation) →
    otherwise = .ok (some violation) ∨
      Violates registry place (sourcesOfBranches branches) violation
  | [], failed => .inl failed
  | (test, rules) :: rest, failed => by
    simp only [failureOfBranches, Subject.attributes?] at failed
    rw [sourcesOfBranches, violates_append]
    split at failed
    · exact .inr (.inl (source_of_firstFailure rules failed))
    · exact (source_of_failureOfBranches rest failed).imp_right .inr

end

/-- The diagnostics for an outcome are the report on its violation. -/
theorem eq_report_of_mem {subject : Subject} {severity : Severity}
    {outcome : Except RuleFault (Option Violation)} {found : List Diagnostic}
    (returned : reports subject severity outcome = .ok found) (member : finding ∈ found) :
    ∃ violation, outcome = .ok (some violation) ∧
      finding = report subject severity violation := by
  cases outcome with
  | error fault => cases returned
  | ok result =>
    cases result with
    | none =>
      cases returned
      simp at member
    | some violation =>
      cases returned
      exact ⟨violation, rfl, List.mem_singleton.mp member⟩

mutual

/-- The findings of a rule are reports on violations of its requirements. -/
theorem source_of_mem_check {found : List Diagnostic} : (rule : ContextRule) →
    rule.check registry (.element place) = .ok found → finding ∈ found →
    Reports registry place rule.sources finding
  | require requirement severity, returned, member => by
    rw [check] at returned
    obtain ⟨violation, failed, same⟩ := eq_report_of_mem returned member
    exact ⟨(requirement, severity), by simp [ContextRule.sources], violation, failed, same⟩
  | anyOf rules severity, returned, member => by
    rw [check] at returned
    obtain ⟨violation, failed, same⟩ := eq_report_of_mem returned member
    rw [failure] at failed
    split at failed
    · cases failed
    · obtain ⟨source, listed, violated⟩ := source_of_failureOfAll rules failed
      rw [ContextRule.sources]
      exact ⟨(source.1, severity), List.mem_map_of_mem listed, violation, violated, same⟩
  | byAttribute branches otherwise, returned, member => by
    rw [check] at returned
    rw [ContextRule.sources, reports_append]
    exact (source_of_mem_checkBranches branches returned member).imp_left
      fun chosen => source_of_mem_checkAll otherwise chosen member

/-- The findings of some rules are reports on violations of their requirements. -/
theorem source_of_mem_checkAll {found : List Diagnostic} : (rules : List ContextRule) →
    checkAll registry (.element place) rules = .ok found → finding ∈ found →
    Reports registry place (sourcesOfRules rules) finding
  | [], returned, member => by
    rw [checkAll] at returned
    cases returned
    simp at member
  | rule :: rest, returned, member => by
    rw [checkAll] at returned
    rw [sourcesOfRules, reports_append]
    cases own : rule.check registry (.element place) with
    | error fault => simp [own] at returned
    | ok ownFound =>
      cases further : checkAll registry (.element place) rest with
      | error fault => simp [own, further] at returned
      | ok more =>
        simp only [own, further, Except.ok.injEq] at returned
        rw [← returned, List.mem_append] at member
        exact member.imp (source_of_mem_check rule own) (source_of_mem_checkAll rest further)

/-- The findings of the chosen branch are reports on violations of requirements of the branches,
unless no branch was chosen. -/
theorem source_of_mem_checkBranches {otherwise : Except RuleFault (List Diagnostic)}
    {found : List Diagnostic} : (branches : List (AttributeTest × List ContextRule)) →
    checkBranches registry (.element place) otherwise branches = .ok found → finding ∈ found →
    otherwise = .ok found ∨ Reports registry place (sourcesOfBranches branches) finding
  | [], returned, _ => .inl returned
  | (test, rules) :: rest, returned, member => by
    simp only [checkBranches, Subject.attributes?] at returned
    rw [sourcesOfBranches, reports_append]
    split at returned
    · exact .inr (.inl (source_of_mem_checkAll rules returned member))
    · exact (source_of_mem_checkBranches rest returned member).imp_right .inr

end

end ContextRule

/-! ## Content -/

section

variable {registry : Registry} {place : Place} {found : List Diagnostic} {finding : Diagnostic}

/-- The delegated check finds what the model finds that is delegated to. -/
theorem mem_delegate_of_mem_checkDelegated {children : List Node}
    (returned : checkDelegated registry place children = .ok found) (member : finding ∈ found) :
    ∃ plain, delegate registry place = .ok (some plain) ∧
      finding ∈ plain.checkChildren place.start children := by
  rw [checkDelegated] at returned
  cases outcome : delegate registry place with
  | error fault => simp [outcome] at returned
  | ok delegated =>
    cases delegated with
    | none =>
      simp only [outcome, Except.ok.injEq] at returned
      simp [← returned] at member
    | some plain =>
      simp only [outcome, Except.ok.injEq] at returned
      exact ⟨plain, rfl, returned ▸ member⟩

/-- A finding of a content check comes from the plain model of the element. If the element is
transparent, it is about a forbidden child or an excluded descendant, or comes from the plain model
that is delegated to. -/
theorem ContentModel.origin_of_mem_check {model : ContentModel}
    (returned : model.check registry place = .ok found) (member : finding ∈ found) :
    (∃ plain, model.resolve place.attributes = .plain plain ∧ finding ∈ plain.check place) ∨
      ∃ handing, model.resolve place.attributes = .transparent handing ∧
        (finding ∈ handing.forbiddenReports place.start place.children ∨
          finding ∈ scanFor handing.exclude place ∨
          ∃ plain, delegate registry place = .ok (some plain) ∧
            finding ∈ plain.checkChildren place.start (handing.visible place.children)) := by
  rw [check] at returned
  cases resolved : model.resolve place.attributes with
  | plain plain =>
    simp only [resolved, Except.ok.injEq] at returned
    exact .inl ⟨plain, rfl, returned ▸ member⟩
  | transparent handing =>
    simp only [resolved] at returned
    refine .inr ⟨handing, rfl, ?_⟩
    cases outcome : checkDelegated registry place (handing.visible place.children) with
    | error fault => simp [outcome] at returned
    | ok delegated =>
      simp only [outcome, Except.ok.injEq] at returned
      rw [← returned, List.mem_append, List.mem_append] at member
      rcases member with (forbidden | handedOn) | excluded
      · exact .inl forbidden
      · exact .inr (.inr (mem_delegate_of_mem_checkDelegated outcome handedOn))
      · exact .inr (.inl excluded)

end

end HtmlNesting
