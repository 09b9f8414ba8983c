import HtmlNesting.Proofs.Lookups

/-!
# The two evaluations of a rule agree

`ContextRule.failure` stops at the first violation and `ContextRule.check` collects diagnostics,
each by its own recursion over the rule. `Agree` lists how the two may end together; in particular
the diagnostics begin with the report on the first violation. Only in one case do they part: after
the first violation `check` goes on through the rules of a branch, where it may still meet a fault.
One induction over the structure of a rule shows that they always agree
(`ContextRule.failure_agrees`), for elements and texts and for any registry.

Alternatives are judged by the first violation of each, so by the agreement they are judged by the
diagnostics of each as well.
-/

namespace HtmlNesting

namespace ContextRule

/-- How the first violation of a rule and its diagnostics may come out together. -/
inductive Agree (subject : Subject) :
    Except RuleFault (Option Violation) → Except RuleFault (List Diagnostic) → Prop
  | silent : Agree subject (.ok none) (.ok [])
  | reported (violation : Violation) (severity : Severity) (rest : List Diagnostic) :
    Agree subject (.ok (some violation)) (.ok (report subject severity violation :: rest))
  | faulty (fault : RuleFault) : Agree subject (.error fault) (.error fault)
  /-- A fault after the first violation, where one of the two has already stopped. -/
  | parted (violation : Violation) (fault : RuleFault) :
    Agree subject (.ok (some violation)) (.error fault)

namespace Agree

variable {subject : Subject} {outcome : Except RuleFault (Option Violation)}
  {checked : Except RuleFault (List Diagnostic)}

/-- A rule that makes one report at most agrees with what it reports. -/
theorem reports (subject : Subject) (severity : Severity)
    (outcome : Except RuleFault (Option Violation)) :
    Agree subject outcome (ContextRule.reports subject severity outcome) := by
  cases outcome with
  | error fault => exact .faulty fault
  | ok result =>
    cases result with
    | none => exact .silent
    | some violation => exact .reported violation severity []

theorem ok_none_iff (agree : Agree subject outcome checked) :
    outcome = .ok none ↔ checked = .ok [] := by
  cases agree <;> simp

theorem error_of_error (agree : Agree subject outcome checked) {fault : RuleFault}
    (faulty : outcome = .error fault) : checked = .error fault := by
  cases agree <;> simp_all

theorem exists_report (agree : Agree subject outcome checked) {violation : Violation}
    {found : List Diagnostic} (failed : outcome = .ok (some violation))
    (returned : checked = .ok found) :
    ∃ severity rest, found = report subject severity violation :: rest := by
  cases agree with
  | reported other severity rest =>
    cases failed
    cases returned
    exact ⟨severity, rest, rfl⟩
  | _ => simp_all

/-- Where diagnostics are returned, there is a first violation or none. -/
theorem returns (agree : Agree subject outcome checked) (returned : Returns checked) :
    Returns outcome := by
  obtain ⟨found, rfl⟩ := returned
  cases agree <;> exact returns_ok _

end Agree

variable {registry : Registry} {subject : Subject}

mutual

/-- The first violation of a rule agrees with its diagnostics. -/
theorem failure_agrees : (rule : ContextRule) →
    Agree subject (rule.failure registry subject) (rule.check registry subject)
  | require requirement severity => by
    rw [failure, check]
    exact .reports subject severity _
  | anyOf rules severity => by
    rw [check]
    exact .reports subject severity _
  | byAttribute branches otherwise => by
    rw [failure, check]
    exact failureOfBranches_agrees (firstFailure_agrees otherwise) branches

/-- The first violation of some rules agrees with the diagnostics of all of them. -/
theorem firstFailure_agrees : (rules : List ContextRule) →
    Agree subject (firstFailure registry subject rules) (checkAll registry subject rules)
  | [] => by
    rw [firstFailure, checkAll]
    exact .silent
  | rule :: rest => by
    have head := failure_agrees rule
    have tail := firstFailure_agrees rest
    rw [firstFailure, checkAll]
    generalize rule.failure registry subject = outcome at head ⊢
    generalize rule.check registry subject = checked at head ⊢
    generalize checkAll registry subject rest = more at tail ⊢
    cases head with
    | silent => cases more <;> exact tail
    | reported violation severity found =>
      cases more with
      | error fault => exact .parted violation fault
      | ok others => exact .reported violation severity (found ++ others)
    | faulty fault => exact .faulty fault
    | parted violation fault => exact .parted violation fault

/-- The first violation in the branch chosen by the attributes agrees with its diagnostics. -/
theorem failureOfBranches_agrees {outcome : Except RuleFault (Option Violation)}
    {checked : Except RuleFault (List Diagnostic)} (otherwise : Agree subject outcome checked) :
    (branches : List (AttributeTest × List ContextRule)) →
    Agree subject (failureOfBranches registry subject outcome branches)
      (checkBranches registry subject checked branches)
  | [] => by
    rw [failureOfBranches, checkBranches]
    exact otherwise
  | (test, rules) :: rest => by
    rw [failureOfBranches, checkBranches]
    cases subject.attributes? with
    | none => exact .faulty _
    | some attributes =>
      simp only
      split
      · exact firstFailure_agrees rules
      · exact failureOfBranches_agrees otherwise rest

end

/-! ## Alternatives -/

/-- Of further alternatives one holds, or all fail and the given violation stands. -/
theorem failureUnlessAny_cases {violation : Violation} {rules : List ContextRule}
    (returns : ∀ alternative ∈ rules, Returns (alternative.failure registry subject)) :
    (failureUnlessAny registry subject violation rules = .ok none ∧
      ∃ alternative ∈ rules, alternative.failure registry subject = .ok none) ∨
    (failureUnlessAny registry subject violation rules = .ok (some violation) ∧
      ∀ alternative ∈ rules, alternative.failure registry subject ≠ .ok none) := by
  induction rules with
  | nil =>
    rw [failureUnlessAny]
    exact .inr ⟨rfl, by simp⟩
  | cons rule rest ih =>
    rw [List.forall_mem_cons] at returns
    obtain ⟨⟨own, outcome⟩, others⟩ := returns
    rw [failureUnlessAny, outcome]
    cases own with
    | none => exact .inl ⟨rfl, rule, List.mem_cons_self, outcome⟩
    | some other =>
      rcases ih others with ⟨holds, alternative, member, met⟩ | ⟨fails, unmet⟩
      · exact .inl ⟨holds, alternative, List.mem_cons_of_mem _ member, met⟩
      · exact .inr ⟨fails, List.forall_mem_cons.mpr ⟨by simp [outcome], unmet⟩⟩

/-- Of some alternatives one holds, or all fail and the first one's violation stands. -/
theorem failureOfAll_cases {first : ContextRule} {others : List ContextRule}
    (returns : ∀ alternative ∈ first :: others,
      Returns (alternative.failure registry subject)) :
    (failureOfAll registry subject (first :: others) = .ok none ∧
      ∃ alternative ∈ first :: others, alternative.failure registry subject = .ok none) ∨
    (∃ violation, first.failure registry subject = .ok (some violation) ∧
      failureOfAll registry subject (first :: others) = .ok (some violation) ∧
      ∀ alternative ∈ first :: others, alternative.failure registry subject ≠ .ok none) := by
  obtain ⟨⟨own, outcome⟩, further⟩ := List.forall_mem_cons.mp returns
  rw [failureOfAll, outcome]
  cases own with
  | none => exact .inl ⟨rfl, first, List.mem_cons_self, outcome⟩
  | some violation =>
    rcases failureUnlessAny_cases further with ⟨holds, alternative, member, met⟩ | ⟨fails, unmet⟩
    · exact .inl ⟨holds, alternative, List.mem_cons_of_mem _ member, met⟩
    · exact .inr ⟨violation, rfl, fails, List.forall_mem_cons.mpr ⟨by simp [outcome], unmet⟩⟩

/-- Each of some stated rules is stated. -/
theorem stated_of_mem {rules : List ContextRule} (all : allStated rules = true)
    {rule : ContextRule} (member : rule ∈ rules) : rule.stated = true := by
  induction rules with
  | nil => cases member
  | cons head rest ih =>
    rw [allStated, Bool.and_eq_true] at all
    rcases List.mem_cons.mp member with rfl | inRest
    · exact all.1
    · exact ih all.2 inRest

/-- The outcome of a rule gives one diagnostic at most. -/
theorem length_reports_le {severity : Severity} {outcome : Except RuleFault (Option Violation)}
    {found : List Diagnostic} (returned : reports subject severity outcome = .ok found) :
    found.length ≤ 1 := by
  cases outcome with
  | error fault => cases returned
  | ok result => cases result <;> cases returned <;> simp

/-- Alternatives away from the root are silent exactly where the diagnostics of one of them are
none; otherwise they report once, with the code and the message of the first alternative's first
finding. -/
theorem check_anyOf {place : Place} (inside : place.isRoot = false) {first : ContextRule}
    {others : List ContextRule} (severity : Severity)
    (returns : ∀ alternative ∈ first :: others,
      Returns (alternative.check registry (.element place))) :
    (check registry (.element place) (.anyOf (first :: others) severity) = .ok [] ∧
      ∃ alternative ∈ first :: others, alternative.check registry (.element place) = .ok []) ∨
    (∃ violation underlying rest,
      check registry (.element place) (.anyOf (first :: others) severity) =
        .ok [report (.element place) severity violation] ∧
      first.check registry (.element place) =
        .ok (report (.element place) underlying violation :: rest) ∧
      ∀ alternative ∈ first :: others, alternative.check registry (.element place) ≠ .ok []) := by
  have notRoot : (Subject.element place).isRoot = false := place.isRoot_eq_isEmpty.symm.trans inside
  have answered : ∀ alternative ∈ first :: others,
      Returns (alternative.failure registry (.element place)) :=
    fun alternative member => (failure_agrees alternative).returns (returns alternative member)
  rw [check, failure, notRoot, if_neg Bool.false_ne_true]
  rcases failureOfAll_cases answered with
    ⟨holds, alternative, member, met⟩ | ⟨violation, own, fails, unmet⟩
  · rw [holds]
    exact .inl ⟨rfl, alternative, member, (failure_agrees alternative).ok_none_iff.mp met⟩
  · obtain ⟨found, returned⟩ := returns first List.mem_cons_self
    obtain ⟨underlying, rest, rfl⟩ := (failure_agrees first).exists_report own returned
    rw [fails]
    refine .inr ⟨violation, underlying, rest, rfl, returned, ?_⟩
    exact fun alternative member => mt (failure_agrees alternative).ok_none_iff.mpr
      (unmet alternative member)

/-- The two evaluations of a rule agree at every element. Under shallow models both return. There is
no violation exactly where there are no diagnostics, the first violation is what the first
diagnostic reports, at the element, and a fault before it ends both. Outside a choice by attribute
there is one diagnostic at most. Alternatives away from the root are silent exactly where one of
them is, and otherwise report the first finding of the first. -/
theorem evaluations_agree (registry : Registry) {rule : ContextRule} (stated : rule.stated = true)
    (place : Place) :
    let subject := Subject.element place
    let outcome := rule.failure registry subject
    let checked := rule.check registry subject
    (registry.Shallow → Returns outcome ∧ Returns checked) ∧
    (∀ fault, outcome = .error fault → checked = .error fault) ∧
    (outcome = .ok none ↔ checked = .ok []) ∧
    (∀ violation found, outcome = .ok (some violation) → checked = .ok found →
      ∃ first rest, found = first :: rest ∧ first.code = violation.code.name ∧
        first.message = violation.message ∧ first.position = place.start.position ∧
        first.tag = place.start.name) ∧
    ((∀ branches otherwise, rule ≠ .byAttribute branches otherwise) →
      ∀ found, checked = .ok found → found.length ≤ 1) ∧
    (∀ rules severity, rule = .anyOf rules severity → place.isRoot = false →
      (registry.Shallow → ∀ alternative ∈ rules, Returns (alternative.check registry subject)) ∧
      ((∀ alternative ∈ rules, Returns (alternative.check registry subject)) →
        (checked = .ok [] ↔
          ∃ alternative ∈ rules, alternative.check registry subject = .ok []) ∧
        ((∀ alternative ∈ rules, alternative.check registry subject ≠ .ok []) →
          ∃ own alternative others first rest, checked = .ok [own] ∧
            rules = alternative :: others ∧
            alternative.check registry subject = .ok (first :: rest) ∧
            own.code = first.code ∧ own.message = first.message))) := by
  intro subject outcome checked
  have agree : Agree subject outcome checked := failure_agrees rule
  refine ⟨?_, fun fault => agree.error_of_error, agree.ok_none_iff, ?_, ?_, ?_⟩
  · intro shallow
    exact ⟨failure_returns shallow place rule stated, check_returns shallow place rule stated⟩
  · intro violation found failed returned
    obtain ⟨severity, rest, rfl⟩ := agree.exists_report failed returned
    exact ⟨_, rest, rfl, rfl, rfl, rfl, rfl⟩
  · intro unbranched found returned
    cases rule with
    | require requirement severity =>
      exact length_reports_le (by simpa only [checked, check] using returned)
    | anyOf rules severity =>
      exact length_reports_le (by simpa only [checked, check] using returned)
    | byAttribute branches otherwise => exact absurd rfl (unbranched branches otherwise)
  · rintro rules severity rfl inside
    rw [ContextRule.stated, Bool.and_eq_true] at stated
    refine ⟨fun shallow alternative member =>
      check_returns shallow place alternative (stated_of_mem stated.2 member), fun returns => ?_⟩
    obtain ⟨first, others, rfl⟩ := List.exists_cons_of_ne_nil (by simpa using stated.1)
    rcases check_anyOf inside severity returns with
      ⟨silent, met⟩ | ⟨violation, underlying, rest, own, finding, unmet⟩
    · refine ⟨iff_of_true silent met, fun unmet => ?_⟩
      obtain ⟨alternative, member, holds⟩ := met
      exact absurd holds (unmet alternative member)
    · refine ⟨iff_of_false (by simp [checked, subject, own]) ?_, fun _ => ?_⟩
      · rintro ⟨alternative, member, holds⟩
        exact unmet alternative member holds
      · exact ⟨_, first, others, _, rest, own, rfl, finding, rfl, rfl⟩

/-- A track with a label stands in a video and in no division; one without stands in a video too, or
anywhere inside an audio element. -/
def trackRule : ContextRule :=
  .anyOf [
    .byAttribute [(.present "label", [parentIs [.video], .require (.noAncestor [.div]) .warn])]
      [parentIs [.video]],
    .anyOf [parentIs [.audio], .require (.hasAncestor [.audio]) .warn] .warn] .warn

/-- A track with a label that is out of place. -/
def looseTrack : Place where
  start := .named "track" [("label", "en")] {}
  before := []
  after := []
  children := []
  above := [{ start := .named "div", before := [], after := [] }]

theorem evaluations_agree_looseTrack :
    trackRule.stated = true ∧ looseTrack.isRoot = false ∧
      ∃ own, trackRule.check Registry.builtin (.element looseTrack) = .ok [own] ∧
        own.message = "<track> must be a child of <video>, found in <div>" := by
  have stated : trackRule.stated = true := by decide
  obtain ⟨_, _, _, _, _, alternatives⟩ :=
    evaluations_agree Registry.builtin stated looseTrack
  obtain ⟨returns, judged⟩ := alternatives _ _ rfl rfl
  obtain ⟨own, alternative, others, first, rest, reported, listed, found, _, message⟩ :=
    (judged (returns Registry.builtin_shallow)).2 (by
      simp only [List.forall_mem_cons, List.not_mem_nil, false_implies, implies_true, and_true]
      constructor <;> (intro satisfied; cases satisfied))
  obtain ⟨rfl, rfl⟩ := List.cons.inj listed
  cases found
  exact ⟨stated, rfl, own, reported, message.trans (by decide +kernel)⟩

end ContextRule

end HtmlNesting
