import HtmlNesting.Fault

/-!
# Joining the findings of a check

`gather` makes one check after another and joins what they find. It returns exactly if every check
does (`returns_gather_iff`), and then with the findings of all of them in order; otherwise it ends
with the fault of the first check that has one.
-/

namespace HtmlNesting

/-- A check that returns a result. -/
def Returns {ε α : Type} (outcome : Except ε α) : Prop :=
  ∃ result, outcome = .ok result

theorem returns_ok {ε α : Type} (result : α) : Returns (.ok result : Except ε α) :=
  ⟨result, rfl⟩

section

variable {α β ε : Type} {check : α → Except ε (List β)}

/-- Findings are joined exactly if the check returns for every item, and then in order. -/
theorem gather_eq_ok_iff {items : List α} {found : List β} :
    gather check items = .ok found ↔
      ∃ findings : α → List β,
        (∀ item ∈ items, check item = .ok (findings item)) ∧ found = items.flatMap findings := by
  constructor
  · intro equal
    refine ⟨fun item => (check item).toOption.getD [], ?_⟩
    induction items generalizing found with
    | nil => simpa [gather] using equal.symm
    | cons item rest ih =>
      rw [gather] at equal
      cases own : check item with
      | error fault => simp [own] at equal
      | ok head =>
        cases others : gather check rest with
        | error fault => simp [own, others] at equal
        | ok more =>
          obtain ⟨returned, joined⟩ := ih others
          simp only [own, others, Except.ok.injEq] at equal
          refine ⟨?_, by simp [← equal, joined, own, Except.toOption]⟩
          intro other member
          rcases List.mem_cons.mp member with rfl | member
          · simp [own, Except.toOption]
          · exact returned other member
  · rintro ⟨findings, returned, rfl⟩
    induction items with
    | nil => rfl
    | cons item rest ih =>
      rw [gather, returned item (by simp), ih fun other member => returned other (by simp [member])]
      rfl

/-- Joining findings ends with the fault of the first item whose check ends with one. -/
theorem gather_eq_error_iff {items : List α} {fault : ε} :
    gather check items = .error fault ↔
      ∃ earlier item later, items = earlier ++ item :: later ∧
        (∀ other ∈ earlier, Returns (check other)) ∧ check item = .error fault := by
  induction items with
  | nil => simp [gather]
  | cons head rest ih =>
    rw [gather]
    cases own : check head with
    | error first =>
      constructor
      · intro equal
        exact ⟨[], head, rest, rfl, by simp, by simpa [own] using equal⟩
      · rintro ⟨earlier, item, later, split, returns, faulty⟩
        cases earlier with
        | nil =>
          cases split
          simpa [own] using faulty
        | cons other earlier =>
          cases split
          obtain ⟨found, equal⟩ := returns head (by simp)
          simp [own] at equal
    | ok found =>
      constructor
      · intro equal
        have tailFaulty : gather check rest = .error fault := by
          cases others : gather check rest with
          | error other => simpa [others] using equal
          | ok more => simp [others] at equal
        obtain ⟨earlier, item, later, rfl, returns, faulty⟩ := ih.mp tailFaulty
        refine ⟨head :: earlier, item, later, rfl, ?_, faulty⟩
        intro other member
        rcases List.mem_cons.mp member with rfl | member
        · exact ⟨found, own⟩
        · exact returns other member
      · rintro ⟨earlier, item, later, split, returns, faulty⟩
        cases earlier with
        | nil =>
          cases split
          simp [own] at faulty
        | cons other earlier =>
          cases split
          rw [ih.mpr ⟨earlier, item, later, rfl,
            fun other member => returns other (by simp [member]), faulty⟩]

theorem returns_gather_iff {items : List α} :
    Returns (gather check items) ↔ ∀ item ∈ items, Returns (check item) := by
  constructor
  · rintro ⟨found, joined⟩ item member
    obtain ⟨findings, returned, -⟩ := gather_eq_ok_iff.mp joined
    exact ⟨findings item, returned item member⟩
  · intro returns
    have own : ∀ item ∈ items, check item = .ok ((check item).toOption.getD []) := by
      intro item member
      obtain ⟨found, returned⟩ := returns item member
      simp [returned, Except.toOption]
    exact ⟨_, gather_eq_ok_iff.mpr ⟨_, own, rfl⟩⟩

/-- What is joined is what the checks find. -/
theorem mem_of_gather {items : List α} {found : List β} (joined : gather check items = .ok found)
    {finding : β} :
    finding ∈ found ↔ ∃ item ∈ items, ∃ own, check item = .ok own ∧ finding ∈ own := by
  obtain ⟨findings, returned, rfl⟩ := gather_eq_ok_iff.mp joined
  rw [List.mem_flatMap]
  constructor
  · rintro ⟨item, member, inside⟩
    exact ⟨item, member, findings item, returned item member, inside⟩
  · rintro ⟨item, member, own, isOwn, inside⟩
    rw [returned item member] at isOwn
    exact ⟨item, member, Except.ok.inj isOwn ▸ inside⟩

/-- A fault is that of one of the checks. -/
theorem exists_of_gather_error {items : List α} {fault : ε}
    (failed : gather check items = .error fault) : ∃ item ∈ items, check item = .error fault := by
  obtain ⟨earlier, item, later, rfl, -, faulty⟩ := gather_eq_error_iff.mp failed
  exact ⟨item, by simp, faulty⟩

end

/-- Joining findings depends on the outcomes of the checks. -/
theorem gather_congr {α β ε : Type} {check : α → Except ε (List β)} {first second : List α}
    (same : first.map check = second.map check) : gather check first = gather check second := by
  induction first generalizing second with
  | nil =>
    cases second with
    | nil => rfl
    | cons => simp at same
  | cons item rest ih =>
    cases second with
    | nil => simp at same
    | cons other others =>
      rw [List.map_cons, List.map_cons, List.cons.injEq] at same
      rw [gather, gather, same.1, ih same.2]

end HtmlNesting
