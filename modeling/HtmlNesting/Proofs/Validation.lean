import HtmlNesting.Proofs.DocumentOrder
import HtmlNesting.Proofs.Faultless

/-!
# What validation computes

`Registry.validate` is compared with a specification that knows no stack and no sorting algorithm:
the findings of the context check and then of the content check of every element, joined in the
order of the recursion on the tree, and put in the order of positions so that findings at one
position keep theirs. `StablySorted` states the latter, and `StablySorted.unique` shows that nothing
is left open by it.

A registry may hold rules whose check ends with a fault. Validation then ends with the first fault
in document order. Under the built-in rules it always returns.
-/

namespace HtmlNesting

/-! ## The order of reports -/

/-- A position that does not come after another: by line, then by column. -/
def Position.NotAfter (first second : Position) : Prop :=
  first.line < second.line ∨ first.line = second.line ∧ first.column ≤ second.column

theorem Position.NotAfter.antisymm {first second : Position} (forward : first.NotAfter second)
    (backward : second.NotAfter first) : first = second := by
  obtain ⟨line, column⟩ := first
  obtain ⟨otherLine, otherColumn⟩ := second
  simp only [NotAfter] at forward backward
  simp only [Position.mk.injEq]
  omega

namespace Diagnostic

/-- Findings are compared by their positions. -/
theorem reportedBy_iff {first second : Diagnostic} :
    first.reportedBy second = true ↔ first.position.NotAfter second.position := by
  rw [reportedBy, Position.NotAfter]
  split
  · next sameLine => simp [sameLine]
  · next otherLine => simp [otherLine]

theorem reportedBy_trans (first second third : Diagnostic)
    (early : first.reportedBy second = true) (late : second.reportedBy third = true) :
    first.reportedBy third = true := by
  rw [reportedBy_iff, Position.NotAfter] at *
  omega

theorem reportedBy_total (first second : Diagnostic) :
    (first.reportedBy second || second.reportedBy first) = true := by
  rw [Bool.or_eq_true, reportedBy_iff, reportedBy_iff, Position.NotAfter, Position.NotAfter]
  omega

/-- Whether a finding is at a position. -/
def isAt (position : Position) (diagnostic : Diagnostic) : Bool :=
  decide (diagnostic.position = position)

@[simp] theorem isAt_iff {position : Position} {diagnostic : Diagnostic} :
    diagnostic.isAt position = true ↔ diagnostic.position = position :=
  decide_eq_true_iff

end Diagnostic

/-- A list holds the given findings in the order of their positions, and findings at one position in
the given order. -/
structure StablySorted (findings sorted : List Diagnostic) : Prop where
  perm : sorted.Perm findings
  ordered : sorted.Pairwise fun first second => first.position.NotAfter second.position
  stable : ∀ position,
    sorted.filter (Diagnostic.isAt position) = findings.filter (Diagnostic.isAt position)

namespace StablySorted

/-- Merge sort orders findings by position and is stable. -/
theorem of_mergeSort (findings : List Diagnostic) :
    StablySorted findings (findings.mergeSort Diagnostic.reportedBy) where
  perm := List.mergeSort_perm _ _
  ordered := by
    have sorted := List.pairwise_mergeSort Diagnostic.reportedBy_trans
      Diagnostic.reportedBy_total findings
    exact sorted.imp fun related => Diagnostic.reportedBy_iff.mp related
  stable := by
    intro position
    -- The findings at one position are already ordered, so they survive as a sublist.
    have together : (findings.filter (Diagnostic.isAt position)).Pairwise
        fun first second => first.reportedBy second = true := by
      refine List.pairwise_of_forall_mem_list ?_
      intro first firstMember second secondMember
      have firstAt := Diagnostic.isAt_iff.mp (List.mem_filter.mp firstMember).2
      have secondAt := Diagnostic.isAt_iff.mp (List.mem_filter.mp secondMember).2
      rw [Diagnostic.reportedBy_iff, firstAt, secondAt, Position.NotAfter]
      omega
    have kept := List.sublist_mergeSort Diagnostic.reportedBy_trans Diagnostic.reportedBy_total
      together List.filter_sublist
    have keptAt := kept.filter (Diagnostic.isAt position)
    rw [List.filter_filter] at keptAt
    simp only [Bool.and_self] at keptAt
    have sameLength := ((List.mergeSort_perm findings Diagnostic.reportedBy).filter
      (Diagnostic.isAt position)).length_eq
    exact (keptAt.eq_of_length sameLength.symm).symm

/-- Ordered lists with the same findings at every position are the same list. -/
theorem eq_of_filter_eq : {first second : List Diagnostic} →
    first.Pairwise (fun early late => early.position.NotAfter late.position) →
    second.Pairwise (fun early late => early.position.NotAfter late.position) →
    (∀ position, first.filter (Diagnostic.isAt position) =
      second.filter (Diagnostic.isAt position)) → first = second
  | [], [], _, _, _ => rfl
  | [], head :: _, _, _, same => by
    have impossible := same head.position
    simp at impossible
  | head :: _, [], _, _, same => by
    have impossible := same head.position
    simp at impossible
  | head :: tail, other :: rest, firstOrdered, secondOrdered, same => by
    rw [List.pairwise_cons] at firstOrdered secondOrdered
    -- Each head occurs in the other list, so neither comes after the other.
    have headListed : head ∈ other :: rest := by
      have member : head ∈ (head :: tail).filter (Diagnostic.isAt head.position) := by
        simp
      rw [same] at member
      exact (List.mem_filter.mp member).1
    have otherListed : other ∈ head :: tail := by
      have member : other ∈ (other :: rest).filter (Diagnostic.isAt other.position) := by
        simp
      rw [← same] at member
      exact (List.mem_filter.mp member).1
    have samePosition : head.position = other.position := by
      rcases List.mem_cons.mp headListed with equal | headLater
      · rw [equal]
      · rcases List.mem_cons.mp otherListed with equal | otherLater
        · rw [equal]
        · exact (firstOrdered.1 other otherLater).antisymm (secondOrdered.1 head headLater)
    have atHead := same head.position
    rw [List.filter_cons_of_pos (by simp),
      List.filter_cons_of_pos (by simp [samePosition])] at atHead
    obtain ⟨rfl, _⟩ := List.cons.inj atHead
    have tails : tail = rest := by
      refine eq_of_filter_eq firstOrdered.2 secondOrdered.2 fun position => ?_
      have atPosition := same position
      rw [List.filter_cons, List.filter_cons] at atPosition
      split at atPosition
      · exact (List.cons.inj atPosition).2
      · exact atPosition
    rw [tails]

/-- There is only one stable order of findings. -/
theorem unique {findings first second : List Diagnostic} (firstSorted : StablySorted findings first)
    (secondSorted : StablySorted findings second) : first = second :=
  eq_of_filter_eq firstSorted.ordered secondSorted.ordered fun position =>
    (firstSorted.stable position).trans (secondSorted.stable position).symm

end StablySorted

/-! ## Validation -/

namespace Registry

/-- The findings about an element are those of its context and then those of its content. -/
theorem checkPlace_eq_ok_iff {registry : Registry} {place : Place} {found : List Diagnostic} :
    registry.checkPlace place = .ok found ↔
      ∃ context content,
        (registry.entry place.tag).checkContext registry (.element place) = .ok context ∧
        (registry.entry place.tag).checkContent registry (.element place) = .ok content ∧
        found = context ++ content := by
  rw [checkPlace]
  cases (registry.entry place.tag).checkContext registry (.element place) with
  | error fault => simp
  | ok context =>
    cases (registry.entry place.tag).checkContent registry (.element place) with
    | error fault => simp
    | ok content => simp [eq_comm]

/-- The findings about all elements, each with its context first, in document order. -/
theorem gather_checkPlace_eq_ok_iff {registry : Registry} {places : List Place}
    {found : List Diagnostic} :
    gather registry.checkPlace places = .ok found ↔
      ∃ context content : Place → List Diagnostic,
        (∀ place ∈ places,
          (registry.entry place.tag).checkContext registry (.element place) =
            .ok (context place) ∧
          (registry.entry place.tag).checkContent registry (.element place) =
            .ok (content place)) ∧
        found = places.flatMap fun place => context place ++ content place := by
  rw [gather_eq_ok_iff]
  constructor
  · rintro ⟨findings, returned, rfl⟩
    refine ⟨
      fun place =>
        ((registry.entry place.tag).checkContext registry (.element place)).toOption.getD [],
      fun place =>
        ((registry.entry place.tag).checkContent registry (.element place)).toOption.getD [],
      ?_, ?_⟩
    · intro place member
      obtain ⟨context, content, contextReturned, contentReturned, _⟩ :=
        checkPlace_eq_ok_iff.mp (returned place member)
      simp [contextReturned, contentReturned, Except.toOption]
    · rw [List.flatMap_def, List.flatMap_def]
      refine congrArg _ (List.map_congr_left fun place member => ?_)
      obtain ⟨context, content, contextReturned, contentReturned, joined⟩ :=
        checkPlace_eq_ok_iff.mp (returned place member)
      simp [contextReturned, contentReturned, joined, Except.toOption]
  · rintro ⟨context, content, returned, rfl⟩
    refine ⟨fun place => context place ++ content place, fun place member => ?_, rfl⟩
    exact checkPlace_eq_ok_iff.mpr
      ⟨_, _, (returned place member).1, (returned place member).2, rfl⟩

/-- Every element passes the built-in checks without a fault. -/
theorem builtin_checkPlace_returns (place : Place) :
    Returns (Registry.builtin.checkPlace place) := by
  obtain ⟨context, contextReturned⟩ := builtin_checkContext_returns place.tag place
  obtain ⟨content, contentReturned⟩ := builtin_checkContent_returns place.tag place
  exact ⟨_, checkPlace_eq_ok_iff.mpr ⟨_, _, contextReturned, contentReturned, rfl⟩⟩

/-- Validation under the built-in rules returns. -/
theorem builtin_validate_returns (tree : Tree) : Returns (Registry.builtin.validate tree) := by
  rw [validate]
  cases outcome : gather Registry.builtin.checkPlace tree.visited with
  | ok findings => exact returns_ok _
  | error fault =>
    obtain ⟨_, place, _, _, _, faulty⟩ := gather_eq_error_iff.mp outcome
    obtain ⟨found, returned⟩ := builtin_checkPlace_returns place
    rw [returned] at faulty
    cases faulty

/-- Under the built-in rules the context and the content of every element have their findings, and
validation of any tree joins those of its elements. -/
theorem builtin_findings : ∃ context content : Place → List Diagnostic,
    (∀ place, (Registry.builtin.entry place.tag).checkContext Registry.builtin (.element place) =
      .ok (context place)) ∧
    (∀ place, (Registry.builtin.entry place.tag).checkContent Registry.builtin (.element place) =
      .ok (content place)) ∧
    ∀ tree : Tree, ∃ findings, Registry.builtin.validate tree = .ok findings ∧
      StablySorted (tree.places.flatMap fun place => context place ++ content place) findings := by
  obtain ⟨context, contextReturned⟩ := Classical.skolem.mp fun place : Place =>
    builtin_checkContext_returns place.tag place
  obtain ⟨content, contentReturned⟩ := Classical.skolem.mp fun place : Place =>
    builtin_checkContent_returns place.tag place
  refine ⟨context, content, contextReturned, contentReturned, fun tree => ⟨_, ?_,
    StablySorted.of_mergeSort _⟩⟩
  rw [validate, tree.visited_eq_places, gather_checkPlace_eq_ok_iff.mpr ⟨context, content,
    fun place _ => ⟨contextReturned place, contentReturned place⟩, rfl⟩]

/-- Validation visits every element of a tree once, in the order of the recursion on the tree, which
is also that of the walk. Its result is the stable order by position of the findings about the
context and then the content of each element in turn. It ends with a fault exactly if some check
does, the first one in that order, and never under the built-in rules. -/
theorem validate_computes_specification (registry : Registry) (tree : Tree) :
    (tree.visited = tree.places ∧ tree.walk = tree.places ∧ tree.visited.Nodup ∧
      ∀ place, place ∈ tree.visited ↔ tree.Holds place) ∧
    (∀ result, registry.validate tree = .ok result ↔
      ∃ context content : Place → List Diagnostic,
        (∀ place ∈ tree.places,
          (registry.entry place.tag).checkContext registry (.element place) =
            .ok (context place) ∧
          (registry.entry place.tag).checkContent registry (.element place) =
            .ok (content place)) ∧
        StablySorted (tree.places.flatMap fun place => context place ++ content place) result) ∧
    (∀ fault, registry.validate tree = .error fault ↔
      ∃ earlier place later, tree.places = earlier ++ place :: later ∧
        (∀ other ∈ earlier, Returns (registry.checkPlace other)) ∧
        registry.checkPlace place = .error fault) ∧
    Returns (Registry.builtin.validate tree) := by
  refine ⟨⟨tree.visited_eq_places, tree.walk_eq_places, tree.nodup_visited,
    fun place => Tree.mem_visited⟩, ?_, ?_, builtin_validate_returns tree⟩
  · intro result
    rw [validate, tree.visited_eq_places]
    constructor
    · intro returned
      cases outcome : gather registry.checkPlace tree.places with
      | error fault => simp [outcome] at returned
      | ok findings =>
        obtain ⟨context, content, checked, rfl⟩ := gather_checkPlace_eq_ok_iff.mp outcome
        simp only [outcome, Except.ok.injEq] at returned
        exact ⟨context, content, checked, returned ▸ StablySorted.of_mergeSort _⟩
    · rintro ⟨context, content, checked, sorted⟩
      rw [gather_checkPlace_eq_ok_iff.mpr ⟨context, content, checked, rfl⟩]
      exact congrArg Except.ok ((StablySorted.of_mergeSort _).unique sorted)
  · intro fault
    rw [validate, tree.visited_eq_places, ← gather_eq_error_iff]
    cases gather registry.checkPlace tree.places <;> simp

end Registry

end HtmlNesting
