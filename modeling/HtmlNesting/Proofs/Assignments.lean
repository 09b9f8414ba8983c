import Mathlib.Data.List.Forall2
import Mathlib.Data.List.Sort
import HtmlNesting.Proofs.SegmentGrammar

/-!
# Selections and their assignments to segments

Segments accept tags that can be assigned to them in order, with no segment going over its maximum
(`Assigns`). These are the words of the product of their languages (`mem_prod_iff_assigns`), so they
are the tags that lead to a cell of the search.

A selection of tags is a strictly increasing list of indices. The selections of the search are those
whose tags lead to a cell (`selects_zipIdx_iff`). Both together say what the longest match is the
best of: `longestMatch_optimal` speaks of indices and assignments only.
-/

namespace HtmlNesting

/-! ## Assignments -/

/-- An assignment of tags to segments, each given by its index: no segment comes before that of an
earlier tag, each has the tag it takes, and none takes more tags than its maximum. -/
structure Assigns (segments : List Segment) (tags : List Tag) (places : List Nat) : Prop where
  ordered : places.Pairwise (· ≤ ·)
  fits : List.Forall₂ (fun tag index => ∃ segment ∈ segments[index]?, tag ∈ segment.tags)
    tags places
  within : ∀ index, ∀ segment ∈ segments[index]?, ∀ max ∈ segment.max,
    (places.count index : Int) ≤ max

/-- A list is related to copies of a value if all its items are. -/
theorem forall₂_replicate_iff {α β : Type} {related : α → β → Prop} {items : List α} {value : β}
    {copies : Nat} :
    List.Forall₂ related items (List.replicate copies value) ↔
      items.length = copies ∧ ∀ item ∈ items, related item value := by
  induction items generalizing copies with
  | nil => cases copies <;> simp [List.replicate_succ]
  | cons item rest ih =>
    cases copies with
    | zero => simp
    | succ copies => simp [List.replicate_succ, ih, and_left_comm]

/-- Numbers in order are some zeros followed by others that are greater than zero. -/
theorem exists_leading_zeros {places : List Nat} (ordered : places.Pairwise (· ≤ ·)) :
    ∃ (zeros : Nat) (later : List Nat),
      places = List.replicate zeros 0 ++ later.map (· + 1) := by
  induction places with
  | nil => exact ⟨0, [], rfl⟩
  | cons first rest ih =>
    obtain ⟨below, tail⟩ := List.pairwise_cons.mp ordered
    cases first with
    | zero =>
      obtain ⟨zeros, later, rfl⟩ := ih tail
      exact ⟨zeros + 1, later, rfl⟩
    | succ first =>
      have positive : ∀ index ∈ (first + 1) :: rest, index - 1 + 1 = index := by
        intro index member
        have above : first + 1 ≤ index := by
          rcases List.mem_cons.mp member with rfl | later
          · exact Nat.le_refl _
          · exact below index later
        omega
      refine ⟨0, ((first + 1) :: rest).map (· - 1), ?_⟩
      rw [List.replicate_zero, List.nil_append, List.map_map]
      exact ((List.map_congr_left positive).trans (List.map_id' _)).symm

/-- The tags of a first run go to the first segment, and the others to where they go among the
other segments. -/
theorem Assigns.cons {segment : Segment} {rest : List Segment} {run later : List Tag}
    {places : List Nat} (current : run ∈ segment.language) (further : Assigns rest later places) :
    Assigns (segment :: rest) (run ++ later)
      (List.replicate run.length 0 ++ places.map (· + 1)) where
  ordered := by
    rw [List.pairwise_append]
    refine ⟨by simp, ?_, ?_⟩
    · rw [List.pairwise_map]
      exact further.ordered.imp fun below => by omega
    · intro first zero second _
      rw [List.eq_of_mem_replicate zero]
      exact Nat.zero_le second
  fits := by
    apply List.rel_append
    · rw [forall₂_replicate_iff]
      exact ⟨rfl, fun tag member => ⟨segment, rfl, current.1 tag member⟩⟩
    · rw [List.forall₂_map_right_iff]
      simpa using further.fits
  within := by
    intro index
    cases index with
    | zero =>
      intro first known max bound
      cases known
      have none : (places.map (· + 1)).count 0 = 0 := by
        rw [List.count_eq_zero]
        simp
      rw [List.count_append, none, List.count_replicate_self, Nat.add_zero]
      exact current.2 max bound
    | succ index =>
      have shifted : (places.map (· + 1)).count (index + 1) = places.count index :=
        List.count_map_of_injective _ _ (add_left_injective 1) _
      rw [List.count_append, shifted, List.count_replicate]
      simpa using further.within index

/-- What goes to the first segment is a run of it, and the others go to the other segments. -/
theorem Assigns.exists_run {segment : Segment} {rest : List Segment} {tags : List Tag}
    {places : List Nat} (assigns : Assigns (segment :: rest) tags places) :
    ∃ run ∈ segment.language, ∃ later further, tags = run ++ later ∧ Assigns rest later further := by
  obtain ⟨zeros, further, rfl⟩ := exists_leading_zeros assigns.ordered
  -- As the places are in order, the tags of the first segment are the leading ones.
  have first := List.forall₂_take_append _ _ _ assigns.fits
  have second := List.forall₂_drop_append _ _ _ assigns.fits
  rw [List.length_replicate] at first second
  obtain ⟨length, inFirst⟩ := forall₂_replicate_iff.mp first
  have counted (index : Nat) : (List.replicate zeros 0 ++ further.map (· + 1)).count (index + 1) =
      further.count index := by
    have shifted := List.count_map_of_injective further (· + 1) (add_left_injective 1) index
    rw [List.count_append, shifted, List.count_replicate]
    simp
  refine ⟨tags.take zeros, ⟨?_, ?_⟩, tags.drop zeros, further, by simp, ?_, ?_, ?_⟩
  · intro tag member
    obtain ⟨other, known, inside⟩ := inFirst tag member
    cases known
    exact inside
  · intro max bound
    have short := assigns.within 0 segment rfl max bound
    have enough : zeros ≤ (List.replicate zeros 0 ++ further.map (· + 1)).count 0 := by
      rw [List.count_append, List.count_replicate_self]
      omega
    rw [length]
    omega
  · have later := (List.pairwise_append.mp assigns.ordered).2.1
    rw [List.pairwise_map] at later
    exact later.imp fun below => by omega
  · rw [List.forall₂_map_right_iff] at second
    simpa using second
  · intro index other known
    rw [← counted]
    exact assigns.within (index + 1) other (by simpa using known)

/-- Tags can be assigned to segments exactly if they are a run of each, one after another. -/
theorem mem_prod_iff_assigns {segments : List Segment} {tags : List Tag} :
    tags ∈ (segments.map Segment.language).prod ↔ ∃ places, Assigns segments tags places := by
  induction segments generalizing tags with
  | nil =>
    constructor
    · intro empty
      rw [show tags = [] from empty]
      exact ⟨[], .nil, .nil, by simp⟩
    · rintro ⟨places, -, fits, -⟩
      cases fits with
      | nil => rfl
      | cons fit _ => simp at fit
  | cons segment rest ih =>
    rw [List.map_cons, List.prod_cons, Language.mem_mul]
    constructor
    · rintro ⟨run, current, later, word, rfl⟩
      obtain ⟨places, further⟩ := ih.mp word
      exact ⟨_, further.cons current⟩
    · rintro ⟨places, assigns⟩
      obtain ⟨run, current, later, further, rfl, assigned⟩ := assigns.exists_run
      exact ⟨run, current, later, ih.mpr ⟨further, assigned⟩, rfl⟩

/-! ## Selections by index -/

/-- The tags at some indices. -/
def tagsAt (tags : List Tag) (indices : List Nat) : List Tag :=
  indices.filterMap fun index => tags[index]?

section

variable {segments : List Segment} {tags : List Tag} {picked : List Nat} {cell : Cell}

/-- The tags of items are those at their indices. -/
theorem tagsAt_map_snd {chosen : List (Tag × Nat)} (part : chosen.Sublist tags.zipIdx) :
    tagsAt tags (chosen.map Prod.snd) = chosen.map Prod.fst := by
  rw [tagsAt, List.filterMap_map, ← List.filterMap_eq_map]
  apply List.filterMap_congr
  intro item member
  exact List.mem_zipIdx_iff_getElem?.mp (part.subset member)

/-- The selections among tags are the indices in order whose tags lead to a cell. -/
theorem selects_zipIdx_iff : Selects segments tags.zipIdx picked cell ↔
    picked.reverse.Sublist (List.range tags.length) ∧
      Reaches segments (tagsAt tags picked.reverse) cell := by
  have indices : tags.zipIdx.map Prod.snd = List.range tags.length := by
    rw [List.zipIdx_map_snd, List.range_eq_range']
  rw [selects_iff_sublist, ← indices]
  constructor
  · rintro ⟨chosen, part, same, reaches⟩
    rw [same, tagsAt_map_snd part]
    exact ⟨part.map Prod.snd, reaches⟩
  · rintro ⟨part, reaches⟩
    obtain ⟨chosen, fromItems, same⟩ := List.sublist_map_iff.mp part
    rw [same, tagsAt_map_snd fromItems] at reaches
    exact ⟨chosen, fromItems, same, reaches⟩

/-- Indices in order and in range. -/
theorem sublist_range_iff {indices : List Nat} {bound : Nat} :
    indices.Sublist (List.range bound) ↔
      indices.Pairwise (· < ·) ∧ ∀ index ∈ indices, index < bound := by
  constructor
  · intro part
    exact ⟨List.pairwise_lt_range.sublist part, fun index member =>
      List.mem_range.mp (part.subset member)⟩
  · rintro ⟨increasing, inRange⟩
    refine List.sublist_of_subperm_of_pairwise ?_ increasing List.pairwise_lt_range
    apply List.subperm_of_subset increasing.nodup
    intro index member
    exact List.mem_range.mpr (inRange index member)

end

/-- A selection of tags that segments accept: indices in order and in range, whose tags can be
assigned to the segments. -/
structure Accepts (segments : List Segment) (tags : List Tag) (indices : List Nat) : Prop where
  increasing : indices.Pairwise (· < ·)
  inRange : ∀ index ∈ indices, index < tags.length
  assigned : ∃ places, Assigns segments (tagsAt tags indices) places

/-- The accepted selections are those that the search can find. -/
theorem accepts_iff_selects {segments : List Segment}
    (bounded : ∀ segment ∈ segments, segment.Bounded) {tags : List Tag} {indices : List Nat} :
    Accepts segments tags indices ↔ ∃ cell, Selects segments tags.zipIdx indices.reverse cell := by
  have assigned : (∃ cell, Reaches segments (tagsAt tags indices) cell) ↔
      ∃ places, Assigns segments (tagsAt tags indices) places :=
    (exists_reaches_iff bounded).trans mem_prod_iff_assigns
  simp only [selects_zipIdx_iff, List.reverse_reverse, sublist_range_iff, exists_and_left,
    assigned]
  constructor
  · rintro ⟨increasing, inRange, places⟩
    exact ⟨⟨increasing, inRange⟩, places⟩
  · rintro ⟨⟨increasing, inRange⟩, places⟩
    exact ⟨increasing, inRange, places⟩

/-- The longest match is optimal. Its indices are an accepted selection; no accepted selection is
longer, and none that is as long ends earlier. -/
theorem Ordered.longestMatch_optimal (ordered : Ordered)
    (bounded : ∀ segment ∈ ordered.segments, segment.Bounded) (tags : List Tag) :
    Accepts ordered.segments tags (longestMatch ordered.segments tags) ∧
      ∀ other, Accepts ordered.segments tags other →
        other.length ≤ (longestMatch ordered.segments tags).length ∧
          (other.length = (longestMatch ordered.segments tags).length →
            ∀ last ∈ (longestMatch ordered.segments tags).getLast?,
              ∀ otherLast ∈ other.getLast?, last ≤ otherLast) := by
  refine ⟨(accepts_iff_selects bounded).mpr (longestMatch_selects ordered.segments tags), ?_⟩
  intro other accepted
  obtain ⟨cell, selects⟩ := (accepts_iff_selects bounded).mp accepted
  -- The search compares lengths first, and the last indices of selections of equal length.
  have noBetter := isBetter_longestMatch selects
  rw [← Bool.not_eq_true, MatchTable.isBetter_iff] at noBetter
  simp only [List.length_reverse] at noBetter
  refine ⟨by omega, ?_⟩
  intro same last isLast otherLast isOtherLast
  rw [← List.head?_reverse, Option.mem_def] at isLast isOtherLast
  simp only [List.headD_eq_head?_getD, isLast, isOtherLast, Option.getD_some] at noBetter
  omega

/-- Rows with a head or a foot before them and a foot or a further row after them. The first segment
takes nothing. -/
def rowsWithFoot : Ordered where
  segments := [
    { tags := [.tfoot], max := some 0 },
    { tags := [.thead, .tfoot], max := some 1 },
    { tags := [.tr] },
    { tags := [.tfoot, .tr], max := some 1 }]

theorem longestMatch_optimal_rowsWithFoot :
    (∀ segment ∈ rowsWithFoot.segments, segment.Bounded) ∧
    longestMatch rowsWithFoot.segments [.tfoot, .thead, .tr, .tr, .tfoot, .tr] = [0, 2, 3, 4] ∧
    ∀ other, Accepts rowsWithFoot.segments [.tfoot, .thead, .tr, .tr, .tfoot, .tr] other →
      other.length ≤ 4 ∧
        (other.length = 4 → ∀ otherLast ∈ other.getLast?, 4 ≤ otherLast) := by
  have bounded : ∀ segment ∈ rowsWithFoot.segments, segment.Bounded := by
    simp [rowsWithFoot, Segment.Bounded]
  have kept : longestMatch rowsWithFoot.segments [.tfoot, .thead, .tr, .tr, .tfoot, .tr] =
      [0, 2, 3, 4] := by decide
  refine ⟨bounded, kept, ?_⟩
  intro other accepted
  obtain ⟨-, best⟩ := rowsWithFoot.longestMatch_optimal bounded
    [.tfoot, .thead, .tr, .tr, .tfoot, .tr]
  rw [kept] at best
  obtain ⟨short, late⟩ := best other accepted
  exact ⟨short, fun same => late same 4 rfl⟩

end HtmlNesting
