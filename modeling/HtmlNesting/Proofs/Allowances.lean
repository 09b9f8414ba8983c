import HtmlNesting.Proofs.Assignments
import HtmlNesting.Proofs.Repairs

/-!
# Allowances

How often a tag may occur in an ordered model is a sum over the segments that have the tag, cut off
by a cap. The sum is the room that the segments have for the tag: a run of copies of it fits into
them exactly if it is no longer (`replicate_mem_prod_iff`). As a part of a word is a word, the
copies of a tag in a word fit by themselves. So the allowance bounds every word, and copies of the
tag alone reach it (`Ordered.exists_count_iff`).

A child left out by the longest match is reported as one too many by this bound
(`Ordered.allowance_tight`).
-/

namespace HtmlNesting

/-! ## Room in segments -/

/-- How many items with a tag some segments have room for, if that is bounded. -/
def roomFor (tag : Tag) : List Segment → Option Int
  | [] => some 0
  | segment :: rest =>
    if segment.tags.contains tag then
      segment.max.bind fun max => (roomFor tag rest).map fun room => max + room
    else roomFor tag rest

section

variable {segments : List Segment} {segment : Segment} {tag : Tag} {copies : Nat}

theorem roomFor_nonneg (bounded : ∀ segment ∈ segments, segment.Bounded) :
    ∀ room ∈ roomFor tag segments, 0 ≤ room := by
  induction segments with
  | nil => simp [roomFor]
  | cons segment rest ih =>
    have later := ih fun other member => bounded other (List.mem_cons_of_mem _ member)
    intro room known
    rw [roomFor] at known
    split at known
    · obtain ⟨max, isMax, further⟩ := Option.bind_eq_some_iff.mp known
      obtain ⟨others, isRoom, rfl⟩ := Option.map_eq_some_iff.mp further
      have first := bounded segment List.mem_cons_self max isMax
      have second := later others isRoom
      omega
    · exact later room known

/-- Copies of a tag are a run of a segment that has the tag, within the maximum. -/
theorem replicate_mem_language : List.replicate copies tag ∈ segment.language ↔
    (copies = 0 ∨ tag ∈ segment.tags) ∧ ∀ max ∈ segment.max, (copies : Int) ≤ max := by
  rw [Segment.mem_language, List.length_replicate]
  refine and_congr_left fun _ => ?_
  constructor
  · intro fits
    by_cases none : copies = 0
    · exact .inl none
    · exact .inr (fits tag (List.mem_replicate.mpr ⟨none, rfl⟩))
  · rintro (rfl | known) other member
    · simp at member
    · rwa [List.eq_of_mem_replicate member]

/-- Copies of a tag are divided among a segment and the others. -/
theorem replicate_mem_mul_iff {first second : Language Tag} :
    List.replicate copies tag ∈ first * second ↔
      ∃ here later, here + later = copies ∧ List.replicate here tag ∈ first ∧
        List.replicate later tag ∈ second := by
  rw [Language.mem_mul]
  constructor
  · rintro ⟨run, isRun, others, isWord, joined⟩
    obtain ⟨total, same, sameOthers⟩ := List.append_eq_replicate_iff.mp joined
    rw [same] at isRun
    rw [sameOthers] at isWord
    exact ⟨run.length, others.length, total, isRun, isWord⟩
  · rintro ⟨here, later, rfl, isRun, isWord⟩
    exact ⟨_, isRun, _, isWord, List.replicate_append_replicate⟩

/-- Copies of a tag fit into segments exactly if there is room for so many. -/
theorem replicate_mem_prod_iff (bounded : ∀ segment ∈ segments, segment.Bounded) :
    List.replicate copies tag ∈ (segments.map Segment.language).prod ↔
      ∀ room ∈ roomFor tag segments, (copies : Int) ≤ room := by
  induction segments generalizing copies with
  | nil =>
    rw [List.map_nil, List.prod_nil, Language.mem_one, List.replicate_eq_nil_iff]
    simp [roomFor]
  | cons segment rest ih =>
    have restBounded : ∀ other ∈ rest, other.Bounded :=
      fun other member => bounded other (List.mem_cons_of_mem _ member)
    have nonneg : ∀ room ∈ roomFor tag rest, 0 ≤ room := roomFor_nonneg restBounded
    simp only [List.map_cons, List.prod_cons, replicate_mem_mul_iff, replicate_mem_language,
      ih restBounded, roomFor, List.contains_iff_mem]
    by_cases known : tag ∈ segment.tags
    · rw [if_pos known]
      cases isMax : segment.max with
      | none =>
        -- The segment takes all copies.
        simp only [Option.bind_none]
        refine iff_of_true ⟨copies, 0, rfl, ⟨.inr known, by simp⟩, nonneg⟩ (by simp)
      | some max =>
        have first : 0 ≤ max := bounded segment List.mem_cons_self max isMax
        cases isRoom : roomFor tag rest with
        | none =>
          refine iff_of_true ⟨0, copies, Nat.zero_add _, ⟨.inl rfl, ?_⟩, by simp⟩ (by simp)
          simpa using first
        | some room =>
          have second : 0 ≤ room := nonneg room isRoom
          simp only [Option.bind_some, Option.map_some, Option.mem_def, Option.some.injEq,
            forall_eq']
          constructor
          · rintro ⟨here, later, rfl, ⟨-, within⟩, further⟩
            omega
          · intro enough
            -- The segment takes copies up to its maximum, and the others take what is left.
            exact ⟨min copies max.toNat, copies - max.toNat, by omega, ⟨.inr known, by omega⟩,
              by omega⟩
    · rw [if_neg known]
      constructor
      · rintro ⟨here, later, rfl, ⟨none, -⟩, further⟩
        have nothing : here = 0 := none.resolve_right known
        simpa [nothing] using further
      · intro enough
        refine ⟨0, copies, Nat.zero_add _, ⟨.inl rfl, ?_⟩, enough⟩
        exact bounded segment List.mem_cons_self

end

/-! ## The allowance of an ordered model -/

namespace Ordered

/-- Tags that an ordered model has room for: they can be assigned to its segments, minima aside, and
go over no cap. -/
structure HasRoomFor (ordered : Ordered) (tags : List Tag) : Prop where
  assigned : ∃ places, Assigns ordered.segments tags places
  capped : ∀ quota ∈ ordered.caps.entries, (tags.count quota.1 : Int) ≤ quota.2

variable {ordered : Ordered} {tag : Tag}

/-- The maxima of the segments with a tag, added up, are the room for it. -/
theorem sum_maxima (segments : List Segment) (tag : Tag) :
    (if ((segments.filter fun segment => segment.tags.contains tag).map Segment.max).all
        Option.isSome then
      some ((((segments.filter fun segment => segment.tags.contains tag).map Segment.max).filterMap
        id).foldl (· + ·) 0)
    else none) = roomFor tag segments := by
  rw [← List.sum_eq_foldl]
  induction segments with
  | nil => rfl
  | cons segment rest ih =>
    rw [roomFor, List.filter_cons, ← ih]
    split
    · rw [List.map_cons]
      generalize (rest.filter _).map Segment.max = others
      cases segment.max with
      | none => simp
      | some max => by_cases all : others.all Option.isSome <;> simp [all]
    · rfl

/-- A number is within the allowance exactly if it is within the cap and the segments have room. -/
theorem le_allowance_iff {number : Int} :
    (∀ bound ∈ ordered.allowance tag, number ≤ bound) ↔
      (∀ cap ∈ ordered.caps.get? tag, number ≤ cap) ∧
        ∀ room ∈ roomFor tag ordered.segments, number ≤ room := by
  rw [allowance]
  simp only [sum_maxima]
  cases ordered.caps.get? tag with
  | none => simp
  | some cap =>
    cases roomFor tag ordered.segments with
    | none => simp
    | some room =>
      simp only [Option.mem_def, Option.some.injEq, forall_eq']
      split <;> simp <;> omega

theorem HasRoomFor.of_sublist {tags part : List Tag} (roomy : ordered.HasRoomFor tags)
    (within : part.Sublist tags) : ordered.HasRoomFor part where
  assigned :=
    mem_prod_iff_assigns.mp (mem_prod_of_sublist (mem_prod_iff_assigns.mpr roomy.assigned) within)
  capped := by
    intro quota listed
    have fewer := within.count_le quota.1
    have short := roomy.capped quota listed
    omega

section

variable (bounded : ∀ segment ∈ ordered.segments, segment.Bounded)
  (capsBounded : ∀ quota ∈ ordered.caps.entries, 0 ≤ quota.2)

include bounded capsBounded

/-- An ordered model has room for copies of a tag within the allowance. -/
theorem hasRoomFor_replicate_iff {copies : Nat} :
    ordered.HasRoomFor (List.replicate copies tag) ↔
      ∀ bound ∈ ordered.allowance tag, (copies : Int) ≤ bound := by
  rw [le_allowance_iff, ← replicate_mem_prod_iff bounded, mem_prod_iff_assigns]
  constructor
  · rintro ⟨assigned, capped⟩
    refine ⟨fun cap quota => ?_, assigned⟩
    simpa using capped (tag, cap) (Dictionary.mem_of_get? quota)
  · rintro ⟨withinCap, assigned⟩
    refine ⟨assigned, fun quota listed => ?_⟩
    rw [List.count_replicate]
    split
    next same =>
      rw [eq_of_beq same] at withinCap
      exact withinCap quota.2 (Dictionary.get?_of_mem ordered.caps.distinct listed)
    next => exact capsBounded quota listed

/-- A tag can occur so often exactly if that is within the allowance. -/
theorem exists_count_iff {copies : Nat} :
    (∃ tags, ordered.HasRoomFor tags ∧ copies ≤ tags.count tag) ↔
      ∀ bound ∈ ordered.allowance tag, (copies : Int) ≤ bound := by
  rw [← hasRoomFor_replicate_iff bounded capsBounded]
  constructor
  · rintro ⟨tags, roomy, enough⟩
    exact roomy.of_sublist (List.replicate_sublist_iff.mpr enough)
  · intro roomy
    exact ⟨_, roomy, by simp⟩

theorem allowance_nonneg : ∀ bound ∈ ordered.allowance tag, 0 ≤ bound := by
  rw [le_allowance_iff]
  refine ⟨fun cap quota => ?_, roomFor_nonneg bounded⟩
  exact capsBounded (tag, cap) (Dictionary.mem_of_get? quota)

end

end Ordered

/-! ## Children left out by the match -/

/-- Elements among lists that are alike have the same tags. -/
theorem Alike.tags {move : Position → Position} {first second : List Node}
    (alike : Alike move first second) :
    second.filterMap Node.tag? = first.filterMap Node.tag? := by
  have read (nodes : List Node) :
      nodes.filterMap Node.tag? = (nodes.filterMap Node.start?).map StartTag.tag :=
    List.map_filterMap.symm
  rw [read, read, alike.starts, map_tag_moved]

/-- Whether an element supports scripts is told by its tag. -/
theorem StartTag.scriptSupporting_iff (start : StartTag) :
    Category.scriptSupporting ∈ start.categories ↔
      Category.scriptSupporting ∈ start.tag.categories := by
  have never : (start.tag.conditionals.any fun conditional =>
      conditional.adds.contains .scriptSupporting) = false := by
    unfold Tag.conditionals
    split <;> decide
  refine ⟨fun supports => ?_, mem_categories_of_tag⟩
  have possible := mem_possibleCategories supports
  rw [Tag.possibleCategories, List.mem_filter, never, Bool.or_false] at possible
  exact List.mem_filter.mpr possible

namespace Ordered

variable {ordered : Ordered}

section

variable {parent : StartTag} {children : List Node} {grammar : List StartTag} {kept : List Nat}
  {item : StartTag × Nat}

/-- A child left out is one too many if its tag occurs more often than the allowance says, and out
of order otherwise. -/
theorem droppedReport_cases (ordered : Ordered) (parent : StartTag) (tags : List Tag)
    (child : StartTag) :
    (∃ bound ∈ ordered.allowance child.tag, bound < (tags.count child.tag : Int)) ∧
        (ordered.droppedReport parent tags child).code = Code.tooMany.name ∨
      (¬ ∃ bound ∈ ordered.allowance child.tag, bound < (tags.count child.tag : Int)) ∧
        (ordered.droppedReport parent tags child).code = Code.outOfOrder.name := by
  rw [droppedReport]
  cases ordered.allowance child.tag with
  | none => exact .inr ⟨by simp, rfl⟩
  | some bound =>
    by_cases excess : bound < (tags.count child.tag : Int)
    · exact .inl ⟨⟨bound, rfl, excess⟩, by simp only [if_pos excess]; rfl⟩
    · exact .inr ⟨by simpa using excess, by simp only [if_neg excess]; rfl⟩

/-- The first pass reports a child that the match leaves out once. -/
theorem filter_dismisses_droppedReports (distinct : (grammar.map StartTag.position).Nodup)
    (member : item ∈ grammar.zipIdx) (dropped : item.2 ∉ kept) :
    (ordered.droppedReports parent grammar kept).filter (Diagnostic.dismisses item.1) =
      [ordered.droppedReport parent (grammar.map StartTag.tag) item.1] := by
  have once : (grammar.zipIdx.filter fun other => other = item) = [item] := by
    have indexed : grammar.zipIdx.Nodup := by
      apply List.Nodup.of_map Prod.snd
      rw [List.zipIdx_map_snd]
      exact List.nodup_range'
    rw [List.filter_eq, List.count_eq_one_of_mem indexed member, List.replicate_one]
  rw [droppedReports, List.filter_map, List.filter_filter]
  refine Eq.trans (congrArg _ ?_) (congrArg (List.map _) once)
  apply List.filter_congr
  intro other listed
  obtain ⟨code, known, message, report⟩ :=
    ordered.exists_droppedReport parent (grammar.map StartTag.tag) other.1
  rw [Bool.eq_iff_iff, Bool.and_eq_true, Function.comp_apply, report,
    Diagnostic.dismisses_atElement, decide_eq_true_eq]
  constructor
  · rintro ⟨⟨same, -⟩, -⟩
    exact eq_of_position_eq distinct member listed same
  · rintro rfl
    exact ⟨⟨rfl, known⟩, by simpa using dropped⟩

/-- Of the findings about all children one says that a child left out by the match is out of order
or one too many. -/
theorem filter_dismisses_checkChildren
    (distinct : ((ordered.grammarChildren children).map StartTag.position).Nodup)
    (member : item ∈ (ordered.grammarChildren children).zipIdx)
    (dropped : item.2 ∉ ordered.keptIndices children) :
    (ordered.checkChildren parent children).filter (Diagnostic.dismisses item.1) =
      [ordered.droppedReport parent (ordered.childTags children) item.1] := by
  have unwanted (finding : Diagnostic) :
      (finding.dismisses item.1 && finding.isUnwanted) = finding.dismisses item.1 := by
    rw [Bool.and_eq_left_iff_imp, Diagnostic.dismisses, Bool.and_eq_true]
    rintro ⟨-, known⟩
    simp only [Diagnostic.isUnwanted, Diagnostic.isUnder, List.any_cons, List.any_nil,
      Bool.or_false, known, Bool.or_true]
  have strays : ((ordered.strays children).map (ordered.strayReport parent)).filter
      (Diagnostic.dismisses item.1) = [] := by
    simp only [List.filter_eq_nil_iff, List.mem_map]
    rintro _ ⟨child, -, rfl⟩
    simp [strayReport, Diagnostic.dismisses, Diagnostic.atNode, Code.name]
  have capped : (ordered.capReports parent (ordered.grammarChildren children)
      (ordered.keptIndices children)).filter (Diagnostic.dismisses item.1) = [] := by
    rw [List.filter_eq_nil_iff]
    intro finding reported dismissed
    have listed := List.any_eq_true.mpr ⟨finding, reported, dismissed⟩
    exact dropped ((any_capReports distinct member).mp listed).1
  rw [← funext unwanted, ← List.filter_filter, filter_isUnwanted_checkChildren, List.filter_append,
    List.filter_append, strays, capped, filter_dismisses_droppedReports distinct member dropped]
  rfl

end

/-- The children with the tag of a child of the grammar all belong to it. -/
theorem count_childTags {children : List Node} {start : StartTag}
    (member : start ∈ ordered.grammarChildren children) :
    (ordered.childTags children).count start.tag =
      (children.filterMap Node.tag?).count start.tag := by
  obtain ⟨child, listed, found⟩ := List.mem_filterMap.mp member
  obtain ⟨-, relevant⟩ := List.mem_filter.mp listed
  have isStart := start?_of_grammarChild? found
  have known : start.tag ∈ ordered.grammarTags := by
    simpa [grammarChild?, isStart] using found
  -- Scripts are left out by their tag, so the child is not left out for being one, nor are others
  -- with its tag.
  have allRelevant : ∀ other : Node, other.tag? = some start.tag → ordered.isRelevant other := by
    intro other same
    cases child with
    | text data position => cases isStart
    | element own inside =>
      cases isStart
      cases other with
      | text data position => cases same
      | element otherStart otherInside =>
        have sameTag : otherStart.tag = start.tag := Option.some.inj same
        simpa [isRelevant, Node.isScriptSupporting, StartTag.scriptSupporting_iff, sameTag]
          using relevant
  rw [childTags, grammarChildren, List.map_filterMap]
  simp only [map_tag_grammarChild?]
  rw [List.count_filterMap, List.count_filterMap, List.countP_filter]
  apply List.countP_congr
  intro other _
  rw [Bool.and_eq_true, beq_iff_eq, beq_iff_eq, Option.filter_eq_some_iff]
  constructor
  · rintro ⟨⟨same, -⟩, -⟩
    exact same
  · intro same
    exact ⟨⟨same, by simpa using known⟩, allRelevant other same⟩

/-- The allowance is tight, and the findings that a child is one too many rest on it. Let the maxima
of the segments and the caps of an ordered model be not negative.

If a tag has an allowance, tags that the model has room for contain it no more often, and some
contain it just so often. If it has none, there are such tags that contain it as often as one likes.

Let the children of an element be told apart by marks. Then there is one finding that a child left
out by the longest match is out of order or one too many. It says that the child is one too many
exactly if its tag occurs more often among the children than in any tags that the model has room
for. -/
theorem allowance_tight (ordered : Ordered)
    (bounded : ∀ segment ∈ ordered.segments, segment.Bounded)
    (capsBounded : ∀ quota ∈ ordered.caps.entries, 0 ≤ quota.2) :
    (∀ tag bound, ordered.allowance tag = some bound →
      (∀ tags, ordered.HasRoomFor tags → (tags.count tag : Int) ≤ bound) ∧
        ∃ tags, ordered.HasRoomFor tags ∧ (tags.count tag : Int) = bound) ∧
    (∀ tag, ordered.allowance tag = none →
      ∀ copies, ∃ tags, ordered.HasRoomFor tags ∧ copies ≤ tags.count tag) ∧
    ∀ place : Place,
      let found := ordered.checkChildren place.marked.start place.marked.children
      ordered.checkChildren place.start place.children =
          found.map (Diagnostic.moved place.unmark) ∧
        ∀ child index, (child, index) ∈ (ordered.grammarChildren place.marked.children).zipIdx →
          index ∉ ordered.keptIndices place.children →
          let exceeds := ∀ tags, ordered.HasRoomFor tags →
            tags.count child.tag < (place.children.filterMap Node.tag?).count child.tag
          ∃ finding, found.filter (Diagnostic.dismisses child) = [finding] ∧
            (finding.code = Code.tooMany.name ∧ exceeds ∨
              finding.code = Code.outOfOrder.name ∧ ¬ exceeds) := by
  refine ⟨?_, ?_, ?_⟩
  · intro tag bound known
    have nonneg := allowance_nonneg bounded capsBounded bound known
    constructor
    · intro tags roomy
      exact (exists_count_iff bounded capsBounded).mp ⟨tags, roomy, Nat.le_refl _⟩ bound known
    · have within : ∀ other ∈ ordered.allowance tag, (bound.toNat : Int) ≤ other := by
        intro other isOther
        rw [Option.some.inj (isOther.symm.trans known)]
        omega
      refine ⟨_, (hasRoomFor_replicate_iff bounded capsBounded).mpr within, ?_⟩
      rw [List.count_replicate_self]
      omega
  · intro tag unbounded copies
    exact (exists_count_iff bounded capsBounded).mpr (by simp [unbounded])
  · intro place found
    refine ⟨checkChildren_alike place.alike_marked ordered place.marked.start, ?_⟩
    intro child index member dropped exceeds
    have counted : (ordered.childTags place.marked.children).count child.tag =
        (place.children.filterMap Node.tag?).count child.tag := by
      rw [count_childTags (List.fst_mem_of_mem_zipIdx member), place.alike_marked.tags]
    have sameKept : ordered.keptIndices place.marked.children =
        ordered.keptIndices place.children := by
      rw [keptIndices, keptIndices, childTags_marked]
    -- No tags contain the tag so often exactly if so many are beyond the allowance.
    have beyond : exceeds ↔ ∃ bound ∈ ordered.allowance child.tag,
        bound < ((ordered.childTags place.marked.children).count child.tag : Int) := by
      have possible := not_congr (@exists_count_iff ordered child.tag bounded capsBounded
        ((ordered.childTags place.marked.children).count child.tag))
      rw [counted] at possible ⊢
      simpa only [not_exists, not_and, not_forall, not_le, exists_prop] using possible
    rw [← sameKept] at dropped
    have alone := @filter_dismisses_checkChildren ordered place.marked.start place.marked.children
      (child, index) (ordered.nodup_positions_marked place) member dropped
    refine ⟨_, alone, ?_⟩
    rw [beyond]
    exact (ordered.droppedReport_cases _ _ child).imp And.symm And.symm

end Ordered

/-- Rows with a head or a foot before them, and feet or further rows after them. Three feet would
find room in the segments, but there may be only two. -/
def cappedFeet : Ordered where
  segments := [
    { tags := [.thead, .tfoot], max := some 1 },
    { tags := [.tr] },
    { tags := [.tfoot, .tr], max := some 2 }]
  caps := .ofList [(.tfoot, 2)]

/-- A row between two heads. -/
def rowBetweenHeads : Place where
  start := .named "table"
  before := []
  after := []
  children := [
    .element (.named "thead") [], .element (.named "tr") [], .element (.named "thead") []]
  above := []

theorem allowance_tight_cappedFeet :
    (∀ segment ∈ cappedFeet.segments, segment.Bounded) ∧
    (∀ quota ∈ cappedFeet.caps.entries, 0 ≤ quota.2) ∧
    cappedFeet.allowance .tfoot = some 2 ∧
    (∃ tags, cappedFeet.HasRoomFor tags ∧ (tags.count .tfoot : Int) = 2) ∧
    cappedFeet.allowance .tr = none ∧
    (∃ tags, cappedFeet.HasRoomFor tags ∧ 1000 ≤ tags.count .tr) ∧
    ∃ finding, (cappedFeet.checkChildren rowBetweenHeads.marked.start
        rowBetweenHeads.marked.children).filter
          (Diagnostic.dismisses (.named "thead" [] (.mark 2))) = [finding] ∧
      finding.code = Code.tooMany.name := by
  have bounded : ∀ segment ∈ cappedFeet.segments, segment.Bounded := by
    simp [cappedFeet, Segment.Bounded]
  have capsBounded : ∀ quota ∈ cappedFeet.caps.entries, 0 ≤ quota.2 := by decide
  have feet : cappedFeet.allowance .tfoot = some 2 := by decide
  have heads : cappedFeet.allowance .thead = some 1 := by decide
  have rows : cappedFeet.allowance .tr = none := by decide
  obtain ⟨tight, unbounded, reported⟩ := cappedFeet.allowance_tight bounded capsBounded
  refine ⟨bounded, capsBounded, feet, (tight _ _ feet).2, rows, unbounded _ rows 1000, ?_⟩
  have member : (StartTag.named "thead" [] (.mark 2), 2) ∈
      (cappedFeet.grammarChildren rowBetweenHeads.marked.children).zipIdx := by decide
  have dropped : 2 ∉ cappedFeet.keptIndices rowBetweenHeads.children := by decide
  obtain ⟨finding, alone, cases⟩ := (reported rowBetweenHeads).2 _ _ member dropped
  refine ⟨finding, alone, ?_⟩
  have two : (rowBetweenHeads.children.filterMap Node.tag?).count .thead = 2 := by decide
  have isHead : (StartTag.named "thead" [] (.mark 2)).tag = .thead := by decide
  rw [isHead, two] at cases
  refine (cases.resolve_right fun ordered => ordered.2 ?_).1
  intro tags roomy
  have few := (tight _ _ heads).1 tags roomy
  omega

end HtmlNesting
