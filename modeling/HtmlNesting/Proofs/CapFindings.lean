import Mathlib.Data.List.Induction
import Mathlib.Data.List.Nodup
import HtmlNesting.Proofs.Judging
import HtmlNesting.Proofs.SegmentGrammar

/-!
# What a cap leaves of the children with a tag

The check of an ordered model reports the children that the longest match leaves out, and then those
beyond the cap of their tag. Both passes go by the index of a child, which its mark tells. A child
is left unreported exactly if it is kept and its tag has not occurred too often up to it, counting
the children left out (`dismissed_iff`).

So a child left out uses up the cap. The number of children left unreported is that of the kept ones
among the first with the tag, as many as the cap allows. It falls short of the cap and of the kept
children alike exactly if a child left out is among these first ones and a kept one comes after them
(`spared_eq_min_iff`). `both_feet_reported` is a table where this happens.
-/

namespace HtmlNesting

/-! ## Occurrences of a tag -/

/-- The indices at which a tag occurs, in order. -/
def occurrences (tags : List Tag) (tag : Tag) : List Nat :=
  (tags.zipIdx.filter fun item => item.1 == tag).map Prod.snd

/-- How many of the tags up to an index, inclusive, are a given one. -/
def ordinal (tags : List Tag) (tag : Tag) (index : Nat) : Nat :=
  (tags.take (index + 1)).count tag

theorem countP_occurrences (tags : List Tag) (tag : Tag) (holds : Nat → Bool) :
    (occurrences tags tag).countP holds =
      tags.zipIdx.countP fun item => holds item.2 && item.1 == tag := by
  rw [occurrences, List.countP_map, List.countP_filter]
  rfl

/-- A tag added at the end occurs there. -/
theorem occurrences_concat (tags : List Tag) (tag last : Tag) :
    occurrences (tags ++ [last]) tag =
      occurrences tags tag ++ if last = tag then [tags.length] else [] := by
  rw [occurrences, List.zipIdx_append, List.filter_append, List.map_append, occurrences,
    Nat.zero_add, List.zipIdx_singleton]
  by_cases same : last = tag
  · simp [same]
  · simp [same]

theorem lt_of_mem_occurrences {tags : List Tag} {tag : Tag} {index : Nat}
    (member : index ∈ occurrences tags tag) : index < tags.length := by
  obtain ⟨item, listed, rfl⟩ := List.mem_map.mp member
  have inRange := (List.mem_zipIdx (List.mem_filter.mp listed).1).2.1
  omega

/-- The first occurrences of a tag, up to a number of them, are that many or all there are. -/
theorem countP_ordinal_le (tags : List Tag) (tag : Tag) (cap : Int) :
    (occurrences tags tag).countP (fun index => decide ((ordinal tags tag index : Int) ≤ cap)) =
      min cap.toNat (occurrences tags tag).length := by
  -- The induction is from the end, where ordinals of earlier indices stay what they are. It carries
  -- the number of occurrences along, which is the ordinal of a last one.
  have counted : (occurrences tags tag).length = tags.count tag ∧
      (occurrences tags tag).countP (fun index =>
        decide ((ordinal tags tag index : Int) ≤ cap)) = min cap.toNat (tags.count tag) := by
    induction tags using List.reverseRecOn with
    | nil => simp [occurrences]
    | append_singleton tags last ih =>
      obtain ⟨length, first⟩ := ih
      have earlier : (occurrences tags tag).countP (fun index =>
          decide ((ordinal (tags ++ [last]) tag index : Int) ≤ cap)) =
            min cap.toNat (tags.count tag) := by
        rw [← first]
        apply List.countP_congr
        intro index member
        have inRange := lt_of_mem_occurrences member
        rw [ordinal, ordinal, List.take_append_of_le_length (by omega)]
      have atEnd : ordinal (tags ++ [last]) tag tags.length =
          tags.count tag + [last].count tag := by
        rw [ordinal, List.take_of_length_le (by simp), List.count_append]
      rw [occurrences_concat, List.length_append, List.countP_append, length, earlier,
        List.count_append]
      by_cases same : last = tag
      · rw [if_pos same, List.countP_cons, List.countP_nil, atEnd, same,
          List.count_singleton_self]
        simp only [decide_eq_true_eq]
        refine ⟨rfl, ?_⟩
        split <;> omega
      · simp [same]
  rw [counted.1, counted.2]

/-! ## Counting -/

/-- Two properties of items hold together as often as the first one exactly if it implies the
second. -/
theorem countP_and_eq_iff {α : Type} {first second : α → Bool} {items : List α} :
    items.countP (fun item => first item && second item) = items.countP first ↔
      ∀ item ∈ items, first item = true → second item = true := by
  have together : items.countP (fun item => first item && second item) =
      (items.filter first).countP second := by
    simp only [List.countP_filter, Bool.and_comm]
  rw [together, @List.countP_eq_length_filter _ first, List.countP_eq_length]
  simp only [List.mem_filter, and_imp]

/-- Let some of the items come first, up to a number of them. Those picked among the first ones are
no more than this number and no more than all picked ones, and they are as many as one of the two
exactly if all picked ones are among the first or all the first are picked. -/
theorem countP_picked_first {α : Type} {picked first : α → Bool} {items : List α} {cap : Nat}
    (enough : items.countP first = min cap items.length) :
    items.countP (fun item => picked item && first item) ≤ min cap (items.countP picked) ∧
      (items.countP (fun item => picked item && first item) = min cap (items.countP picked) ↔
        (∀ item ∈ items, picked item = true → first item = true) ∨
          ∀ item ∈ items, first item = true → picked item = true) := by
  have allPicked := @countP_and_eq_iff _ picked first items
  have allFirst := @countP_and_eq_iff _ first picked items
  simp only [Bool.and_comm (first _)] at allFirst
  have fewerPicked : items.countP (fun item => picked item && first item) ≤ items.countP picked :=
    List.countP_mono_left fun item _ both => (Bool.and_eq_true_iff.mp both).1
  have fewerFirst : items.countP (fun item => picked item && first item) ≤ items.countP first :=
    List.countP_mono_left fun item _ both => (Bool.and_eq_true_iff.mp both).2
  have total : items.countP picked ≤ items.length := List.countP_le_length
  rw [← allPicked, ← allFirst]
  omega

/-! ## Children left unreported -/

theorem Position.mark_injective : Function.Injective fun index : Nat => Position.mark index := by
  intro first second same
  have lines : (first : Int) = second := congrArg Position.line same
  omega

/-- Marks tell children apart. -/
theorem Place.nodup_position_marked (place : Place) :
    (place.marked.children.map Node.position).Nodup := by
  have marks : place.marked.children.map Node.position =
      (List.range' 0 place.children.length).map fun mark => .mark mark :=
    map_position_markedFrom 0 place.children
  rw [marks, ← List.range_eq_range']
  exact List.nodup_range.map Position.mark_injective

/-- Whether a finding says that a child is out of order or one too many. -/
def Diagnostic.dismisses (child : StartTag) (finding : Diagnostic) : Bool :=
  finding.isAt child.position &&
    (finding.code == Code.outOfOrder.name || finding.code == Code.tooMany.name)

theorem Diagnostic.dismisses_atElement {child other : StartTag} {code : Code} {message : String}
    {severity : Severity} :
    (Diagnostic.atElement code other message severity).dismisses child = true ↔
      other.position = child.position ∧ code ∈ [Code.outOfOrder, .tooMany] := by
  have named : (code.name == Code.outOfOrder.name || code.name == Code.tooMany.name) = true ↔
      code ∈ [Code.outOfOrder, .tooMany] := by
    cases code <;> decide
  rw [← named, dismisses, Bool.and_eq_true, isAt_iff]
  rfl

namespace Ordered

variable {ordered : Ordered} {parent : StartTag} {children : List Node}

/-- The tags of the children of the grammar. -/
def childTags (ordered : Ordered) (children : List Node) : List Tag :=
  (ordered.grammarChildren children).map StartTag.tag

/-- The indices of the children of the grammar that the longest match keeps. -/
def keptIndices (ordered : Ordered) (children : List Node) : List Nat :=
  longestMatch ordered.segments (ordered.childTags children)

/-- How many children of the grammar with a tag are not reported as out of order or as one too
many. -/
def spared (ordered : Ordered) (parent : StartTag) (children : List Node) (tag : Tag) : Nat :=
  (ordered.grammarChildren children).countP fun child =>
    child.tag == tag && !(ordered.checkChildren parent children).any (Diagnostic.dismisses child)

section

variable {grammar : List StartTag} {kept : List Nat} {item : StartTag × Nat}

/-- Children at different positions are told apart by them. -/
theorem eq_of_position_eq (distinct : (grammar.map StartTag.position).Nodup)
    (member : item ∈ grammar.zipIdx) {other : StartTag × Nat} (otherMember : other ∈ grammar.zipIdx)
    (same : other.1.position = item.1.position) : other = item := by
  rw [List.mem_zipIdx_iff_getElem?] at member otherMember
  have positions : (grammar.map StartTag.position)[other.2]? =
      (grammar.map StartTag.position)[item.2]? := by
    rw [List.getElem?_map, List.getElem?_map, member, otherMember, Option.map_some,
      Option.map_some, same]
  have inRange : other.2 < (grammar.map StartTag.position).length := by
    rw [List.length_map]
    exact (List.getElem?_eq_some_iff.mp otherMember).1
  have index := (List.getElem?_inj inRange distinct).mp positions
  rw [index, member] at otherMember
  exact Prod.ext (Option.some.inj otherMember).symm index

/-- The first pass reports a child exactly if the match leaves it out. -/
theorem any_droppedReports (distinct : (grammar.map StartTag.position).Nodup)
    (member : item ∈ grammar.zipIdx) :
    (ordered.droppedReports parent grammar kept).any (Diagnostic.dismisses item.1) = true ↔
      item.2 ∉ kept := by
  have report (child : StartTag) : (ordered.droppedReport parent (grammar.map StartTag.tag)
      child).dismisses item.1 = true ↔ child.position = item.1.position := by
    obtain ⟨code, known, message, report⟩ :=
      ordered.exists_droppedReport parent (grammar.map StartTag.tag) child
    rw [report, Diagnostic.dismisses_atElement, and_iff_left known]
  simp only [droppedReports, List.any_map, List.any_eq_true, List.mem_filter, Function.comp_apply,
    report, Bool.not_eq_true']
  constructor
  · rintro ⟨other, ⟨listed, dropped⟩, same⟩
    rw [eq_of_position_eq distinct member listed same] at dropped
    simpa using dropped
  · intro dropped
    exact ⟨item, ⟨member, by simpa using dropped⟩, rfl⟩

/-- The second pass reports a child exactly if it is kept and its tag has occurred too often. -/
theorem any_capReports (distinct : (grammar.map StartTag.position).Nodup)
    (member : item ∈ grammar.zipIdx) :
    (ordered.capReports parent grammar kept).any (Diagnostic.dismisses item.1) = true ↔
      item.2 ∈ kept ∧ ∃ cap, ordered.caps.get? item.1.tag = some cap ∧
        cap < (ordinal (grammar.map StartTag.tag) item.1.tag item.2 : Int) := by
  rw [List.any_eq_true]
  constructor
  · rintro ⟨finding, reported, dismissed⟩
    obtain ⟨⟨tag, cap⟩, listed, reported⟩ := List.mem_flatMap.mp reported
    obtain ⟨other, selected, rfl⟩ := List.mem_map.mp reported
    obtain ⟨known, beyond⟩ := List.mem_filter.mp selected
    obtain ⟨same, -⟩ := Diagnostic.dismisses_atElement.mp dismissed
    rw [eq_of_position_eq distinct member known same] at beyond
    simp only [Bool.and_eq_true, beq_iff_eq, List.contains_iff_mem, decide_eq_true_eq,
      List.map_take] at beyond
    obtain ⟨⟨rfl, inKept⟩, excess⟩ := beyond
    exact ⟨inKept, cap, Dictionary.get?_of_mem ordered.caps.distinct listed, excess⟩
  · rintro ⟨inKept, cap, quota, excess⟩
    refine ⟨_, List.mem_flatMap.mpr ⟨(item.1.tag, cap), Dictionary.mem_of_get? quota,
      List.mem_map.mpr ⟨item, List.mem_filter.mpr ⟨member, ?_⟩, rfl⟩⟩,
      Diagnostic.dismisses_atElement.mpr ⟨rfl, by simp⟩⟩
    simp only [beq_self_eq_true, Bool.true_and, Bool.and_eq_true, List.contains_iff_mem,
      decide_eq_true_eq, List.map_take]
    exact ⟨inKept, excess⟩

end

/-- A child is reported as out of order or as one too many exactly if the match leaves it out or its
tag has occurred too often up to it. -/
theorem dismissed_iff
    (distinct : ((ordered.grammarChildren children).map StartTag.position).Nodup)
    {item : StartTag × Nat} (member : item ∈ (ordered.grammarChildren children).zipIdx) :
    (ordered.checkChildren parent children).any (Diagnostic.dismisses item.1) = true ↔
      item.2 ∉ ordered.keptIndices children ∨
        ∃ cap, ordered.caps.get? item.1.tag = some cap ∧
          cap < (ordinal (ordered.childTags children) item.1.tag item.2 : Int) := by
  have strays : ((ordered.strays children).map (ordered.strayReport parent)).any
      (Diagnostic.dismisses item.1) = false := by
    simp only [List.any_eq_false, List.mem_map]
    rintro _ ⟨child, -, rfl⟩
    simp [strayReport, Diagnostic.dismisses, Diagnostic.atNode, Code.name]
  have missing (tags : List Tag) :
      (ordered.missingReports parent tags).any (Diagnostic.dismisses item.1) = false := by
    rw [List.any_eq_false]
    intro finding reported
    obtain ⟨message, rfl⟩ := mem_missingReports reported
    simp [Diagnostic.dismisses_atElement]
  have conflicts (grammar : List StartTag) :
      (ordered.conflictReports parent grammar).any (Diagnostic.dismisses item.1) = false := by
    rw [List.any_eq_false]
    intro finding reported
    obtain ⟨child, -, message, rfl⟩ := mem_conflictReports reported
    simp [Diagnostic.dismisses_atElement]
  simp only [checkChildren, List.any_append, strays, missing, conflicts, Bool.false_or,
    Bool.or_false, Bool.or_eq_true, any_droppedReports distinct member,
    any_capReports distinct member, keptIndices, childTags]
  constructor
  · rintro (dropped | ⟨-, beyond⟩)
    · exact .inl dropped
    · exact .inr beyond
  · rintro (dropped | beyond)
    · exact .inl dropped
    -- A child left out is not reported a second time, but it is reported.
    · exact (Classical.em (item.2 ∈ longestMatch ordered.segments _)).symm.imp_right
        fun inKept => ⟨inKept, beyond⟩

/-- Of the children with a capped tag those are spared that the match keeps, among the first ones up
to the cap. -/
theorem spared_eq_countP
    (distinct : ((ordered.grammarChildren children).map StartTag.position).Nodup) {tag : Tag}
    {cap : Int} (capped : ordered.caps.get? tag = some cap) :
    ordered.spared parent children tag =
      (occurrences (ordered.childTags children) tag).countP fun index =>
        (ordered.keptIndices children).contains index &&
          decide ((ordinal (ordered.childTags children) tag index : Int) ≤ cap) := by
  have indexed : (ordered.childTags children).zipIdx =
      (ordered.grammarChildren children).zipIdx.map (Prod.map StartTag.tag id) :=
    List.zipIdx_map
  have asZip : ordered.spared parent children tag =
      ((ordered.grammarChildren children).zipIdx.map Prod.fst).countP fun child =>
        child.tag == tag &&
          !(ordered.checkChildren parent children).any (Diagnostic.dismisses child) := by
    rw [List.zipIdx_map_fst]
    rfl
  -- Both sides count over the indexed children; the tag decides which cap applies.
  rw [asZip, countP_occurrences, indexed, List.countP_map, List.countP_map]
  apply List.countP_congr
  intro item member
  have dismissed := @dismissed_iff ordered parent children distinct item member
  simp only [Function.comp_apply, Bool.and_eq_true, beq_iff_eq, Bool.not_eq_true',
    ← Bool.not_eq_true, dismissed, not_or, not_not, Prod.map_fst, Prod.map_snd, id_eq,
    List.contains_iff_mem, decide_eq_true_eq]
  rw [and_comm]
  refine and_congr_left fun own => and_congr_right fun _ => ?_
  rw [own, capped]
  simp

theorem position_of_grammarChild? {child : Node} {start : StartTag}
    (found : ordered.grammarChild? child = some start) : start.position = child.position := by
  have isStart := start?_of_grammarChild? found
  cases child with
  | text data position => cases isStart
  | element own inside =>
    cases isStart
    rfl

/-- The children of the grammar stand where the relevant children that belong to it do. -/
theorem map_position_grammarChildren (ordered : Ordered) (children : List Node) :
    (ordered.grammarChildren children).map StartTag.position =
      ((children.filter ordered.isRelevant).filter fun child =>
        (ordered.grammarChild? child).isSome).map Node.position := by
  rw [grammarChildren]
  induction children.filter ordered.isRelevant with
  | nil => rfl
  | cons child rest ih =>
    cases found : ordered.grammarChild? child with
    | none => simpa [found] using ih
    | some start => simpa [found, position_of_grammarChild? found] using ih

/-- The positions of the children of the grammar are positions of children, in order. -/
theorem positions_sublist (ordered : Ordered) (children : List Node) :
    ((ordered.grammarChildren children).map StartTag.position).Sublist
      (children.map Node.position) := by
  rw [map_position_grammarChildren]
  exact (List.filter_sublist.trans List.filter_sublist).map Node.position

/-- Marks tell the children of the grammar apart. -/
theorem nodup_positions_marked (ordered : Ordered) (place : Place) :
    ((ordered.grammarChildren place.marked.children).map StartTag.position).Nodup :=
  place.nodup_position_marked.sublist (ordered.positions_sublist place.marked.children)

theorem childTags_marked (ordered : Ordered) (place : Place) :
    ordered.childTags place.marked.children = ordered.childTags place.children := by
  rw [childTags, childTags, grammarChildren_alike place.alike_marked, map_tag_moved]

/-- The same with marks, which tell the children apart. -/
theorem spared_marked (place : Place) {tag : Tag} {cap : Int}
    (capped : ordered.caps.get? tag = some cap) :
    ordered.spared place.marked.start place.marked.children tag =
      (occurrences (ordered.childTags place.children) tag).countP fun index =>
        (ordered.keptIndices place.children).contains index &&
          decide ((ordinal (ordered.childTags place.children) tag index : Int) ≤ cap) := by
  rw [spared_eq_countP (ordered.nodup_positions_marked place) capped, keptIndices, keptIndices,
    childTags_marked]

/-- Caps count the children that the match leaves out. Let the children of an element be told apart
by marks, and take a tag with a cap. Of the children of the grammar with the tag, those are left
without a finding that they are out of order or one too many that the match keeps and that are among
the first ones, as many as the cap allows. They are no more than the cap and no more than the kept
ones; and they are as many as one of the two exactly if all kept ones are among the first or all the
first are kept.

The findings about the element itself are the same apart from positions, and where no two children
of the grammar share one they tell the same. -/
theorem spared_eq_min_iff (ordered : Ordered) {tag : Tag} {cap : Int}
    (capped : ordered.caps.get? tag = some cap) (place : Place) :
    let found := ordered.checkChildren place.marked.start place.marked.children
    let spared := ordered.spared place.marked.start place.marked.children tag
    let occurs := occurrences (ordered.childTags place.children) tag
    let kept := ordered.keptIndices place.children
    let isFirst := fun index =>
      decide ((ordinal (ordered.childTags place.children) tag index : Int) ≤ cap)
    ordered.checkChildren place.start place.children =
        found.map (Diagnostic.moved place.unmark) ∧
      (((ordered.grammarChildren place.children).map StartTag.position).Nodup →
        ordered.spared place.start place.children tag = spared) ∧
      spared = occurs.countP (fun index => kept.contains index && isFirst index) ∧
      spared ≤ min cap.toNat (occurs.countP kept.contains) ∧
      (spared = min cap.toNat (occurs.countP kept.contains) ↔
        (∀ index ∈ occurs, index ∈ kept → isFirst index) ∨
          ∀ index ∈ occurs, isFirst index → index ∈ kept) := by
  intro found spared occurs kept isFirst
  have counted : spared = occurs.countP fun index => kept.contains index && isFirst index :=
    spared_marked place capped
  have first : occurs.countP isFirst = min cap.toNat occurs.length :=
    countP_ordinal_le (ordered.childTags place.children) tag cap
  obtain ⟨atMost, exactly⟩ := @countP_picked_first _ kept.contains isFirst occurs cap.toNat first
  rw [← counted] at atMost exactly
  refine ⟨checkChildren_alike place.alike_marked ordered place.marked.start, ?_, counted, atMost,
    ?_⟩
  · intro distinct
    rw [counted]
    exact spared_eq_countP distinct capped
  · simpa only [List.contains_iff_mem] using exactly

end Ordered

/-- A table with a foot on each side of its rows. -/
def feetAroundRows : Place where
  start := .named "table"
  before := []
  after := []
  children := [
    .element (.named "thead") [], .element (.named "tfoot") [], .element (.named "tbody") [],
    .element (.named "tfoot") []]
  above := []

theorem spared_eq_min_iff_feetAroundRows :
    Rulebook.tableParts.caps.get? .tfoot = some 1 ∧
    Rulebook.tableParts.spared feetAroundRows.marked.start feetAroundRows.marked.children .tfoot =
      min 1 2 := by
  have capped : Rulebook.tableParts.caps.get? .tfoot = some 1 := by decide
  have tags : Rulebook.tableParts.childTags feetAroundRows.children =
      [.thead, .tfoot, .tbody, .tfoot] := by decide +kernel
  have kept : Rulebook.tableParts.keptIndices feetAroundRows.children = [0, 1, 2, 3] := by
    rw [Ordered.keptIndices, tags]
    decide
  obtain ⟨-, -, -, -, exactly⟩ := Rulebook.tableParts.spared_eq_min_iff capped feetAroundRows
  rw [tags, kept] at exactly
  exact ⟨capped, exactly.mpr (.inr (by decide))⟩

/-- A table with a foot before its caption and another one at the end. -/
def footBeforeCaption : Place where
  start := .named "table"
  before := []
  after := []
  children := [
    .element (.named "tfoot" [] { line := 2 }) [], .element (.named "caption" [] { line := 3 }) [],
    .element (.named "colgroup" [] { line := 4 }) [], .element (.named "tfoot" [] { line := 5 }) []]
  above := []

/-- One foot is allowed and the match keeps one, but both are reported. -/
theorem both_feet_reported :
    Rulebook.tableParts.caps.get? .tfoot = some 1 ∧
    (∀ segment ∈ Rulebook.tableParts.segments, segment.Bounded) ∧
    Rulebook.tableParts.keptIndices footBeforeCaption.children = [1, 2, 3] ∧
    (occurrences (Rulebook.tableParts.childTags footBeforeCaption.children) .tfoot).countP
      (Rulebook.tableParts.keptIndices footBeforeCaption.children).contains = 1 ∧
    Rulebook.tableParts.spared footBeforeCaption.marked.start footBeforeCaption.marked.children
      .tfoot ≠ min 1 1 ∧
    (Rulebook.tableParts.checkChildren footBeforeCaption.start footBeforeCaption.children).map
      (fun finding => (finding.code, finding.position.line)) =
        [(Code.tooMany.name, 2), (Code.tooMany.name, 5)] := by
  have capped : Rulebook.tableParts.caps.get? .tfoot = some 1 := by decide
  have tags : Rulebook.tableParts.childTags footBeforeCaption.children =
      [.tfoot, .caption, .colgroup, .tfoot] := by decide +kernel
  have kept : Rulebook.tableParts.keptIndices footBeforeCaption.children = [1, 2, 3] := by
    rw [Ordered.keptIndices, tags]
    decide
  refine ⟨capped, by simp [Rulebook.tableParts, Segment.Bounded], kept, ?_, ?_, ?_⟩
  · rw [tags, kept]
    decide
  · rw [Ordered.spared_marked footBeforeCaption capped, tags, kept]
    decide
  · decide +kernel

end HtmlNesting
