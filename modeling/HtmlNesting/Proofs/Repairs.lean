import HtmlNesting.Proofs.CapFindings

/-!
# Deleting what is reported

Some findings say that a child should not be there: it is not allowed, out of order or one too many.
No child is reported so twice, and when the reported children are deleted none of the others is.

For an ordered model this rests on three facts. What the longest match keeps is a word of the
segments, and a part of such a word is one too (`mem_prod_of_sublist`), so that the second match
keeps everything. A child that stays was within the cap of its tag when more children came before it
(`count_filter_le`). And a stray is a stray whatever the other children are. A membership model
counts as it goes, so there the induction compares the tags seen in both runs.

Children are told apart by position here, and in the end by marks.
-/

namespace HtmlNesting

/-- Whether a finding says that a child should not be there. -/
def Diagnostic.isUnwanted (finding : Diagnostic) : Bool :=
  finding.isUnder [.notAllowed, .outOfOrder, .tooMany]

theorem Diagnostic.isUnwanted_of_code {finding : Diagnostic} {code : Code}
    (same : finding.code = code.name) :
    finding.isUnwanted = true ↔ code ∈ [Code.notAllowed, .outOfOrder, .tooMany] := by
  rw [isUnwanted, isUnder, same]
  cases code <;> decide

theorem filter_isUnwanted_eq_self {found : List Diagnostic}
    (unwanted : ∀ finding ∈ found,
      ∃ code ∈ [Code.notAllowed, .outOfOrder, .tooMany], finding.code = code.name) :
    found.filter Diagnostic.isUnwanted = found := by
  rw [List.filter_eq_self]
  intro finding member
  obtain ⟨code, known, same⟩ := unwanted finding member
  exact (Diagnostic.isUnwanted_of_code same).mpr known

theorem filter_isUnwanted_eq_nil {found : List Diagnostic} {code : Code}
    (other : code ∉ [Code.notAllowed, .outOfOrder, .tooMany])
    (same : ∀ finding ∈ found, finding.code = code.name) :
    found.filter Diagnostic.isUnwanted = [] := by
  rw [List.filter_eq_nil_iff]
  intro finding member
  exact mt (Diagnostic.isUnwanted_of_code (same finding member)).mp other

/-! ## Parts of a word -/

/-- A part of a run is a run. -/
theorem Segment.mem_language_of_sublist {segment : Segment} {run part : List Tag}
    (member : run ∈ segment.language) (within : part.Sublist run) : part ∈ segment.language := by
  refine ⟨fun tag listed => member.1 tag (within.subset listed), fun max known => ?_⟩
  have short := member.2 max known
  have shorter := within.length_le
  omega

/-- A part of a word of some segments is a word of them. -/
theorem mem_prod_of_sublist {segments : List Segment} {word part : List Tag}
    (member : word ∈ (segments.map Segment.language).prod) (within : part.Sublist word) :
    part ∈ (segments.map Segment.language).prod := by
  induction segments generalizing word part with
  | nil =>
    have empty : word = [] := member
    rw [empty] at within member
    rwa [List.sublist_nil.mp within]
  | cons segment rest ih =>
    rw [List.map_cons, List.prod_cons] at member ⊢
    obtain ⟨run, isRun, others, inRest, rfl⟩ := Language.mem_mul.mp member
    obtain ⟨first, second, rfl, inRun, inOthers⟩ := List.sublist_append_iff.mp within
    exact Language.append_mem_mul (Segment.mem_language_of_sublist isRun inRun)
      (ih inRest inOthers)

/-- A part of some items with different keys consists of the items with its keys. -/
theorem eq_filter_of_sublist {α κ : Type} [BEq κ] [LawfulBEq κ] {key : α → κ}
    {part items : List α} (within : part.Sublist items) (distinct : (items.map key).Nodup) :
    part = items.filter fun item => (part.map key).contains (key item) := by
  induction within with
  | slnil => rfl
  | @cons part items item within ih =>
    rw [List.map_cons, List.nodup_cons] at distinct
    have absent : key item ∉ part.map key := fun listed =>
      distinct.1 ((within.map key).subset listed)
    rw [List.filter_cons_of_neg (by simpa using absent)]
    exact ih distinct.2
  | @cons_cons part items item within ih =>
    rw [List.map_cons, List.nodup_cons] at distinct
    rw [List.filter_cons_of_pos (by simp)]
    refine congrArg (item :: ·) ((ih distinct.2).trans (List.filter_congr fun other listed => ?_))
    have different : key other ≠ key item := fun same =>
      distinct.1 (same ▸ List.mem_map_of_mem listed)
    simp [different]

/-- Tags that the longest match keeps are a word of the segments, even if some are left out. -/
theorem mem_prod_of_kept {segments : List Segment}
    (bounded : ∀ segment ∈ segments, segment.Bounded) {tags : List Tag} {part : List (Tag × Nat)}
    (within : part.Sublist tags.zipIdx)
    (kept : ∀ item ∈ part, item.2 ∈ longestMatch segments tags) :
    part.map Prod.fst ∈ (segments.map Segment.language).prod := by
  obtain ⟨cell, selects⟩ := longestMatch_selects segments tags
  obtain ⟨chosen, fromTags, indices, reaches⟩ := selects_iff_sublist.mp selects
  rw [List.reverse_reverse] at indices
  have word : chosen.map Prod.fst ∈ (segments.map Segment.language).prod :=
    (exists_reaches_iff bounded).mp ⟨cell, reaches⟩
  have distinct : (tags.zipIdx.map Prod.snd).Nodup := by
    rw [List.zipIdx_map_snd]
    exact List.nodup_range'
  have inChosen : part.Sublist chosen := by
    rw [eq_filter_of_sublist fromTags distinct, ← indices]
    have filtered := within.filter fun item => (longestMatch segments tags).contains item.2
    rwa [List.filter_eq_self.mpr fun item member => by simpa using kept item member] at filtered
  exact mem_prod_of_sublist word (inChosen.map Prod.fst)

/-! ## Membership models -/

namespace Members

variable {members : Members} {parent : StartTag} {seen fewer : List Tag} {child : Node}

/-- The tags with a quota that occurred before the next child. -/
def seenAfter (members : Members) (seen : List Tag) (child : Node) : List Tag :=
  if members.rejects child || members.skips child then seen
  else (members.limit? child).elim seen fun quota => quota.1 :: seen

/-- What is reported on a child when some tags have occurred before. -/
def reportsOn (members : Members) (parent : StartTag) (seen : List Tag) (child : Node) :
    List Diagnostic :=
  if members.rejects child then [members.notAllowed parent child]
  else if members.skips child then []
  else (members.limit? child).elim [] fun quota =>
    if quota.2 < (seen.count quota.1 : Int) + 1 then
      [members.tooMany parent child quota.1 quota.2]
    else []

theorem checkFrom_cons (members : Members) (parent : StartTag) (seen : List Tag) (child : Node)
    (rest : List Node) :
    members.checkFrom parent seen (child :: rest) =
      members.reportsOn parent seen child ++
        members.checkFrom parent (members.seenAfter seen child) rest := by
  rw [checkFrom, reportsOn, seenAfter, rejects]
  cases members.skips child with
  | true => simp
  | false =>
    cases members.allows child with
    | true =>
      cases members.limit? child with
      | none => simp
      | some quota =>
        simp only [Bool.false_eq_true, if_false, if_true, Bool.not_true, Bool.and_false,
          Bool.or_self, Option.elim_some]
        split <;> rfl
    | false => simp

/-- There is one report on a child at most, and it is at the child. -/
theorem reportsOn_cases (members : Members) (parent : StartTag) (seen : List Tag) (child : Node) :
    members.reportsOn parent seen child = [] ∨
      ∃ finding, members.reportsOn parent seen child = [finding] ∧
        finding.position = child.position := by
  rw [reportsOn]
  split
  · exact .inr ⟨_, rfl, rfl⟩
  · split
    · exact .inl rfl
    · cases members.limit? child with
      | none => exact .inl rfl
      | some quota =>
        simp only [Option.elim_some]
        split
        · exact .inr ⟨_, rfl, rfl⟩
        · exact .inl rfl

/-- A child that is fine stays fine when less has occurred before. -/
theorem reportsOn_of_fewer (less : ∀ tag, fewer.count tag ≤ seen.count tag)
    (silent : members.reportsOn parent seen child = []) :
    members.reportsOn parent fewer child = [] := by
  rw [reportsOn] at silent ⊢
  by_cases rejected : members.rejects child = true
  · simp [rejected] at silent
  by_cases skipped : members.skips child = true
  · simp [rejected, skipped]
  rw [if_neg rejected, if_neg skipped] at silent ⊢
  cases limited : members.limit? child with
  | none => rfl
  | some quota =>
    simp only [limited, Option.elim_some, ite_eq_right_iff, List.cons_ne_nil, imp_false]
      at silent ⊢
    have lower := less quota.1
    omega

theorem count_seenAfter_le (less : ∀ tag, fewer.count tag ≤ seen.count tag) (child : Node)
    (tag : Tag) :
    (members.seenAfter fewer child).count tag ≤ (members.seenAfter seen child).count tag := by
  rw [seenAfter, seenAfter]
  split
  · exact less tag
  · cases members.limit? child with
    | none => exact less tag
    | some quota =>
      simp only [Option.elim_some, List.count_cons]
      have lower := less tag
      omega

theorem count_le_seenAfter (seen : List Tag) (child : Node) (tag : Tag) :
    seen.count tag ≤ (members.seenAfter seen child).count tag := by
  rw [seenAfter]
  split
  · exact Nat.le_refl _
  · cases members.limit? child with
    | none => exact Nat.le_refl _
    | some quota => exact List.count_le_count_cons

/-- Findings come in the order of the children, one for each at most. -/
theorem positions_checkFrom_sublist (members : Members) (parent : StartTag) (seen : List Tag)
    (children : List Node) :
    ((members.checkFrom parent seen children).map Diagnostic.position).Sublist
      (children.map Node.position) := by
  induction children generalizing seen with
  | nil => exact .slnil
  | cons child rest ih =>
    rw [checkFrom_cons, List.map_append, List.map_cons]
    rcases members.reportsOn_cases parent seen child with silent | ⟨finding, reported, here⟩
    · rw [silent]
      exact (ih _).cons _
    · rw [reported, List.map_singleton, here]
      exact (ih _).cons_cons _

/-- A membership model has no other findings than that a child should not be there. -/
theorem filter_isUnwanted_checkFrom (members : Members) (parent : StartTag) (seen : List Tag)
    (children : List Node) :
    (members.checkFrom parent seen children).filter Diagnostic.isUnwanted =
      members.checkFrom parent seen children := by
  refine filter_isUnwanted_eq_self fun finding member => ?_
  obtain ⟨code, known, child, -, message, rfl⟩ := mem_checkFrom member
  simp only [List.mem_cons, List.not_mem_nil, or_false] at known
  rcases known with rfl | rfl
  · exact ⟨.notAllowed, by simp, rfl⟩
  · exact ⟨.tooMany, by simp, rfl⟩

/-- Without the children that are reported, nothing is. -/
theorem checkFrom_filter {remains : Node → Bool} {children : List Node}
    (less : ∀ tag, fewer.count tag ≤ seen.count tag)
    (unreported : ∀ child ∈ children, remains child = true →
      ∀ finding ∈ members.checkFrom parent seen children, finding.position ≠ child.position) :
    members.checkFrom parent fewer (children.filter remains) = [] := by
  -- Less is seen in the second run, since children are missing from it.
  induction children generalizing seen fewer with
  | nil => rfl
  | cons child rest ih =>
    rw [checkFrom_cons] at unreported
    have later : ∀ other ∈ rest, remains other = true →
        ∀ finding ∈ members.checkFrom parent (members.seenAfter seen child) rest,
          finding.position ≠ other.position := fun other listed stays finding found =>
      unreported other (List.mem_cons_of_mem _ listed) stays finding (List.mem_append_right _ found)
    by_cases stays : remains child = true
    · have silent : members.reportsOn parent seen child = [] := by
        refine (members.reportsOn_cases parent seen child).resolve_right ?_
        rintro ⟨finding, reported, here⟩
        exact unreported child List.mem_cons_self stays finding (by simp [reported]) here
      rw [List.filter_cons_of_pos stays, checkFrom_cons, reportsOn_of_fewer less silent,
        List.nil_append]
      exact ih (count_seenAfter_le less child) later
    · rw [List.filter_cons_of_neg stays]
      exact ih (fun tag => (less tag).trans (count_le_seenAfter seen child tag)) later

end Members

/-! ## Ordered models -/

/-- Where items have different keys, selections that share no item share no key. -/
theorem disjoint_map_filter {α κ : Type} {key : α → κ} {items : List α} {first second : α → Bool}
    (distinct : (items.map key).Nodup)
    (apart : ∀ item ∈ items, first item = true → second item = true → False) :
    ((items.filter first).map key).Disjoint ((items.filter second).map key) := by
  intro value inFirst inSecond
  obtain ⟨item, listed, rfl⟩ := List.mem_map.mp inFirst
  obtain ⟨other, otherListed, same⟩ := List.mem_map.mp inSecond
  rw [List.mem_filter] at listed otherListed
  obtain rfl := List.inj_on_of_nodup_map distinct otherListed.1 listed.1 same
  exact apart other listed.1 listed.2 otherListed.2

/-- Let the children that remain each be among the first with a tag, up to a number of them. Then
they are no more than this number. -/
theorem count_filter_le {grammar : List StartTag} {remains : StartTag → Bool} {tag : Tag}
    {cap : Int}
    (within : ∀ item ∈ grammar.zipIdx, remains item.1 = true → item.1.tag = tag →
      (ordinal (grammar.map StartTag.tag) tag item.2 : Int) ≤ cap)
    (occurs : tag ∈ (grammar.filter remains).map StartTag.tag) :
    (((grammar.filter remains).map StartTag.tag).count tag : Int) ≤ cap := by
  -- The induction is from the end: the last one that remains is preceded by all others.
  induction grammar using List.reverseRecOn with
  | nil => simp at occurs
  | append_singleton grammar last ih =>
    by_cases counts : remains last = true ∧ last.tag = tag
    · have bound := within (last, grammar.length) (by simp [List.zipIdx_append]) counts.1 counts.2
      have part : (((grammar ++ [last]).filter remains).map StartTag.tag).Sublist
          ((grammar ++ [last]).map StartTag.tag) := List.filter_sublist.map _
      have fewer := part.count_le tag
      rw [ordinal, List.take_of_length_le (by simp)] at bound
      omega
    · have ends : (([last].filter remains).map StartTag.tag).count tag = 0 := by
        rw [List.count_eq_zero]
        intro member
        obtain ⟨other, listed, same⟩ := List.mem_map.mp member
        obtain ⟨isLast, stays⟩ := List.mem_filter.mp listed
        rw [List.mem_singleton.mp isLast] at stays same
        exact counts ⟨stays, same⟩
      rw [List.filter_append, List.map_append] at occurs ⊢
      rw [List.count_append, ends, Nat.add_zero]
      refine ih (fun item listed stays same => ?_) ?_
      · have bound := within item (by simp [List.zipIdx_append, listed]) stays same
        have inRange := (List.mem_zipIdx listed).2.1
        rwa [ordinal, List.map_append, List.take_append_of_le_length (by simp; omega)] at bound
      · exact (List.mem_append.mp occurs).resolve_right (List.count_eq_zero.mp ends)

namespace Ordered

variable {ordered : Ordered} {parent : StartTag} {children : List Node}

/-- The children of the grammar among those that remain are those of the grammar that remain. -/
theorem grammarChildren_filter (ordered : Ordered) (children : List Node)
    (remains : Position → Bool) :
    ordered.grammarChildren (children.filter fun child => remains child.position) =
      (ordered.grammarChildren children).filter fun child => remains child.position := by
  simp only [grammarChildren, List.filterMap_filter, List.filter_filterMap]
  refine List.filterMap_congr fun child _ => ?_
  cases found : ordered.grammarChild? child with
  | none => simp
  | some start =>
    have here := position_of_grammarChild? found
    by_cases relevant : ordered.isRelevant child = true
    · simp [relevant, here, Option.filter_some]
    · simp [relevant]

/-- The findings that a child should not be there are those on strays, on children left out by the
longest match and on children beyond a cap. -/
theorem filter_isUnwanted_checkChildren (ordered : Ordered) (parent : StartTag)
    (children : List Node) :
    (ordered.checkChildren parent children).filter Diagnostic.isUnwanted =
      (ordered.strays children).map (ordered.strayReport parent) ++
        (ordered.droppedReports parent (ordered.grammarChildren children)
          (ordered.keptIndices children) ++
        ordered.capReports parent (ordered.grammarChildren children)
          (ordered.keptIndices children)) := by
  have strays : ((ordered.strays children).map (ordered.strayReport parent)).filter
      Diagnostic.isUnwanted = (ordered.strays children).map (ordered.strayReport parent) := by
    refine filter_isUnwanted_eq_self fun finding member => ?_
    obtain ⟨child, -, rfl⟩ := List.mem_map.mp member
    exact ⟨.notAllowed, by simp, rfl⟩
  have dropped (grammar kept) : (ordered.droppedReports parent grammar kept).filter
      Diagnostic.isUnwanted = ordered.droppedReports parent grammar kept := by
    refine filter_isUnwanted_eq_self fun finding member => ?_
    obtain ⟨code, known, child, -, message, rfl⟩ := mem_droppedReports member
    exact ⟨code, List.mem_cons_of_mem _ known, rfl⟩
  have capped (grammar kept) : (ordered.capReports parent grammar kept).filter
      Diagnostic.isUnwanted = ordered.capReports parent grammar kept := by
    refine filter_isUnwanted_eq_self fun finding member => ?_
    obtain ⟨child, -, message, rfl⟩ := mem_capReports member
    exact ⟨.tooMany, by simp, rfl⟩
  have missing (tags) : (ordered.missingReports parent tags).filter Diagnostic.isUnwanted = [] := by
    refine filter_isUnwanted_eq_nil (by decide : Code.missingRequired ∉ _) fun finding member => ?_
    obtain ⟨message, rfl⟩ := mem_missingReports member
    rfl
  have conflicts (grammar) : (ordered.conflictReports parent grammar).filter
      Diagnostic.isUnwanted = [] := by
    refine filter_isUnwanted_eq_nil (by decide : Code.exclusiveConflict ∉ _) fun finding member => ?_
    obtain ⟨child, -, message, rfl⟩ := mem_conflictReports member
    rfl
  simp only [checkChildren, List.filter_append, strays, dropped, capped, missing, conflicts,
    List.append_nil, List.append_assoc, keptIndices, childTags]

/-- Where the children of the grammar are at different positions, those left out by the match and
those beyond a cap are different children. -/
theorem nodup_position_dropped_capped {grammar : List StartTag} {kept : List Nat}
    (distinct : (grammar.map StartTag.position).Nodup) :
    ((ordered.droppedReports parent grammar kept ++
      ordered.capReports parent grammar kept).map Diagnostic.position).Nodup := by
  have items : (grammar.zipIdx.map fun item => item.1.position).Nodup := by
    have same : grammar.zipIdx.map (fun item => item.1.position) =
        (grammar.zipIdx.map Prod.fst).map StartTag.position := by
      rw [List.map_map]
      rfl
    rwa [same, List.zipIdx_map_fst]
  have droppedAt : (ordered.droppedReports parent grammar kept).map Diagnostic.position =
      (grammar.zipIdx.filter fun item => !kept.contains item.2).map fun item =>
        item.1.position := by
    rw [droppedReports, List.map_map]
    refine List.map_congr_left fun item _ => ?_
    obtain ⟨code, -, message, report⟩ :=
      ordered.exists_droppedReport parent (grammar.map StartTag.tag) item.1
    rw [Function.comp_apply, report]
    rfl
  have cappedAt : (ordered.capReports parent grammar kept).map Diagnostic.position =
      ordered.caps.entries.flatMap fun entry =>
        (grammar.zipIdx.filter fun item =>
          item.1.tag == entry.1 && kept.contains item.2 &&
            decide (entry.2 <
              (((grammar.take (item.2 + 1)).map StartTag.tag).count entry.1 : Int))).map fun item =>
          item.1.position := by
    rw [capReports, List.map_flatMap]
    refine List.flatMap_congr fun entry _ => ?_
    rw [List.map_map]
    rfl
  rw [List.map_append, droppedAt, cappedAt, List.nodup_append', List.nodup_flatMap]
  refine ⟨items.sublist (List.filter_sublist.map _), ⟨?_, ?_⟩, ?_⟩
  · exact fun entry _ => items.sublist (List.filter_sublist.map _)
  · -- A child has one tag, and a tag one cap.
    have keys : ordered.caps.entries.Pairwise fun first second => first.1 ≠ second.1 :=
      List.pairwise_map.mp ordered.caps.distinct
    refine keys.imp fun different => disjoint_map_filter items fun item _ first second => ?_
    simp only [Bool.and_eq_true, beq_iff_eq] at first second
    exact different (first.1.1.symm.trans second.1.1)
  · intro position dropped capped
    obtain ⟨entry, -, beyond⟩ := List.mem_flatMap.mp capped
    refine disjoint_map_filter items (fun item _ first second => ?_) dropped beyond
    simp only [Bool.and_eq_true, Bool.not_eq_true'] at first second
    exact Bool.false_ne_true (first.symm.trans second.1.2)

/-- Children left out by the match or beyond a cap are children of the grammar. -/
theorem position_mem_grammar {grammar : List StartTag} {kept : List Nat} {finding : Diagnostic}
    (reported : finding ∈ ordered.droppedReports parent grammar kept ++
      ordered.capReports parent grammar kept) :
    finding.position ∈ grammar.map StartTag.position := by
  rcases List.mem_append.mp reported with dropped | capped
  · obtain ⟨code, -, child, listed, message, rfl⟩ := mem_droppedReports dropped
    exact List.mem_map_of_mem listed
  · obtain ⟨child, listed, message, rfl⟩ := mem_capReports capped
    exact List.mem_map_of_mem listed

/-- Where children are at different positions, no position is reported twice. -/
theorem nodup_position_unwanted (distinct : (children.map Node.position).Nodup) :
    (((ordered.checkChildren parent children).filter Diagnostic.isUnwanted).map
      Diagnostic.position).Nodup := by
  have relevant : ((children.filter ordered.isRelevant).map Node.position).Nodup :=
    distinct.sublist (List.filter_sublist.map _)
  have straysAt : ((ordered.strays children).map (ordered.strayReport parent)).map
      Diagnostic.position = (ordered.strays children).map Node.position := by
    rw [List.map_map]
    rfl
  rw [filter_isUnwanted_checkChildren, List.map_append, straysAt, List.nodup_append']
  refine ⟨relevant.sublist (List.filter_sublist.map _),
    nodup_position_dropped_capped (distinct.sublist (ordered.positions_sublist children)), ?_⟩
  -- What is not a stray is at the position of a child of the grammar.
  have apart : ((ordered.strays children).map Node.position).Disjoint
      ((ordered.grammarChildren children).map StartTag.position) := by
    rw [map_position_grammarChildren]
    exact disjoint_map_filter relevant fun child _ none some => by simp_all
  refine List.disjoint_of_subset_right (fun position member => ?_) apart
  obtain ⟨finding, reported, rfl⟩ := List.mem_map.mp member
  exact position_mem_grammar reported

/-- A child of the grammar that is not reported is kept by the longest match and within the cap of
its tag. -/
theorem kept_of_unreported (distinct : (children.map Node.position).Nodup)
    {item : StartTag × Nat} (member : item ∈ (ordered.grammarChildren children).zipIdx)
    (unreported : ∀ finding ∈ (ordered.checkChildren parent children).filter
      Diagnostic.isUnwanted, finding.position ≠ item.1.position) :
    item.2 ∈ ordered.keptIndices children ∧
      ∀ cap, ordered.caps.get? item.1.tag = some cap →
        (ordinal (ordered.childTags children) item.1.tag item.2 : Int) ≤ cap := by
  have grammar := distinct.sublist (ordered.positions_sublist children)
  have spared : ¬ (ordered.checkChildren parent children).any
      (Diagnostic.dismisses item.1) = true := by
    rw [List.any_eq_true]
    rintro ⟨finding, found, dismissed⟩
    rw [Diagnostic.dismisses, Bool.and_eq_true, Diagnostic.isAt_iff] at dismissed
    refine unreported finding (List.mem_filter.mpr ⟨found, ?_⟩) dismissed.1
    simpa [Diagnostic.isUnwanted, Diagnostic.isUnder] using .inr (by simpa using dismissed.2)
  rw [dismissed_iff grammar member, not_or, not_not] at spared
  refine ⟨spared.1, fun cap capped => ?_⟩
  by_contra excess
  exact spared.2 ⟨cap, capped, by omega⟩

section

variable {remains : Position → Bool}

/-- Where all strays are reported, none remains. -/
theorem strays_filter
    (unreported : ∀ position, remains position = true →
      ∀ finding ∈ (ordered.checkChildren parent children).filter Diagnostic.isUnwanted,
        finding.position ≠ position) :
    ordered.strays (children.filter fun child => remains child.position) = [] := by
  rw [List.eq_nil_iff_forall_not_mem]
  intro child member
  simp only [strays, List.mem_filter] at member
  obtain ⟨⟨⟨listed, remaining⟩, relevant⟩, isStray⟩ := member
  have reported : ordered.strayReport parent child ∈
      (ordered.checkChildren parent children).filter Diagnostic.isUnwanted := by
    rw [filter_isUnwanted_checkChildren]
    refine List.mem_append_left _ (List.mem_map_of_mem ?_)
    exact List.mem_filter.mpr ⟨List.mem_filter.mpr ⟨listed, relevant⟩, isStray⟩
  exact unreported child.position remaining _ reported rfl

/-- Where only kept children of the grammar remain, their tags are a word of the segments. -/
theorem childTags_filter_mem_prod (bounded : ∀ segment ∈ ordered.segments, segment.Bounded)
    (kept : ∀ item ∈ (ordered.grammarChildren children).zipIdx,
      remains item.1.position = true → item.2 ∈ ordered.keptIndices children) :
    ordered.childTags (children.filter fun child => remains child.position) ∈
      (ordered.segments.map Segment.language).prod := by
  let remaining := (ordered.grammarChildren children).zipIdx.filter fun item =>
    remains item.1.position
  have part : (remaining.map (Prod.map StartTag.tag id)).Sublist
      (ordered.childTags children).zipIdx := by
    rw [childTags, List.zipIdx_map]
    exact List.filter_sublist.map _
  have word := mem_prod_of_kept bounded part fun item listed => by
    obtain ⟨own, inPart, rfl⟩ := List.mem_map.mp listed
    obtain ⟨known, stays⟩ := List.mem_filter.mp inPart
    exact kept own known stays
  have same : (remaining.map (Prod.map StartTag.tag id)).map Prod.fst =
      (((ordered.grammarChildren children).zipIdx.map Prod.fst).filter fun child =>
        remains child.position).map StartTag.tag := by
    rw [List.filter_map, List.map_map, List.map_map]
    rfl
  rwa [same, List.zipIdx_map_fst, ← grammarChildren_filter] at word

/-- Without the children that are reported, none is. -/
theorem unwanted_filter (bounded : ∀ segment ∈ ordered.segments, segment.Bounded)
    (distinct : (children.map Node.position).Nodup)
    (unreported : ∀ position, remains position = true →
      ∀ finding ∈ (ordered.checkChildren parent children).filter Diagnostic.isUnwanted,
        finding.position ≠ position) :
    (ordered.checkChildren parent (children.filter fun child => remains child.position)).filter
      Diagnostic.isUnwanted = [] := by
  have stays (item) (listed : item ∈ (ordered.grammarChildren children).zipIdx)
      (remaining : remains item.1.position = true) :=
    kept_of_unreported distinct listed (unreported item.1.position remaining)
  have word := childTags_filter_mem_prod bounded fun item listed remaining =>
    (stays item listed remaining).1
  have allKept : ∀ index <
      (ordered.grammarChildren (children.filter fun child => remains child.position)).length,
      index ∈ ordered.keptIndices (children.filter fun child => remains child.position) := by
    have matched := forall_mem_longestMatch_iff.mpr ((exists_reaches_iff bounded).mpr word)
    rwa [childTags, List.length_map] at matched
  have capped : ordered.capReports parent
      (ordered.grammarChildren (children.filter fun child => remains child.position))
      (ordered.keptIndices (children.filter fun child => remains child.position)) = [] := by
    rw [capReports_eq_nil_iff allKept, grammarChildren_filter]
    intro entry listed occurs
    refine count_filter_le (fun item known remaining own => ?_) occurs
    have quota := Dictionary.get?_of_mem ordered.caps.distinct listed
    have within := (stays item known remaining).2 entry.2 (own ▸ quota)
    rwa [own] at within
  rw [filter_isUnwanted_checkChildren, strays_filter unreported,
    droppedReports_eq_nil_iff.mpr allKept, capped]
  rfl

end

end Ordered

/-! ## Deletion -/

namespace PlainModel

/-- The findings that a child should not be there. -/
def unwanted (model : PlainModel) (parent : StartTag) (children : List Node) : List Diagnostic :=
  (model.checkChildren parent children).filter Diagnostic.isUnwanted

/-- A membership model, or an ordered one whose maxima are not negative. -/
inductive Repairable : PlainModel → Prop
  | members (members : Members) : Repairable (.members members)
  | ordered (ordered : Ordered) (bounded : ∀ segment ∈ ordered.segments, segment.Bounded) :
    Repairable (.ordered ordered)

theorem unwanted_alike {move : Position → Position} {first second : List Node}
    (alike : Alike move first second) (parent : StartTag) (model : PlainModel) :
    model.unwanted (parent.moved move) second =
      (model.unwanted parent first).map (Diagnostic.moved move) := by
  rw [unwanted, checkChildren_alike alike, List.filter_map]
  rfl

namespace Repairable

variable {model : PlainModel} {parent : StartTag} {children : List Node}

/-- What is reported is a child. -/
theorem position_mem (repairable : model.Repairable) {finding : Diagnostic}
    (found : finding ∈ model.unwanted parent children) :
    finding.position ∈ children.map Node.position := by
  cases repairable with
  | members members =>
    exact (members.positions_checkFrom_sublist parent [] children).subset
      (List.mem_map_of_mem (List.mem_filter.mp found).1)
  | ordered ordered bounded =>
    rw [unwanted, checkChildren, Ordered.filter_isUnwanted_checkChildren, List.mem_append] at found
    rcases found with stray | inGrammar
    · obtain ⟨child, isStray, rfl⟩ := List.mem_map.mp stray
      exact List.mem_map_of_mem (List.mem_filter.mp (List.mem_filter.mp isStray).1).1
    · exact (ordered.positions_sublist children).subset (Ordered.position_mem_grammar inGrammar)

/-- No child is reported twice. -/
theorem nodup_position (repairable : model.Repairable)
    (distinct : (children.map Node.position).Nodup) :
    ((model.unwanted parent children).map Diagnostic.position).Nodup := by
  cases repairable with
  | members members =>
    refine distinct.sublist (List.Sublist.trans (List.filter_sublist.map _) ?_)
    exact members.positions_checkFrom_sublist parent [] children
  | ordered ordered bounded => exact Ordered.nodup_position_unwanted distinct

/-- Without the children that are reported, none is. -/
theorem unwanted_filter (repairable : model.Repairable)
    (distinct : (children.map Node.position).Nodup) {remains : Position → Bool}
    (unreported : ∀ position, remains position = true →
      ∀ finding ∈ model.unwanted parent children, finding.position ≠ position) :
    model.unwanted parent (children.filter fun child => remains child.position) = [] := by
  cases repairable with
  | members members =>
    have all : ∀ nodes, (PlainModel.members members).unwanted parent nodes =
        members.checkFrom parent [] nodes := members.filter_isUnwanted_checkFrom parent []
    rw [all] at unreported ⊢
    exact Members.checkFrom_filter (fun _ => Nat.le_refl _) fun child _ remaining =>
      unreported child.position remaining
  | ordered ordered bounded => exact Ordered.unwanted_filter bounded distinct unreported

end Repairable

end PlainModel

/-- The children that are left when those at some indices are deleted. -/
def deleteAt (indices : List Nat) (children : List Node) : List Node :=
  (children.zipIdx.filter fun item => !indices.contains item.2).map Prod.fst

/-- Positions among the marks of children are the marks of some indices. -/
theorem exists_indices_of_marks {place : Place} {positions : List Position}
    (marks : ∀ position ∈ positions, position ∈ place.marked.children.map Node.position) :
    ∃ indices : List Nat, positions = indices.map (fun index => .mark index) ∧
      ∀ index ∈ indices, index < place.children.length := by
  induction positions with
  | nil => exact ⟨[], rfl, by simp⟩
  | cons position rest ih =>
    rw [List.forall_mem_cons] at marks
    obtain ⟨indices, same, inRange⟩ := ih marks.2
    obtain ⟨child, member, rfl⟩ := List.mem_map.mp marks.1
    obtain ⟨index, known, mark⟩ := position_of_mem_markedFrom member
    rw [Nat.zero_add] at mark
    exact ⟨index :: indices, by rw [List.map_cons, mark, same],
      List.forall_mem_cons.mpr ⟨known, inRange⟩⟩

/-- Deleting what is reported repairs the children. Let a membership model, or an ordered one whose
maxima are not negative, check the children of an element, told apart by marks. The findings that a
child is not allowed, out of order or one too many are about children at different indices; and
without the children at these indices there is no such finding.

The findings about the element itself are the same apart from positions. -/
theorem deletion_repairs {model : PlainModel} (repairable : model.Repairable) (place : Place) :
    let found := model.unwanted place.marked.start place.marked.children
    model.unwanted place.start place.children = found.map (Diagnostic.moved place.unmark) ∧
      ∃ indices : List Nat,
        found.map Diagnostic.position = indices.map (fun index => .mark index) ∧
        indices.Nodup ∧ (∀ index ∈ indices, index < place.children.length) ∧
        model.unwanted place.start (deleteAt indices place.children) = [] := by
  intro found
  have start : place.marked.start.moved place.unmark = place.start := rfl
  refine ⟨start ▸ PlainModel.unwanted_alike place.alike_marked place.marked.start model, ?_⟩
  obtain ⟨indices, marks, inRange⟩ := @exists_indices_of_marks place
    (found.map Diagnostic.position) fun position listed => by
      obtain ⟨finding, reported, rfl⟩ := List.mem_map.mp listed
      exact repairable.position_mem reported
  have distinct : (indices.map fun index : Nat => Position.mark index).Nodup :=
    marks ▸ repairable.nodup_position place.nodup_position_marked
  refine ⟨indices, marks, distinct.of_map, inRange, ?_⟩
  -- In the marked list the children are deleted by their marks.
  let remains (position : Position) : Bool := !(found.map Diagnostic.position).contains position
  have repaired : model.unwanted place.marked.start
      (place.marked.children.filter fun child => remains child.position) = [] := by
    refine repairable.unwanted_filter place.nodup_position_marked ?_
    rintro position stays finding reported rfl
    have listed : finding.position ∈ found.map Diagnostic.position := List.mem_map_of_mem reported
    simp only [remains, List.contains_iff_mem.mpr listed, Bool.not_true, Bool.false_eq_true] at stays
  have isDeleted (index : Nat) : remains (.mark index) = !indices.contains index := by
    have same : Position.mark index ∈ found.map Diagnostic.position ↔ index ∈ indices := by
      rw [marks, List.mem_map_of_injective Position.mark_injective]
    simp only [remains, List.contains_eq_mem, same]
  have alike : Alike place.unmark
      (place.marked.children.filter fun child => remains child.position)
      (deleteAt indices place.children) := by
    have filtered := alike_filter_markedFrom (fun _ _ => place.unmark_mark) remains
    simp only [isDeleted] at filtered
    exact filtered
  have unmarked := PlainModel.unwanted_alike alike place.marked.start model
  rwa [repaired] at unmarked

/-- A table with a word in it, a head after its rows and a foot too many. -/
def crowdedTable : Place where
  start := .named "table"
  before := []
  after := []
  children := [
    .text "total" {}, .element (.named "tfoot") [], .element (.named "tbody") [],
    .element (.named "thead") [], .element (.named "tfoot") []]
  above := []

theorem deletion_repairs_crowdedTable :
    (PlainModel.ordered Rulebook.tableParts).Repairable ∧
    ((PlainModel.ordered Rulebook.tableParts).unwanted crowdedTable.marked.start
      crowdedTable.marked.children).map (fun finding => (finding.code, finding.position)) =
        [(Code.notAllowed.name, .mark 0), (Code.outOfOrder.name, .mark 3),
          (Code.tooMany.name, .mark 4)] ∧
    (PlainModel.ordered Rulebook.tableParts).unwanted crowdedTable.start
      [.element (.named "tfoot") [], .element (.named "tbody") []] = [] := by
  have repairable : (PlainModel.ordered Rulebook.tableParts).Repairable :=
    .ordered _ (by simp [Rulebook.tableParts, Segment.Bounded])
  have found : ((PlainModel.ordered Rulebook.tableParts).unwanted crowdedTable.marked.start
      crowdedTable.marked.children).map (fun finding => (finding.code, finding.position)) =
        [(Code.notAllowed.name, .mark 0), (Code.outOfOrder.name, .mark 3),
          (Code.tooMany.name, .mark 4)] := by decide +kernel
  obtain ⟨-, indices, marks, -, -, repaired⟩ := deletion_repairs repairable crowdedTable
  have positions := congrArg (List.map Prod.snd) found
  rw [List.map_map] at positions
  have same : indices = [0, 3, 4] :=
    Position.mark_injective.list_map (marks.symm.trans positions)
  rw [same] at repaired
  exact ⟨repairable, found, repaired⟩

end HtmlNesting
