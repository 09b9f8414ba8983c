import Mathlib.Computability.Language
import HtmlNesting.Content.Ordered
import HtmlNesting.Proofs.LongestMatch

/-!
# The language of an ordered model

A segment stands for the language of its runs, and segments for the product of their languages.
`Stands` reads a cell as a split of the tags so far into the runs of earlier segments and a run of
the current one. The cells that tags lead to are those they stand in (`reaches_iff_stands`), so tags
fit into segments exactly if they are a word of the product (`exists_reaches_iff`).

An ordered model has no findings exactly if the relevant children are elements whose tags it admits
(`Ordered.checkChildren_eq_nil_iff`). `Ordered.silent_iff_grammar` says the same with the runs
written out.
-/

namespace HtmlNesting

/-- The runs of a segment. -/
def Segment.language (segment : Segment) : Language Tag :=
  {run | (∀ tag ∈ run, tag ∈ segment.tags) ∧ ∀ max ∈ segment.max, (run.length : Int) ≤ max}

/-- A segment whose maximum, if there is one, is not negative. -/
def Segment.Bounded (segment : Segment) : Prop :=
  ∀ max ∈ segment.max, 0 ≤ max

namespace Segment

variable {segment : Segment} {run : List Tag} {tag : Tag}

theorem mem_language : run ∈ segment.language ↔
    (∀ tag ∈ run, tag ∈ segment.tags) ∧ ∀ max ∈ segment.max, (run.length : Int) ≤ max :=
  Iff.rfl

theorem nil_mem_language (bounded : segment.Bounded) : [] ∈ segment.language :=
  ⟨by simp, bounded⟩

/-- What the search remembers of a run: its length if the segment has a maximum. -/
def remembered (segment : Segment) (run : List Tag) : Nat :=
  if segment.max.isNone then 1 else run.length

/-- A run that goes on within the maximum is a longer run. -/
theorem concat_mem_language : run ++ [tag] ∈ segment.language ↔
    run ∈ segment.language ∧ tag ∈ segment.tags ∧
      ∀ max ∈ segment.max, (run.length : Int) + 1 ≤ max := by
  simp only [mem_language, List.length_append, List.length_singleton, List.mem_append,
    List.mem_singleton]
  constructor
  · rintro ⟨fits, short⟩
    refine ⟨⟨fun other member => fits other (.inl member), ?_⟩, fits tag (.inr rfl), short⟩
    intro max known
    have := short max known
    omega
  · rintro ⟨⟨fits, -⟩, last, short⟩
    refine ⟨?_, short⟩
    rintro other (member | rfl)
    · exact fits other member
    · exact last

/-- A segment is entered from another one by a run of a single tag. -/
theorem take?_of_ne {index : Nat} {cell next : Cell} (other : cell.segment ≠ some index)
    (bounded : segment.Bounded) :
    segment.take? index tag cell = some next ↔
      [tag] ∈ segment.language ∧
        next = { segment := some index, taken := segment.remembered [tag] } := by
  have single : segment.remembered [tag] = 1 := by simp [remembered]
  rw [single, mem_language]
  cases known : segment.max with
  | none => simp [take?, other, known, eq_comm]
  | some max =>
    have enough : max ≠ 0 ↔ 1 ≤ max := by
      have := bounded max (by simp [known])
      omega
    simp [take?, other, known, eq_comm, and_assoc, ← enough]

/-- A run is continued by a tag from the cell it stands in. -/
theorem take?_of_eq {index : Nat} {next : Cell} (current : run ∈ segment.language) :
    segment.take? index tag { segment := some index, taken := segment.remembered run } =
        some next ↔
      run ++ [tag] ∈ segment.language ∧
        next = { segment := some index, taken := segment.remembered (run ++ [tag]) } := by
  rw [concat_mem_language]
  cases known : segment.max with
  | none => simp [take?, remembered, known, current, eq_comm]
  | some max => simp [take?, remembered, known, current, eq_comm, and_assoc]

end Segment

/-- The words of the segments before an index, one run after another. -/
def languageUpTo (segments : List Segment) (index : Nat) : Language Tag :=
  ((segments.take index).map Segment.language).prod

section

variable {segments : List Segment} {tags : List Tag} {cell : Cell}

theorem languageUpTo_succ {index : Nat} {segment : Segment}
    (known : segments[index]? = some segment) :
    languageUpTo segments (index + 1) = languageUpTo segments index * segment.language := by
  rw [languageUpTo, List.take_add_one, known]
  simp [languageUpTo]

/-- Further segments may stay empty. -/
theorem languageUpTo_mono (bounded : ∀ segment ∈ segments, segment.Bounded) {first second : Nat}
    (order : first ≤ second) {word : List Tag} (member : word ∈ languageUpTo segments first) :
    word ∈ languageUpTo segments second := by
  induction order with
  | refl => exact member
  | @step second order ih =>
    cases known : segments[second]? with
    | none =>
      rw [languageUpTo, List.take_add_one, known]
      simpa [languageUpTo] using ih
    | some segment =>
      rw [languageUpTo_succ known]
      refine Language.mem_mul.mpr ⟨word, ih, [], ?_, List.append_nil word⟩
      exact Segment.nil_mem_language (bounded segment (List.mem_of_getElem? known))

/-- A split of tags into runs of earlier segments and a run of the segment of a cell. -/
inductive Stands (segments : List Segment) : List Tag → Cell → Prop where
  | start : Stands segments [] { segment := none, taken := 0 }
  | inside {index : Nat} {segment : Segment} {earlier run : List Tag}
      (known : segments[index]? = some segment) (before : earlier ∈ languageUpTo segments index)
      (current : run ∈ segment.language) (entered : run ≠ []) :
      Stands segments (earlier ++ run)
        { segment := some index, taken := segment.remembered run }

theorem mem_next {tag : Tag} {next : Cell} : next ∈ cell.next segments tag ↔
    ∃ index segment, segments[index]? = some segment ∧ cell.segment.getD 0 ≤ index ∧
      segment.take? index tag cell = some next := by
  simp only [Cell.next, List.mem_filterMap, Prod.exists, List.mem_zipIdx_iff_getElem?,
    Option.ite_none_left_eq_some, Nat.not_lt]
  exact exists_comm

/-- Taking one more tag leads from a cell that tags stand in to one that the longer list stands
in. -/
theorem Stands.step (bounded : ∀ segment ∈ segments, segment.Bounded) {tag : Tag} {next : Cell}
    (stands : Stands segments tags cell) (fits : next ∈ cell.next segments tag) :
    Stands segments (tags ++ [tag]) next := by
  obtain ⟨index, segment, known, notBefore, taken⟩ := mem_next.mp fits
  have segmentBounded := bounded segment (List.mem_of_getElem? known)
  cases stands with
  | start =>
    obtain ⟨single, rfl⟩ := (Segment.take?_of_ne (by simp) segmentBounded).mp taken
    exact .inside known (languageUpTo_mono bounded (Nat.zero_le _) rfl) single (by simp)
  | @inside current other earlier run known' before run' entered =>
    by_cases same : current = index
    · subst same
      cases known.symm.trans known'
      obtain ⟨longer, rfl⟩ := (Segment.take?_of_eq run').mp taken
      rw [List.append_assoc]
      exact .inside known before longer (by simp)
    · obtain ⟨single, rfl⟩ := (Segment.take?_of_ne (by simpa using same) segmentBounded).mp taken
      have order : current + 1 ≤ index := by
        simp only [Option.getD_some] at notBefore
        omega
      have whole : earlier ++ run ∈ languageUpTo segments (current + 1) := by
        rw [languageUpTo_succ known']
        exact Language.append_mem_mul before run'
      exact .inside known (languageUpTo_mono bounded order whole) single (by simp)

theorem Reaches.stands (bounded : ∀ segment ∈ segments, segment.Bounded)
    (reaches : Reaches segments tags cell) : Stands segments tags cell := by
  induction reaches with
  | start => exact .start
  | step earlier fits ih => exact ih.step bounded fits

/-- A word of the first segments stands in a cell of one of them. -/
theorem exists_stands_of_mem_languageUpTo {index : Nat} (known : index ≤ segments.length)
    (member : tags ∈ languageUpTo segments index) :
    ∃ cell, Stands segments tags cell ∧ ∀ current ∈ cell.segment, current < index := by
  induction index generalizing tags with
  | zero =>
    rw [show tags = [] from member]
    exact ⟨_, .start, by simp⟩
  | succ index ih =>
    have found : segments[index]? = some segments[index] := List.getElem?_eq_getElem known
    rw [languageUpTo_succ found] at member
    obtain ⟨earlier, before, run, current, rfl⟩ := Language.mem_mul.mp member
    by_cases entered : run = []
    · obtain ⟨cell, stands, below⟩ := ih (Nat.le_of_succ_le known) before
      rw [entered, List.append_nil]
      exact ⟨cell, stands, fun other inside => Nat.lt_succ_of_lt (below other inside)⟩
    · exact ⟨_, .inside found before current entered, by simp⟩

/-- The last of some tags is taken from a cell that the others stand in. -/
theorem Stands.exists_previous (bounded : ∀ segment ∈ segments, segment.Bounded) {tag : Tag}
    {next : Cell} (stands : Stands segments (tags ++ [tag]) next) :
    ∃ cell, Stands segments tags cell ∧ next ∈ cell.next segments tag := by
  generalize whole : tags ++ [tag] = all at stands
  cases stands with
  | start => simp at whole
  | @inside index segment earlier run known before current entered =>
    obtain ⟨init, last, rfl⟩ := List.eq_nil_or_concat run |>.resolve_left entered
    rw [List.concat_eq_append] at *
    rw [← List.append_assoc] at whole
    obtain ⟨rfl, same⟩ := List.append_inj' whole rfl
    cases same
    by_cases first : init = []
    · subst first
      have order := (List.getElem?_eq_some_iff.mp known).1
      obtain ⟨cell, stands, below⟩ :=
        exists_stands_of_mem_languageUpTo (Nat.le_of_lt order) before
      refine ⟨cell, by simpa using stands, mem_next.mpr ⟨index, segment, known, ?_, ?_⟩⟩
      · cases inside : cell.segment with
        | none => exact Nat.zero_le _
        | some current => exact Nat.le_of_lt (below current (by simp [inside]))
      · refine (Segment.take?_of_ne ?_ (bounded segment (List.mem_of_getElem? known))).mpr
          ⟨current, rfl⟩
        intro inside
        exact Nat.lt_irrefl _ (below index (by simp [inside]))
    · have shorter := (Segment.concat_mem_language.mp current).1
      refine ⟨_, .inside known before shorter first, mem_next.mpr ⟨index, segment, known, ?_, ?_⟩⟩
      · exact Nat.le_refl _
      · exact (Segment.take?_of_eq shorter).mpr ⟨current, rfl⟩

/-- The cells that tags lead to are those they stand in. -/
theorem reaches_iff_stands (bounded : ∀ segment ∈ segments, segment.Bounded) :
    Reaches segments tags cell ↔ Stands segments tags cell := by
  refine ⟨Reaches.stands bounded, ?_⟩
  intro stands
  induction tags using List.reverseRecOn generalizing cell with
  | nil =>
    generalize whole : ([] : List Tag) = all at stands
    cases stands with
    | start => exact .start
    | inside known before current entered =>
      exact absurd (List.append_eq_nil_iff.mp whole.symm).2 entered
  | append_singleton tags tag ih =>
    obtain ⟨previous, earlier, fits⟩ := stands.exists_previous bounded
    exact .step (ih earlier) fits

/-- Tags fit into segments exactly if they are a run of each, one after another. -/
theorem exists_reaches_iff (bounded : ∀ segment ∈ segments, segment.Bounded) :
    (∃ cell, Reaches segments tags cell) ↔ tags ∈ (segments.map Segment.language).prod := by
  have all : (segments.map Segment.language).prod = languageUpTo segments segments.length := by
    rw [languageUpTo, List.take_length]
  rw [all]
  constructor
  · rintro ⟨cell, reaches⟩
    cases (reaches_iff_stands bounded).mp reaches with
    | start => exact languageUpTo_mono bounded (Nat.zero_le _) rfl
    | inside known before current entered =>
      have order := (List.getElem?_eq_some_iff.mp known).1
      refine languageUpTo_mono bounded order ?_
      rw [languageUpTo_succ known]
      exact Language.append_mem_mul before current
  · intro member
    obtain ⟨cell, stands, -⟩ := exists_stands_of_mem_languageUpTo (Nat.le_refl _) member
    exact ⟨cell, (reaches_iff_stands bounded).mpr stands⟩

/-- The words of some segments are those that divide into runs, one for each segment. -/
theorem mem_prod_iff_runs : tags ∈ (segments.map Segment.language).prod ↔
    ∃ runs : List (List Tag), runs.flatten = tags ∧
      List.Forall₂ (fun run segment => run ∈ Segment.language segment) runs segments := by
  induction segments generalizing tags with
  | nil =>
    constructor
    · intro empty
      rw [show tags = [] from empty]
      exact ⟨[], rfl, .nil⟩
    · rintro ⟨_, rfl, related⟩
      cases related
      rfl
  | cons segment rest ih =>
    rw [List.map_cons, List.prod_cons, Language.mem_mul]
    constructor
    · rintro ⟨run, current, later, word, rfl⟩
      obtain ⟨runs, rfl, related⟩ := ih.mp word
      exact ⟨run :: runs, List.flatten_cons, .cons current related⟩
    · rintro ⟨_, rfl, related⟩
      cases related with
      | cons current further =>
        exact ⟨_, current, _, ih.mpr ⟨_, rfl, further⟩, List.flatten_cons.symm⟩

/-- Every tag of a word of some segments belongs to one of them. -/
theorem exists_segment_of_mem_prod (runs : tags ∈ (segments.map Segment.language).prod) {tag : Tag}
    (member : tag ∈ tags) : ∃ segment ∈ segments, tag ∈ segment.tags := by
  induction segments generalizing tags with
  | nil =>
    rw [show tags = [] from runs] at member
    simp at member
  | cons segment rest ih =>
    rw [List.map_cons, List.prod_cons] at runs
    obtain ⟨run, current, later, further, rfl⟩ := Language.mem_mul.mp runs
    rcases List.mem_append.mp member with inside | beyond
    · exact ⟨segment, List.mem_cons_self, current.1 tag inside⟩
    · obtain ⟨other, known, inside⟩ := ih further beyond
      exact ⟨other, List.mem_cons_of_mem _ known, inside⟩

/-- A tag that occurs has a last occurrence, which all others come before. -/
theorem exists_last_occurrence {tag : Tag} (member : tag ∈ tags) :
    ∃ index, tags[index]? = some tag ∧ (tags.take (index + 1)).count tag = tags.count tag := by
  induction tags using List.reverseRecOn with
  | nil => simp at member
  | append_singleton tags last ih =>
    by_cases same : last = tag
    · exact ⟨tags.length, by simp [same], by rw [List.take_of_length_le (by simp)]⟩
    · have earlier : tag ∈ tags := by simpa [Ne.symm same] using member
      obtain ⟨index, found, whole⟩ := ih earlier
      have order := (List.getElem?_eq_some_iff.mp found).1
      refine ⟨index, by rw [List.getElem?_append_left order, found], ?_⟩
      rw [List.take_append_of_le_length order, whole]
      simp [same]

end

/-! ## Ordered models -/

namespace Ordered

/-- The tags of children that an ordered model has nothing against. -/
structure Admits (ordered : Ordered) (tags : List Tag) : Prop where
  runs : tags ∈ (ordered.segments.map Segment.language).prod
  capped : ∀ entry ∈ ordered.caps.entries, entry.1 ∈ tags → (tags.count entry.1 : Int) ≤ entry.2
  required : ∀ segment ∈ ordered.segments, 0 < segment.min → ∃ tag ∈ tags, tag ∈ segment.tags
  apart : ∀ families ∈ ordered.exclusive,
    (∀ tag ∈ tags, tag ∉ families.1) ∨ ∀ tag ∈ tags, tag ∉ families.2

variable {ordered : Ordered} {parent : StartTag} {grammar : List StartTag} {kept : List Nat}

theorem droppedReports_eq_nil_iff :
    ordered.droppedReports parent grammar kept = [] ↔ ∀ index < grammar.length, index ∈ kept := by
  simp only [droppedReports, List.map_eq_nil_iff, List.filter_eq_nil_iff, Prod.forall,
    List.mem_zipIdx_iff_getElem?, Bool.not_eq_true, Bool.not_eq_false', List.contains_iff_mem]
  constructor
  · intro all index order
    exact all _ index (List.getElem?_eq_getElem order)
  · intro all start index found
    exact all index (List.getElem?_eq_some_iff.mp found).1

theorem capReports_eq_nil_iff (all : ∀ index < grammar.length, index ∈ kept) :
    ordered.capReports parent grammar kept = [] ↔
      ∀ entry ∈ ordered.caps.entries, entry.1 ∈ grammar.map StartTag.tag →
        ((grammar.map StartTag.tag).count entry.1 : Int) ≤ entry.2 := by
  rw [capReports, List.flatMap_eq_nil_iff]
  refine forall₂_congr fun entry listed => ?_
  obtain ⟨tag, cap⟩ := entry
  simp only [List.map_eq_nil_iff, List.filter_eq_nil_iff, Prod.forall,
    List.mem_zipIdx_iff_getElem?, Bool.and_eq_true, beq_iff_eq, List.contains_iff_mem,
    decide_eq_true_eq, List.map_take]
  constructor
  · intro silent occurs
    obtain ⟨index, found, whole⟩ := exists_last_occurrence occurs
    rw [List.getElem?_map] at found
    obtain ⟨start, here, same⟩ := Option.map_eq_some_iff.mp found
    have short := silent start index here
    rw [whole] at short
    have order := (List.getElem?_eq_some_iff.mp here).1
    exact not_lt.mp fun excess => short ⟨⟨same, all index order⟩, excess⟩
  · rintro short start index here ⟨⟨same, -⟩, excess⟩
    have occurs : tag ∈ grammar.map StartTag.tag :=
      List.mem_map.mpr ⟨start, List.mem_of_getElem? here, same⟩
    have part := (List.take_sublist (index + 1) (grammar.map StartTag.tag)).count_le tag
    have := short occurs
    omega

theorem missingReports_eq_nil_iff {tags : List Tag} :
    ordered.missingReports parent tags = [] ↔
      ∀ segment ∈ ordered.segments, 0 < segment.min → ∃ tag ∈ tags, tag ∈ segment.tags := by
  have silent : ordered.missingReports parent tags = [] ↔ ordered.missing tags = [] := by
    rw [missingReports]
    split <;> simp_all
  rw [silent, missing, List.filter_eq_nil_iff]
  simp

theorem conflictReports_eq_nil_iff :
    ordered.conflictReports parent grammar = [] ↔
      ∀ families ∈ ordered.exclusive,
        (∀ tag ∈ grammar.map StartTag.tag, tag ∉ families.1) ∨
          ∀ tag ∈ grammar.map StartTag.tag, tag ∉ families.2 := by
  rw [conflictReports, List.filterMap_eq_nil_iff]
  refine forall₂_congr fun families listed => ?_
  have absent (family : List Tag) : (∀ tag ∈ grammar.map StartTag.tag, tag ∉ family) ↔
      (grammar.map StartTag.tag).findIdx? family.contains = none := by
    simp [List.findIdx?_eq_none_iff]
  rw [absent, absent]
  cases first : (grammar.map StartTag.tag).findIdx? families.1.contains with
  | none => simp [first]
  | some firstIndex =>
    cases second : (grammar.map StartTag.tag).findIdx? families.2.contains with
    | none => simp [first, second]
    | some secondIndex =>
      have firstOrder := (List.findIdx?_eq_some_iff_getElem.mp first).1
      have secondOrder := (List.findIdx?_eq_some_iff_getElem.mp second).1
      rw [List.length_map] at firstOrder secondOrder
      have order : max firstIndex secondIndex < grammar.length := max_lt firstOrder secondOrder
      simp [first, second, List.getElem?_eq_getElem order]

/-- The tag of a child of the grammar. -/
theorem map_tag_grammarChild? (child : Node) :
    (ordered.grammarChild? child).map StartTag.tag =
      child.tag?.filter ordered.grammarTags.contains := by
  rw [grammarChild?, Node.tag?]
  cases child.start? with
  | none => rfl
  | some start =>
    simp only [Option.map_some, Option.filter_some]
    split <;> rfl

theorem isNone_grammarChild? (child : Node) :
    (ordered.grammarChild? child).isNone = false ↔
      ∃ tag ∈ ordered.grammarTags, child.tag? = some tag := by
  rw [← Option.isNone_map (f := StartTag.tag), map_tag_grammarChild?]
  cases child.tag? <;> simp

/-- There are no strays exactly if the relevant children are elements with tags of the grammar. -/
theorem strays_eq_nil_iff {children : List Node} : ordered.strays children = [] ↔
    ∀ child ∈ children.filter ordered.isRelevant,
      ∃ tag ∈ ordered.grammarTags, child.tag? = some tag := by
  rw [strays, List.filter_eq_nil_iff]
  exact forall₂_congr fun child relevant => by rw [Bool.not_eq_true, isNone_grammarChild?]

/-- Without strays the tags of the relevant children are those of the grammar. -/
theorem map_tag?_of_strays_eq_nil {children : List Node} (none : ordered.strays children = []) :
    (children.filter ordered.isRelevant).map Node.tag? =
      ((ordered.grammarChildren children).map StartTag.tag).map some := by
  rw [strays_eq_nil_iff] at none
  rw [grammarChildren, List.map_filterMap]
  simp only [map_tag_grammarChild?]
  generalize children.filter ordered.isRelevant = relevant at none ⊢
  induction relevant with
  | nil => rfl
  | cons child rest ih =>
    obtain ⟨tag, known, found⟩ := none child List.mem_cons_self
    have later := ih fun other member => none other (List.mem_cons_of_mem _ member)
    have kept : child.tag?.filter ordered.grammarTags.contains = some tag := by
      simp [found, Option.filter_some, known]
    simp only [List.map_cons, List.filterMap_cons, kept, later]
    rw [found]

/-- An ordered model has no findings exactly if all relevant children are elements, with tags that
it admits. -/
theorem checkChildren_eq_nil_iff (bounded : ∀ segment ∈ ordered.segments, segment.Bounded)
    (children : List Node) :
    ordered.checkChildren parent children = [] ↔
      ∃ tags, (children.filter ordered.isRelevant).map Node.tag? = tags.map some ∧
        ordered.Admits tags := by
  have dropped : ordered.droppedReports parent (ordered.grammarChildren children)
      (longestMatch ordered.segments ((ordered.grammarChildren children).map StartTag.tag)) = [] ↔
      (ordered.grammarChildren children).map StartTag.tag ∈
        (ordered.segments.map Segment.language).prod := by
    rw [droppedReports_eq_nil_iff, ← exists_reaches_iff bounded, ← forall_mem_longestMatch_iff,
      List.length_map]
  simp only [checkChildren, List.append_eq_nil_iff, List.map_eq_nil_iff]
  constructor
  · rintro ⟨⟨⟨⟨strays, kept⟩, capped⟩, missing⟩, conflicts⟩
    refine ⟨_, map_tag?_of_strays_eq_nil strays, dropped.mp kept, ?_,
      missingReports_eq_nil_iff.mp missing, conflictReports_eq_nil_iff.mp conflicts⟩
    exact (capReports_eq_nil_iff (droppedReports_eq_nil_iff.mp kept)).mp capped
  · rintro ⟨tags, same, admits⟩
    have strays : ordered.strays children = [] := by
      rw [strays_eq_nil_iff]
      intro child relevant
      have known : child.tag? ∈ tags.map some := same ▸ List.mem_map_of_mem relevant
      obtain ⟨tag, member, found⟩ := List.mem_map.mp known
      obtain ⟨segment, listed, inside⟩ := exists_segment_of_mem_prod admits.runs member
      exact ⟨tag, List.mem_flatMap.mpr ⟨segment, listed, inside⟩, found.symm⟩
    rw [map_tag?_of_strays_eq_nil strays] at same
    obtain rfl := List.map_injective_iff.mpr (Option.some_injective Tag) same
    have kept := dropped.mpr admits.runs
    refine ⟨⟨⟨⟨strays, kept⟩, ?_⟩, missingReports_eq_nil_iff.mpr admits.required⟩,
      conflictReports_eq_nil_iff.mpr admits.apart⟩
    exact (capReports_eq_nil_iff (droppedReports_eq_nil_iff.mp kept)).mpr admits.capped

/-- Nodes have some tags exactly if all of them are elements and these are their tags. -/
theorem map_tag?_eq_iff {nodes : List Node} {tags : List Tag} :
    nodes.map Node.tag? = tags.map some ↔
      (∀ node ∈ nodes, ∃ tag, node.tag? = some tag) ∧ tags = nodes.filterMap Node.tag? := by
  constructor
  · intro same
    constructor
    · intro node member
      have known : node.tag? ∈ tags.map some := same ▸ List.mem_map_of_mem member
      obtain ⟨tag, -, found⟩ := List.mem_map.mp known
      exact ⟨tag, found.symm⟩
    · have read := congrArg (List.filterMap id) same
      simpa [List.filterMap_map, Function.comp_def] using read.symm
  · rintro ⟨elements, rfl⟩
    induction nodes with
    | nil => rfl
    | cons node rest ih =>
      obtain ⟨tag, found⟩ := elements node List.mem_cons_self
      have later := ih fun other member => elements other (List.mem_cons_of_mem _ member)
      rw [List.map_cons, List.filterMap_cons_some found, List.map_cons, found, later]

/-- An ordered model accepts exactly its grammar. Of the children, white space and, where scripts
may stand anywhere, script-supporting elements are left out. A check finds nothing exactly if all
others are elements with tags of the segments, and their tags together are a run of each segment,
one after another, have a tag of every segment that must not be empty, do not go over a cap and are
not of both families of an exclusive pair. -/
theorem silent_iff_grammar (ordered : Ordered)
    (bounded : ∀ segment ∈ ordered.segments, segment.Bounded)
    (capsBounded : ∀ quota ∈ ordered.caps.entries, 0 ≤ quota.2)
    (parent : StartTag) (children : List Node) :
    let left := children.filter fun child =>
      !child.isSpaces && !(ordered.scriptSupporting && child.isScriptSupporting)
    let tags := left.filterMap Node.tag?
    ordered.checkChildren parent children = [] ↔
      (∀ child ∈ left, ∃ tag, child.tag? = some tag ∧
        ∃ segment ∈ ordered.segments, tag ∈ segment.tags) ∧
      (∃ runs : List (List Tag), runs.flatten = tags ∧
        List.Forall₂ (fun run segment => (∀ tag ∈ run, tag ∈ Segment.tags segment) ∧
          ∀ max ∈ segment.max, (run.length : Int) ≤ max) runs ordered.segments) ∧
      (∀ segment ∈ ordered.segments, 0 < segment.min → ∃ tag ∈ tags, tag ∈ segment.tags) ∧
      (∀ quota ∈ ordered.caps.entries, (tags.count quota.1 : Int) ≤ quota.2) ∧
      ∀ families ∈ ordered.exclusive,
        ¬ ((∃ tag ∈ tags, tag ∈ families.1) ∧ ∃ tag ∈ tags, tag ∈ families.2) := by
  intro left tags
  have apart : (∀ families ∈ ordered.exclusive,
      ¬ ((∃ tag ∈ tags, tag ∈ families.1) ∧ ∃ tag ∈ tags, tag ∈ families.2)) ↔
      ∀ families ∈ ordered.exclusive,
        (∀ tag ∈ tags, tag ∉ families.1) ∨ ∀ tag ∈ tags, tag ∉ families.2 := by
    refine forall₂_congr fun families listed => ?_
    rw [not_and_or]
    push Not
    rfl
  have words : (∃ runs : List (List Tag), runs.flatten = tags ∧ List.Forall₂ (fun run segment =>
      (∀ tag ∈ run, tag ∈ Segment.tags segment) ∧ ∀ max ∈ segment.max, (run.length : Int) ≤ max)
        runs ordered.segments) ↔ tags ∈ (ordered.segments.map Segment.language).prod :=
    mem_prod_iff_runs.symm
  rw [checkChildren_eq_nil_iff bounded, apart, words]
  constructor
  · rintro ⟨_, same, admits⟩
    obtain ⟨elements, rfl⟩ := map_tag?_eq_iff.mp same
    refine ⟨?_, admits.runs, admits.required, ?_, admits.apart⟩
    · intro child member
      obtain ⟨tag, found⟩ := elements child member
      have occurs : tag ∈ tags := List.mem_filterMap.mpr ⟨child, member, found⟩
      exact ⟨tag, found, exists_segment_of_mem_prod admits.runs occurs⟩
    · intro quota listed
      by_cases occurs : quota.1 ∈ tags
      · exact admits.capped quota listed occurs
      · rw [List.count_eq_zero.mpr occurs]
        exact capsBounded quota listed
  · rintro ⟨elements, runs, required, capped, distinct⟩
    refine ⟨tags, map_tag?_eq_iff.mpr ⟨?_, rfl⟩, runs, ?_, required, distinct⟩
    · intro child member
      obtain ⟨tag, found, -⟩ := elements child member
      exact ⟨tag, found⟩
    · intro quota listed _
      exact capped quota listed

end Ordered

/-- Rows after an optional head, with at most two feet in all but only one at the end. Rows are
required, and a head excludes groups of columns. -/
def headedRows : Ordered where
  segments := [
    { tags := [.thead, .tfoot], max := some 1 },
    { tags := [.colgroup, .tfoot] },
    { tags := [.tr], min := 1 },
    { tags := [.tfoot], max := some 1 }]
  caps := .ofList [(.tfoot, 2)]
  exclusive := [([.thead], [.colgroup])]
  scriptSupporting := true

/-- A foot, columns, a row and another foot, with white space and a script among them. -/
def rowBetweenFeet : List Node := [
  .element (.named "tfoot") [], .text "\n" {}, .element (.named "script") [],
  .element (.named "colgroup") [], .element (.named "tr") [], .element (.named "tfoot") []]

theorem silent_iff_grammar_headedRows :
    (∀ segment ∈ headedRows.segments, segment.Bounded) ∧
    (∀ quota ∈ headedRows.caps.entries, 0 ≤ quota.2) ∧
    headedRows.checkChildren (.named "table") rowBetweenFeet = [] := by
  have bounded : ∀ segment ∈ headedRows.segments, segment.Bounded := by
    simp [headedRows, Segment.Bounded]
  have capsBounded : ∀ quota ∈ headedRows.caps.entries, 0 ≤ quota.2 := by decide
  have read : (rowBetweenFeet.filter fun child =>
      !child.isSpaces && !(headedRows.scriptSupporting && child.isScriptSupporting)).map
        Node.tag? = [Tag.tfoot, .colgroup, .tr, .tfoot].map some := by
    decide +kernel
  obtain ⟨elements, tags⟩ := Ordered.map_tag?_eq_iff.mp read
  refine ⟨bounded, capsBounded,
    (headedRows.silent_iff_grammar bounded capsBounded _ rowBetweenFeet).mpr ?_⟩
  rw [← tags]
  refine ⟨?_, ⟨[[.tfoot], [.colgroup], [.tr], [.tfoot]], rfl, by simp [headedRows]⟩, ?_, ?_, ?_⟩
  · intro child member
    obtain ⟨tag, found⟩ := elements child member
    have listed : tag ∈ [Tag.tfoot, .colgroup, .tr, .tfoot] := by
      rw [tags]
      exact List.mem_filterMap.mpr ⟨child, member, found⟩
    have inSegments : ∀ tag ∈ [Tag.tfoot, .colgroup, .tr, .tfoot],
        ∃ segment ∈ headedRows.segments, tag ∈ segment.tags := by decide
    exact ⟨tag, found, inSegments tag listed⟩
  · decide
  · decide
  · decide

end HtmlNesting
