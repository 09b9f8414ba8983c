import Mathlib.Computability.RegularExpressions
import HtmlNesting.Proofs.SegmentGrammar
import HtmlNesting.Proofs.Placement

/-!
# The grammars of tables and pages

The parts of a table form a regular language, `tableGrammar`, with one foot at most. The order of
the segments is one half of it; that groups of rows and single rows do not mix, and that the foot
stands on one side of the rows only, are rules of their own. Together they leave exactly the words
of the regular expression (`admits_tableParts_iff`). A page has one word only, a head and a body
(`admits_pageParts_iff`).
-/

namespace HtmlNesting

open RegularExpression

/-- A tag or nothing. -/
def optional (tag : Tag) : RegularExpression Tag :=
  1 + char tag

/-- A tag any number of times. -/
def repeated (tag : Tag) : RegularExpression Tag :=
  star (char tag)

/-- What comes before the rows of a table. -/
def tableLead : RegularExpression Tag :=
  optional .caption * repeated .colgroup * optional .thead * optional .tfoot

/-- The order of the parts of a table. -/
def tableGrammar : RegularExpression Tag :=
  tableLead * (repeated .tbody + repeated .tr) * optional .tfoot

section

variable {tag : Tag} {run : List Tag}

theorem mem_optional : run ∈ (optional tag).matches' ↔ run = [] ∨ run = [tag] :=
  Iff.rfl

theorem mem_repeated : run ∈ (repeated tag).matches' ↔ ∀ other ∈ run, other = tag := by
  rw [repeated, matches'_star, Language.mem_kstar]
  constructor
  · rintro ⟨parts, rfl, single⟩ other member
    obtain ⟨part, isPart, inside⟩ := List.mem_flatten.mp member
    rw [show part = [tag] from single part isPart] at inside
    exact List.mem_singleton.mp inside
  · intro same
    refine ⟨run.map fun other => [other], (List.flatMap_singleton' run).symm, ?_⟩
    intro part isPart
    obtain ⟨other, member, rfl⟩ := List.mem_map.mp isPart
    exact congrArg (fun other => [other]) (same other member)

/-- A segment with one tag and room for one is that tag or nothing. -/
theorem language_of_single (tag : Tag) (min : Int) :
    ({ tags := [tag], min, max := some 1 } : Segment).language = (optional tag).matches' := by
  ext run
  rw [Segment.mem_language, mem_optional]
  cases run with
  | nil => simp
  | cons first rest =>
    cases rest with
    | nil => simp
    | cons second rest =>
      refine iff_of_false ?_ (by simp)
      rintro ⟨-, short⟩
      have := short 1 rfl
      simp only [List.length_cons] at this
      omega

/-- A segment with one tag and no maximum is a repetition. -/
theorem language_of_repeated (tag : Tag) :
    ({ tags := [tag] } : Segment).language = (repeated tag).matches' := by
  ext run
  simp [Segment.mem_language, mem_repeated]

end

/-- The segments of a table before the rows. -/
theorem prod_tableLead : ((Rulebook.tableParts.segments.take 4).map Segment.language).prod =
    tableLead.matches' := by
  simp only [Rulebook.tableParts, tableLead, List.take, List.map_cons, List.map_nil,
    List.prod_cons, List.prod_nil, language_of_single, language_of_repeated, matches'_mul,
    mul_assoc, mul_one]

/-- The segments of a table before, at and after the rows. -/
theorem prod_tableParts : (Rulebook.tableParts.segments.map Segment.language).prod =
    tableLead.matches' *
      (({ tags := [.tbody, .tr] } : Segment).language * (optional .tfoot).matches') := by
  rw [← prod_tableLead, ← language_of_single .tfoot 0]
  simp only [Rulebook.tableParts, List.take, List.map_cons, List.map_nil, List.prod_cons,
    List.prod_nil, mul_assoc, mul_one]

/-- Rows of one kind are rows of two kinds without one of them. -/
theorem mem_rows_iff {rows : List Tag} :
    rows ∈ (repeated .tbody + repeated .tr).matches' ↔
      rows ∈ ({ tags := [.tbody, .tr] } : Segment).language ∧
        ((∀ tag ∈ rows, tag ∉ [Tag.tbody]) ∨ ∀ tag ∈ rows, tag ∉ [Tag.tr]) := by
  rw [matches'_add, Language.mem_add, mem_repeated, mem_repeated]
  constructor
  · rintro (groups | singles)
    · refine ⟨⟨fun tag member => ?_, by simp⟩, .inr fun tag member => ?_⟩
      · simp [groups tag member]
      · simp [groups tag member]
    · refine ⟨⟨fun tag member => ?_, by simp⟩, .inl fun tag member => ?_⟩
      · simp [singles tag member]
      · simp [singles tag member]
  · rintro ⟨⟨listed, -⟩, oneKind⟩
    have either : ∀ tag ∈ rows, tag = .tbody ∨ tag = .tr := by simpa using listed
    rcases oneKind with noGroup | noSingle
    · right
      intro tag member
      exact (either tag member).resolve_left (by simpa using noGroup tag member)
    · left
      intro tag member
      exact (either tag member).resolve_right (by simpa using noSingle tag member)

/-- What comes before the rows is of other kinds. -/
theorem mem_tableLead {lead : List Tag} (leads : lead ∈ tableLead.matches') {tag : Tag}
    (member : tag ∈ lead) : tag ∈ [Tag.caption, .colgroup, .thead, .tfoot] := by
  rw [← prod_tableLead] at leads
  obtain ⟨segment, listed, inside⟩ := exists_segment_of_mem_prod leads member
  have grammar : tag ∈ (Rulebook.tableParts.segments.take 4).flatMap Segment.tags :=
    List.mem_flatMap.mpr ⟨segment, listed, inside⟩
  exact grammar

/-- A kind of row is missing from a table exactly if it is missing from the rows. -/
theorem forall_table_parts_iff {lead rows foot : List Tag} (leads : lead ∈ tableLead.matches')
    (isFoot : foot ∈ (optional .tfoot).matches') {kind : Tag}
    (isRow : kind ∉ [Tag.caption, .colgroup, .thead, .tfoot]) :
    (∀ tag ∈ lead ++ (rows ++ foot), tag ∉ [kind]) ↔ ∀ tag ∈ rows, tag ∉ [kind] := by
  have inLead : ∀ tag ∈ lead, tag ∉ [kind] := by
    intro tag member same
    rw [List.mem_singleton.mp same] at member
    exact isRow (mem_tableLead leads member)
  have inFoot : ∀ tag ∈ foot, tag ∉ [kind] := by
    rcases mem_optional.mp isFoot with rfl | rfl
    · simp
    · rintro tag member same
      rw [← List.mem_singleton.mp same, List.mem_singleton.mp member] at isRow
      exact isRow (by decide)
  rw [List.forall_mem_append, List.forall_mem_append]
  exact ⟨fun all => all.2.1, fun all => ⟨inLead, all, inFoot⟩⟩

/-- The parts of a table are admitted exactly in the order of the grammar and with one foot at
most. -/
theorem admits_tableParts_iff {tags : List Tag} : Rulebook.tableParts.Admits tags ↔
    tags ∈ tableGrammar.matches' ∧ tags.count .tfoot ≤ 1 := by
  have caps : Rulebook.tableParts.caps.entries = [(.tfoot, 1)] := rfl
  have exclusive : Rulebook.tableParts.exclusive = [([.tbody], [.tr])] := rfl
  have grammar : tableGrammar.matches' = tableLead.matches' *
      ((repeated .tbody + repeated .tr).matches' * (optional .tfoot).matches') := by
    rw [tableGrammar, matches'_mul, matches'_mul, mul_assoc]
  rw [grammar]
  constructor
  · rintro ⟨runs, capped, -, apart⟩
    refine ⟨?_, ?_⟩
    · rw [prod_tableParts] at runs
      obtain ⟨lead, leads, rest, follows, rfl⟩ := Language.mem_mul.mp runs
      obtain ⟨rows, areRows, foot, isFoot, rfl⟩ := Language.mem_mul.mp follows
      have oneKind := apart ([.tbody], [.tr]) (by simp [exclusive])
      rw [forall_table_parts_iff leads isFoot (by decide),
        forall_table_parts_iff leads isFoot (by decide)] at oneKind
      exact Language.append_mem_mul leads
        (Language.append_mem_mul (mem_rows_iff.mpr ⟨areRows, oneKind⟩) isFoot)
    · by_cases occurs : .tfoot ∈ tags
      · have short : (tags.count .tfoot : Int) ≤ 1 := capped (.tfoot, 1) (by simp [caps]) occurs
        omega
      · simp [List.count_eq_zero_of_not_mem occurs]
  · rintro ⟨word, once⟩
    obtain ⟨lead, leads, rest, follows, rfl⟩ := Language.mem_mul.mp word
    obtain ⟨rows, kinds, foot, isFoot, rfl⟩ := Language.mem_mul.mp follows
    obtain ⟨areRows, oneKind⟩ := mem_rows_iff.mp kinds
    refine ⟨?_, ?_, ?_, ?_⟩
    · rw [prod_tableParts]
      exact Language.append_mem_mul leads (Language.append_mem_mul areRows isFoot)
    · simp only [caps, List.mem_singleton, forall_eq]
      omega
    · simp [Rulebook.tableParts]
    · rw [exclusive]
      intro families listed
      rw [List.mem_singleton.mp listed]
      exact oneKind.imp (forall_table_parts_iff leads isFoot (by decide)).mpr
        (forall_table_parts_iff leads isFoot (by decide)).mpr

/-- A page has a head and a body. -/
theorem admits_pageParts_iff {tags : List Tag} :
    Rulebook.pageParts.Admits tags ↔ tags = [.head, .body] := by
  have prod : (Rulebook.pageParts.segments.map Segment.language).prod =
      (optional .head).matches' * (optional .body).matches' := by
    simp only [Rulebook.pageParts, List.map_cons, List.map_nil, List.prod_cons, List.prod_nil,
      language_of_single, mul_one]
  constructor
  · rintro ⟨runs, -, required, -⟩
    rw [prod] at runs
    obtain ⟨head, isHead, body, isBody, rfl⟩ := Language.mem_mul.mp runs
    have needsHead := required { tags := [.head], min := 1, max := some 1 }
      (by simp [Rulebook.pageParts]) (by decide)
    have needsBody := required { tags := [.body], min := 1, max := some 1 }
      (by simp [Rulebook.pageParts]) (by decide)
    rcases mem_optional.mp isHead with rfl | rfl <;>
      rcases mem_optional.mp isBody with rfl | rfl <;> simp_all
  · rintro rfl
    refine ⟨?_, ?_, ?_, ?_⟩
    · rw [prod]
      exact Language.append_mem_mul (mem_optional.mpr (.inr rfl)) (mem_optional.mpr (.inr rfl))
    · simp [Rulebook.pageParts, Quotas.unbounded]
    · simp [Rulebook.pageParts]
    · simp [Rulebook.pageParts]

/-! ## Children and surroundings -/

/-- The nodes that are not white space are elements with some tags exactly if the elements have
these tags and every text is white space. -/
theorem map_tag?_filter_iff {nodes : List Node} {tags : List Tag} :
    (nodes.filter fun node => !node.isSpaces).map Node.tag? = tags.map some ↔
      nodes.filterMap Node.tag? = tags ∧
        ∀ node ∈ nodes, node.tag? = none → node.isSpaces = true := by
  induction nodes generalizing tags with
  | nil => cases tags <;> simp
  | cons node rest ih =>
    cases node with
    | text data position =>
      cases blank : Text.isSpaces data with
      | false => cases tags <;> simp [blank]
      | true => simp [blank, ih, List.filterMap_cons]
    | element start children =>
      cases tags with
      | nil => simp
      | cons tag tags => simp [ih, and_assoc]

namespace Registry

/-- An element with an ordered model is checked by it. -/
theorem checkContent_of_ordered {registry : Registry} {place : Place} {ordered : Ordered}
    (content : registry.content? place.tag = some (.plain (.ordered ordered))) :
    (registry.entry place.tag).checkContent registry (.element place) =
      .ok (ordered.checkChildren place.start place.children) := by
  rw [checkContent_of_content content, ContentModel.check, ContentModel.resolve]
  exact congrArg Except.ok (List.append_nil _)

/-- The entry of tables is in force. -/
theorem builtin_entry_table : Registry.builtin.entry .table = Rulebook.table := by
  have listed : Rulebook.table ∈ Rulebook.entries := by
    simp [Rulebook.entries, Rulebook.ruleSets, RuleSet.entries, Rulebook.tables]
  exact builtin_entry_of listed

/-- The entries of a page and its parts are in force. -/
theorem builtin_entry_page : Registry.builtin.entry .html = Rulebook.html ∧
    Registry.builtin.entry .head = Rulebook.head ∧
    Registry.builtin.entry .body = Rulebook.body := by
  have listed : ∀ entry ∈ Rulebook.document, entry ∈ Rulebook.entries := by
    intro entry member
    simp [Rulebook.entries, Rulebook.ruleSets, RuleSet.entries, member]
  refine ⟨builtin_entry_of (listed _ ?_), builtin_entry_of (listed _ ?_),
    builtin_entry_of (listed _ ?_)⟩
  · exact List.mem_cons_self
  · exact List.mem_cons_of_mem _ List.mem_cons_self
  · exact List.mem_cons_of_mem _ (List.mem_cons_of_mem _ List.mem_cons_self)

end Registry

/-- The tags before an element and its own are among those of all siblings. -/
theorem Place.filterMap_tag?_children {parent child : Place}
    (member : child ∈ parent.elementChildren) :
    parent.children.filterMap Node.tag? = child.elementsBefore.map StartTag.tag ++
      child.tag :: child.elementsAfter.map StartTag.tag := by
  have isParent : child.parent? = some parent := by
    rw [parent?, ancestors_of_mem_elementChildren member, List.head?_cons]
  have tags (nodes : List Node) :
      (nodes.filterMap Node.start?).map StartTag.tag = nodes.filterMap Node.tag? := by
    rw [List.map_filterMap]
    rfl
  rw [(children_of_parent? isParent).1, elementsBefore, elementsAfter, tags, tags,
    List.filterMap_append, List.filterMap_cons_some (Node.tag?_element _ _)]
  rfl

/-- A child stands at its index, after the right ones, if the requirement to stand there holds. -/
theorem checkAll_nthChildOf {registry : Registry} {parent child : Place}
    (member : child ∈ parent.elementChildren) {tag : Tag} (inTag : parent.tag = tag) {index : Int}
    {after : List Tag} {severity : Severity} (length : (after.length : Int) = index)
    (before : child.elementsBefore.map StartTag.tag = after) :
    ContextRule.checkAll registry (.element child)
      [.require (.nthChildOf tag index after) severity] = .ok [] := by
  have ancestors := Place.ancestors_of_mem_elementChildren member
  have met : Requirement.nthViolation child parent tag index after = none := by
    simp [Requirement.nthViolation, inTag, before, length]
  simp only [ContextRule.checkAll, ContextRule.check, Requirement.failure, Requirement.failureAt,
    ancestors, met, ContextRule.reports, List.append_nil]

/-- A page whose elements are a head and a body has them where they belong. -/
theorem Registry.builtin_checkContext_of_page {page child : Place} (isPage : page.tag = .html)
    (parts : page.children.filterMap Node.tag? = [.head, .body])
    (member : child ∈ page.elementChildren) :
    (Registry.builtin.entry child.tag).checkContext Registry.builtin (.element child) = .ok [] := by
  rw [Place.filterMap_tag?_children member] at parts
  rw [RuleEntry.checkContext]
  cases before : child.elementsBefore.map StartTag.tag with
  | nil =>
    have isHead : child.tag = .head := by simp_all
    rw [isHead, builtin_entry_page.2.1]
    exact checkAll_nthChildOf member isPage rfl before
  | cons first rest =>
    have order : first = .head ∧ rest = [] ∧ child.tag = .body := by
      cases rest <;> simp_all
    obtain ⟨rfl, rfl, isBody⟩ := order
    rw [isBody, builtin_entry_page.2.2]
    exact checkAll_nthChildOf member isPage rfl before

/-- The grammars of tables and pages are enforced exactly. A table is checked by the model of its
parts, and that finds nothing in a list of children exactly if, white space and elements for scripts
apart, they are elements in the order of the grammar with one foot at most. Nothing is found in the
content of a page and in the surroundings of its heads and bodies exactly if its elements are a head
and a body, in this order, and all its text is white space. -/
theorem table_and_page_grammars_exact :
    (∀ place : Place, place.tag = .table →
      (Registry.builtin.entry place.tag).checkContent Registry.builtin (.element place) =
        .ok (Rulebook.tableParts.checkChildren place.start place.children)) ∧
    (∀ (parent : StartTag) (children : List Node),
      Rulebook.tableParts.checkChildren parent children = [] ↔
        ∃ tags,
          (children.filter fun child => !child.isSpaces && !child.isScriptSupporting).map
            Node.tag? = tags.map some ∧
          tags ∈ tableGrammar.matches' ∧ tags.count .tfoot ≤ 1) ∧
    ∀ page : Place, page.tag = .html →
      ((Registry.builtin.entry page.tag).checkContent Registry.builtin (.element page) = .ok [] ∧
        (∀ child ∈ page.elementChildren, child.tag = .head ∨ child.tag = .body →
          (Registry.builtin.entry child.tag).checkContext Registry.builtin (.element child) =
            .ok []) ↔
        page.children.filterMap Node.tag? = [.head, .body] ∧
          ∀ child ∈ page.children, child.tag? = none → child.isSpaces = true) := by
  refine ⟨?_, ?_, ?_⟩
  · intro place isTable
    have content : Registry.builtin.content? place.tag =
        some (.plain (.ordered Rulebook.tableParts)) := by
      rw [isTable, Registry.content?, Registry.builtin_entry_table]
      rfl
    exact Registry.checkContent_of_ordered content
  · intro parent children
    rw [Ordered.checkChildren_eq_nil_iff (by simp [Rulebook.tableParts, Segment.Bounded])]
    simp only [admits_tableParts_iff]
    rfl
  · intro page isPage
    have content : Registry.builtin.content? page.tag =
        some (.plain (.ordered Rulebook.pageParts)) := by
      rw [isPage, Registry.content?, Registry.builtin_entry_page.1]
      rfl
    have relevant : Rulebook.pageParts.isRelevant = fun child => !child.isSpaces := by
      funext child
      simp [Ordered.isRelevant, Rulebook.pageParts]
    have checked : (Registry.builtin.entry page.tag).checkContent Registry.builtin (.element page) =
        .ok [] ↔
        page.children.filterMap Node.tag? = [.head, .body] ∧
          ∀ child ∈ page.children, child.tag? = none → child.isSpaces = true := by
      rw [Registry.checkContent_of_ordered content, Except.ok.injEq,
        Ordered.checkChildren_eq_nil_iff (by simp [Rulebook.pageParts, Segment.Bounded])]
      simp only [admits_pageParts_iff, exists_eq_right, relevant, map_tag?_filter_iff]
    rw [checked]
    refine and_iff_left_of_imp ?_
    rintro ⟨parts, -⟩ child member -
    exact Registry.builtin_checkContext_of_page isPage parts member

/-- The children of a table with a caption, single rows and a foot, a template among them. -/
def captionedRows : List Node := [
  .element (.named "caption") [], .text "\n" {}, .element (.named "template") [],
  .element (.named "tr") [], .element (.named "tr") [], .element (.named "tfoot") []]

/-- A page on its own, with white space between its parts. -/
def spacedPage : Place where
  start := .named "html"
  before := []
  after := []
  children := [.element (.named "head") [], .text "\n" {}, .element (.named "body") []]
  above := []

theorem table_and_page_grammars_exact_spaced :
    Rulebook.tableParts.checkChildren (.named "table") captionedRows = [] ∧
    spacedPage.tag = .html ∧
    (Registry.builtin.entry spacedPage.tag).checkContent Registry.builtin (.element spacedPage) =
      .ok [] ∧
    ∀ child ∈ spacedPage.elementChildren, child.tag = .head ∨ child.tag = .body →
      (Registry.builtin.entry child.tag).checkContext Registry.builtin (.element child) =
        .ok [] := by
  obtain ⟨-, tables, pages⟩ := table_and_page_grammars_exact
  have isPage : spacedPage.tag = .html := by decide +kernel
  have rows : [Tag.caption, .tr, .tr, .tfoot] ∈ tableGrammar.matches' := by
    rw [← rmatch_iff_matches']
    decide
  refine ⟨(tables _ _).mpr ⟨[.caption, .tr, .tr, .tfoot], ?_, rows, ?_⟩, isPage,
    (pages spacedPage isPage).mpr ⟨?_, ?_⟩⟩
  · decide +kernel
  · decide
  · decide +kernel
  · decide +kernel

end HtmlNesting
