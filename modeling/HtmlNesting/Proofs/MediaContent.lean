import HtmlNesting.Proofs.Judging
import HtmlNesting.Proofs.Wrapping

/-!
# The content of media elements

No single rule says that a media element has sources, then tracks, then other content. Its content
model forbids or overlooks sources and tracks and hands on the rest, and the rules of sources and
tracks look at the siblings before them. `Node.mediaRank` numbers the three kinds. What the rules
about siblings ask for is that ranks never fall (`Registry.builtin_checkContext_of_media`), since
everything else that is allowed is flow content and gets in the way
(`Members.fills_flow_of_allows`). Nodes whose ranks never fall are runs of the three kinds
(`pairwise_mediaRank_iff_runs`).
-/

namespace HtmlNesting

/-! ## Kinds of children -/

namespace Node

/-- The part of a media element that a child belongs to: sources, tracks or the rest. -/
def mediaRank (node : Node) : Nat :=
  match node.tag? with
  | some .source => 0
  | some .track => 1
  | _ => 2

variable {node : Node}

theorem mediaRank_eq_zero : node.mediaRank = 0 ↔ node.tag? = some .source := by
  rw [mediaRank]
  split <;> simp_all

theorem mediaRank_eq_one : node.mediaRank = 1 ↔ node.tag? = some .track := by
  rw [mediaRank]
  split <;> simp_all

theorem mediaRank_eq_two :
    node.mediaRank = 2 ↔ node.tag? ≠ some .source ∧ node.tag? ≠ some .track := by
  rw [mediaRank]
  split <;> simp_all

theorem mediaRank_le : node.mediaRank ≤ 2 := by
  rw [mediaRank]
  split <;> decide

end Node

/-- Nodes of which no rank falls are sources, then tracks, then others. -/
theorem pairwise_mediaRank_iff_runs {nodes : List Node} :
    nodes.Pairwise (fun earlier later => earlier.mediaRank ≤ later.mediaRank) ↔
      ∃ sources tracks others, nodes = sources ++ tracks ++ others ∧
        (∀ node ∈ sources, node.mediaRank = 0) ∧ (∀ node ∈ tracks, node.mediaRank = 1) ∧
        ∀ node ∈ others, node.mediaRank = 2 := by
  constructor
  · intro rising
    induction nodes with
    | nil => exact ⟨[], [], [], by simp⟩
    | cons node rest ih =>
      obtain ⟨least, rising⟩ := List.pairwise_cons.mp rising
      obtain ⟨sources, tracks, others, rfl, areSources, areTracks, areOthers⟩ := ih rising
      have none {kind : List Node} {rank : Nat} (areKind : ∀ other ∈ kind, other.mediaRank = rank)
          (inside : kind ⊆ sources ++ tracks ++ others) (below : rank < node.mediaRank) :
          kind = [] := by
        refine List.eq_nil_iff_forall_not_mem.mpr fun other member => ?_
        have := least other (inside member)
        have := areKind other member
        omega
      have bound : node.mediaRank ≤ 2 := Node.mediaRank_le
      obtain rank | rank | rank : node.mediaRank = 0 ∨ node.mediaRank = 1 ∨ node.mediaRank = 2 := by
        omega
      · exact ⟨node :: sources, tracks, others, by simp, by simpa [rank] using areSources,
          areTracks, areOthers⟩
      · obtain rfl := none areSources (by simp) (by omega)
        exact ⟨[], node :: tracks, others, by simp, by simp, by simpa [rank] using areTracks,
          areOthers⟩
      · obtain rfl := none areSources (by simp) (by omega)
        obtain rfl := none areTracks (by simp) (by omega)
        exact ⟨[], [], node :: others, by simp, by simp, by simp, by simpa [rank] using areOthers⟩
  · rintro ⟨sources, tracks, others, rfl, areSources, areTracks, areOthers⟩
    have level {kind : List Node} {rank : Nat} (areKind : ∀ other ∈ kind, other.mediaRank = rank) :
        kind.Pairwise fun earlier later => earlier.mediaRank ≤ later.mediaRank := by
      refine (List.pairwise_of_forall fun _ _ => trivial : kind.Pairwise fun _ _ => True).imp_of_mem
        fun {earlier later} first second _ => ?_
      exact Nat.le_of_eq ((areKind earlier first).trans (areKind later second).symm)
    refine List.pairwise_append.mpr ⟨List.pairwise_append.mpr
      ⟨level areSources, level areTracks, ?_⟩, level areOthers, ?_⟩
    · intro source isSource track isTrack
      have := areSources source isSource
      omega
    · intro earlier _ other isOther
      rw [areOthers other isOther]
      exact Node.mediaRank_le

/-- White space has no tag. -/
theorem Node.isSpaces_of_tag? {node : Node} {tag : Tag} (own : node.tag? = some tag) :
    node.isSpaces = false := by
  cases node with
  | text data position => simp at own
  | element start children => rfl

/-- White space is allowed everywhere. -/
theorem Members.allows_of_isSpaces (members : Members) {node : Node}
    (blank : node.isSpaces = true) : members.allows node = true := by
  cases node with
  | text data position =>
    rw [allows, Bool.or_eq_true]
    exact .inl blank
  | element start children => simp at blank

/-! ## What gets in the way of sources and tracks -/

/-- Neither sources nor tracks are of any category. -/
theorem StartTag.categories_of_media {start : StartTag}
    (isPart : start.tag = .source ∨ start.tag = .track) : start.categories = [] := by
  refine List.eq_nil_iff_forall_not_mem.mpr fun category member => ?_
  have possible := mem_possibleCategories member
  rcases isPart with isSource | isTrack
  · rw [isSource, show Tag.source.possibleCategories = [] by decide] at possible
    exact absurd possible List.not_mem_nil
  · rw [isTrack, show Tag.track.possibleCategories = [] by decide] at possible
    exact absurd possible List.not_mem_nil

/-- Neither sources nor tracks fill any slot. -/
theorem Node.fills_of_mediaRank_lt {node : Node} (rank : node.mediaRank < 2) (slot : Category) :
    node.fills slot = false := by
  cases node with
  | text data position => simp [mediaRank] at rank
  | element start children =>
    have isPart : start.tag = .source ∨ start.tag = .track := by
      obtain isSource | isTrack : (element start children).mediaRank = 0 ∨
          (element start children).mediaRank = 1 := by omega
      · exact .inl (by simpa using mediaRank_eq_zero.mp isSource)
      · exact .inr (by simpa using mediaRank_eq_one.mp isTrack)
    rw [fills, categories, start.categories_of_media isPart, List.any_nil]

/-- What fills a slot for phrasing content fills one for flow content. -/
theorem Node.fills_flow_of_phrasing {node : Node} (fits : node.fills .phrasing = true) :
    node.fills .flow = true := by
  obtain ⟨category, own, accepted⟩ := List.any_eq_true.mp fits
  refine List.any_eq_true.mpr ⟨category, own, ?_⟩
  revert accepted
  cases category <;> decide

/-- An element that supports scripts is phrasing content. -/
theorem StartTag.phrasing_of_scriptSupporting {start : StartTag}
    (supports : .scriptSupporting ∈ start.categories) : .phrasing ∈ start.categories := by
  have possible := (List.mem_filter.mp (mem_possibleCategories supports)).2
  have listed : ∀ tag ∈ Tag.all,
      (Category.scriptSupporting.members.contains tag ||
        tag.conditionals.any fun conditional => conditional.adds.contains .scriptSupporting) =
        true →
      Category.phrasing.members.contains tag = true := by decide +kernel
  have isPhrasing := listed _ (Tag.mem_all _) possible
  exact mem_categories_of_tag (List.mem_filter.mpr ⟨by decide, isPhrasing⟩)

/-- What a model for flow or phrasing content allows is flow content, unless it is white space. -/
theorem Members.fills_flow_of_allows {members : Members} {node : Node}
    (slot : members.category = some .flow ∨ members.category = some .phrasing)
    (noTags : members.tags = []) (allowed : members.allows node = true)
    (content : node.isSpaces = false) : node.fills .flow = true := by
  have ofSlot (fits : members.ofCategory node = true) : node.fills .flow = true := by
    rw [ofCategory] at fits
    rcases slot with isFlow | isPhrasing
    · simpa only [isFlow] using fits
    · exact Node.fills_flow_of_phrasing (by simpa only [isPhrasing] using fits)
  cases node with
  | text data position =>
    have notBlank : Text.isSpaces data = false := content
    rw [allows, notBlank, Bool.false_or] at allowed
    exact ofSlot allowed
  | element start children =>
    simp only [allows, noTags, List.contains_nil, Bool.false_or, Bool.or_eq_true,
      Bool.and_eq_true] at allowed
    rcases allowed with ⟨-, supports⟩ | fits
    · have phrasing := start.phrasing_of_scriptSupporting (List.contains_iff_mem.mp supports)
      exact Node.fills_flow_of_phrasing (List.any_eq_true.mpr ⟨.phrasing, phrasing, by decide⟩)
    · exact ofSlot fits

/-- A sibling does not get in the way if it is white space, or a source or track without one of some
tags. -/
theorem Requirement.blocks_flow_eq_false_iff {sibling : Node} {tags : List Tag}
    (isFlow : sibling.isSpaces = false → sibling.mediaRank = 2 → sibling.fills .flow = true) :
    blocks tags [.flow] sibling = false ↔
      (sibling.isSpaces = false →
        sibling.mediaRank < 2 ∧ ∀ tag ∈ tags, sibling.tag? ≠ some tag) := by
  have bound : sibling.mediaRank ≤ 2 := Node.mediaRank_le
  have fills (content : sibling.isSpaces = false) :
      sibling.fills .flow = false ↔ sibling.mediaRank < 2 := by
    refine ⟨fun notFlow => ?_, fun rank => Node.fills_of_mediaRank_lt rank .flow⟩
    have : sibling.mediaRank ≠ 2 := by
      intro other
      simp [isFlow content other] at notFlow
    omega
  cases sibling with
  | text data position =>
    cases blank : Text.isSpaces data with
    | true => simp [blocks, blank]
    | false => simpa [blocks, blank] using fills blank
  | element start children =>
    have absent : tags.contains start.tag = false ↔
        ∀ tag ∈ tags, (Node.element start children).tag? ≠ some tag := by
      simp [List.forall_mem_ne]
    simp only [blocks, List.any_cons, List.any_nil, Bool.or_false, Bool.or_eq_false_iff, fills rfl,
      absent, Node.isSpaces_element, forall_const]
    exact and_comm

/-! ## Siblings in order -/

namespace Place

/-- The elements among some nodes are related to all before them exactly if the nodes are related in
order, and to those before all of them, by a relation to which text is indifferent. -/
theorem forall_siblingPlaces_iff {related : Node → Node → Prop}
    (toText : ∀ earlier data position, related earlier (.text data position))
    {above : List Level} {before nodes : List Node} :
    (∀ child ∈ siblingPlaces above before nodes, ∀ sibling ∈ child.before,
        related sibling child.node) ↔
      nodes.Pairwise related ∧ ∀ earlier ∈ before, ∀ later ∈ nodes, related earlier later := by
  induction nodes generalizing before with
  | nil => simp [siblingPlaces]
  | cons node rest ih =>
    cases node with
    | text data position =>
      rw [siblingPlaces, ih, List.pairwise_cons]
      grind
    | element start children =>
      rw [siblingPlaces, List.forall_mem_cons, ih, List.pairwise_cons]
      grind [Place.node]

/-- Children are related in order exactly if every element is related to the siblings before it. -/
theorem pairwise_children_iff (place : Place) {related : Node → Node → Prop}
    (toText : ∀ earlier data position, related earlier (.text data position)) :
    place.children.Pairwise related ↔
      ∀ child ∈ place.elementChildren, ∀ sibling ∈ child.before, related sibling child.node := by
  rw [elementChildren, forall_siblingPlaces_iff toText]
  simp

/-- The siblings before a child are children too. -/
theorem mem_children_of_mem_before {parent child : Place} (isChild : child ∈ parent.elementChildren)
    {sibling : Node} (earlier : sibling ∈ child.before) : sibling ∈ parent.children := by
  obtain ⟨index, -, before, -⟩ := mem_siblingPlaces.mp isChild
  rw [before, List.nil_append] at earlier
  exact List.mem_of_mem_take earlier

end Place

/-! ## The two checks -/

/-- An element that has to come before the content of its parent finds fault with nothing but the
siblings before it. -/
theorem ContextRule.checkAll_leading {registry : Registry} {parent child : Place}
    (isChild : child ∈ parent.elementChildren) {tag : Tag} {parents others : List Tag}
    (known : parent.tag ∈ parents) :
    (Rulebook.leading tag parents others).checkContext registry (.element child) = .ok [] ↔
      ∀ sibling ∈ child.before, Requirement.blocks others [.flow] sibling = false := by
  have ancestors := Place.ancestors_of_mem_elementChildren isChild
  have inParent : Requirement.parentViolation child.start.shown parent parent.ancestors parents [] =
      none := by
    simp [Requirement.parentViolation, known]
  have onTime : Requirement.lateViolation child others [.flow] = none ↔
      ∀ sibling ∈ child.before, Requirement.blocks others [.flow] sibling = false := by
    simp [Requirement.lateViolation]
  rw [← onTime]
  simp only [RuleEntry.checkContext, Rulebook.leading, RuleEntry.of, parentIs, checkAll, check,
    Requirement.failure, Requirement.failureAt, ancestors, inParent, reports, List.nil_append,
    List.append_nil]
  cases found : Requirement.lateViolation child others [.flow] with
  | none => simp
  | some violation => simp

/-- What a transparent element hands on to a membership model without quotas, and what it forbids,
is in order exactly if nothing is forbidden, everything handed on is allowed and nothing excluded is
inside. -/
theorem ContentModel.check_transparent_iff {registry : Registry} {place : Place}
    {members : Members}
    (effective : effectiveModel registry (.element place) = some (.plain (.members members)))
    (noSkip : members.skip = []) (unlimited : members.limits.entries = [])
    (handing : Transparent) :
    (ContentModel.transparent handing).check registry place = .ok [] ↔
      (∀ child ∈ place.children, Transparent.isAmong handing.forbid child = false) ∧
      (∀ child ∈ place.children, Transparent.isAmong handing.forbid child = false →
        Transparent.isAmong handing.skip child = false → members.allows child = true) ∧
      scanFor handing.exclude place = [] := by
  have delegated : delegate registry place = .ok (some (.members members)) := by
    simp only [delegate, effective, resolve]
  have skips : ∀ child, members.skips child = false := by
    intro child
    rw [Members.skips, noSkip]
    cases child.tag? <;> rfl
  simp only [check, resolve, checkDelegated, delegated, PlainModel.checkChildren,
    Members.checkChildren, Members.checkFrom_of_unlimited unlimited, Except.ok.injEq,
    List.append_eq_nil_iff, List.map_eq_nil_iff, Transparent.forbiddenReports,
    List.filter_eq_nil_iff, Transparent.visible, List.mem_filter, Members.rejects, skips]
  simp [and_assoc]

theorem Transparent.isAmong_eq_false_iff {tags : List Tag} {child : Node} :
    isAmong tags child = false ↔ ∀ tag ∈ tags, child.tag? ≠ some tag := by
  rw [isAmong]
  cases child.tag? with
  | none => simp
  | some own => simp [List.forall_mem_ne]

/-- An exclusion of tags finds nothing exactly if none of them is inside. -/
theorem Exclusion.scan_tags_eq_nil_iff {tags : List Tag} {place : Place} :
    scanFor (some { tags }) place = [] ↔
      ∀ descendant ∈ place.descendants, descendant.tag ∉ tags := by
  simp [scanFor, scan, covers, Place.tag]

namespace Registry

/-- The entries of media elements, sources and tracks are in force. -/
theorem builtin_entry_media :
    (∀ tag ∈ Tag.media, Registry.builtin.entry tag =
      Rulebook.embeddedElement tag (some Rulebook.mediaContent)) ∧
    Registry.builtin.entry .source = Rulebook.leading .source Tag.media [.track] ∧
    Registry.builtin.entry .track = Rulebook.leading .track Tag.media [] := by
  have listed : ∀ entry ∈ Rulebook.embedded, entry ∈ Rulebook.entries := by
    intro entry member
    simp [Rulebook.entries, Rulebook.ruleSets, RuleSet.entries, member]
  refine ⟨fun tag isMedia => ?_, ?_, ?_⟩
  · have member :
        Rulebook.embeddedElement tag (some Rulebook.mediaContent) ∈ Rulebook.embedded := by
      simp only [Tag.media, List.mem_cons, List.not_mem_nil, or_false] at isMedia
      rcases isMedia with rfl | rfl <;> simp [Rulebook.embedded]
    exact builtin_entry_of (listed _ member)
  · have member : Rulebook.leading .source Tag.media [.track] ∈ Rulebook.embedded := by
      simp [Rulebook.embedded]
    exact builtin_entry_of (listed _ member)
  · have member : Rulebook.leading .track Tag.media [] ∈ Rulebook.embedded := by
      simp [Rulebook.embedded]
    exact builtin_entry_of (listed _ member)

variable {place : Place} {members : Members}

/-- The content check of a media element asks for three things: no source where a source is given as
an attribute, nothing but sources and tracks that is not allowed around the element, and no media
element inside. -/
theorem builtin_checkContent_of_media (isMedia : place.tag ∈ Tag.media)
    (effective :
      effectiveModel Registry.builtin (.element place) = some (.plain (.members members)))
    (noSkip : members.skip = []) (unlimited : members.limits.entries = []) :
    (Registry.builtin.entry place.tag).checkContent Registry.builtin (.element place) = .ok [] ↔
      (place.attributes.has "src" = true → ∀ child ∈ place.children, child.tag? ≠ some .source) ∧
      (∀ child ∈ place.children, child.mediaRank = 2 → members.allows child = true) ∧
      ∀ descendant ∈ place.descendants, descendant.tag ∉ Tag.media := by
  have content : Registry.builtin.content? place.tag = some Rulebook.mediaContent := by
    rw [content?, builtin_entry_media.1 _ isMedia]
    rfl
  rw [checkContent_of_content content]
  simp only [Node.mediaRank_eq_two]
  cases given : place.attributes.has "src" with
  | true =>
    have selected : Rulebook.mediaContent.check Registry.builtin place =
        (ContentModel.transparent {
          skip := [.track], forbid := [.source], exclude := some { tags := Tag.media } }).check
          Registry.builtin place := by
      simp only [ContentModel.check, Rulebook.mediaContent, ContentModel.resolve, given, if_true]
    rw [selected, ContentModel.check_transparent_iff effective noSkip unlimited,
      Exclusion.scan_tags_eq_nil_iff]
    simp [Transparent.isAmong_eq_false_iff]
  | false =>
    have selected : Rulebook.mediaContent.check Registry.builtin place =
        (ContentModel.transparent {
          skip := [.source, .track], exclude := some { tags := Tag.media } }).check
          Registry.builtin place := by
      simp [ContentModel.check, Rulebook.mediaContent, ContentModel.resolve, given]
    rw [selected, ContentModel.check_transparent_iff effective noSkip unlimited,
      Exclusion.scan_tags_eq_nil_iff]
    simp [Transparent.isAmong_eq_false_iff]

/-- Nothing is found in the surroundings of the sources and tracks of a media element exactly if the
ranks of its children never fall, given that all others among them are allowed. -/
theorem builtin_checkContext_of_media (isMedia : place.tag ∈ Tag.media)
    (slot : members.category = some .flow ∨ members.category = some .phrasing)
    (noTags : members.tags = [])
    (allowed : ∀ child ∈ place.children, child.mediaRank = 2 → members.allows child = true) :
    (∀ child ∈ place.elementChildren, child.tag = .source ∨ child.tag = .track →
      (Registry.builtin.entry child.tag).checkContext Registry.builtin (.element child) = .ok []) ↔
      (place.children.filter fun child => !child.isSpaces).Pairwise
        fun earlier later => earlier.mediaRank ≤ later.mediaRank := by
  rw [List.pairwise_filter, place.pairwise_children_iff fun _ _ _ _ _ => Node.mediaRank_le]
  refine forall₂_congr fun child isChild => ?_
  have flow {sibling : Node} (earlier : sibling ∈ child.before) (content : sibling.isSpaces = false)
      (other : sibling.mediaRank = 2) : sibling.fills .flow = true :=
    members.fills_flow_of_allows slot noTags
      (allowed sibling (Place.mem_children_of_mem_before isChild earlier) other) content
  have own : child.node.tag? = some child.tag := rfl
  by_cases isSource : child.tag = .source
  · have rank : child.node.mediaRank = 0 :=
      Node.mediaRank_eq_zero.mpr (own.trans (congrArg some isSource))
    rw [isSource, builtin_entry_media.2.1, ContextRule.checkAll_leading isChild isMedia,
      forall_prop_of_true (.inl rfl)]
    refine forall₂_congr fun sibling earlier => ?_
    have first : sibling.mediaRank < 2 ∧ (∀ tag ∈ [Tag.track], sibling.tag? ≠ some tag) ↔
        sibling.mediaRank ≤ 0 := by
      rw [List.forall_mem_singleton, Ne, ← Node.mediaRank_eq_one]
      omega
    rw [Requirement.blocks_flow_eq_false_iff (flow earlier), first, rank]
    simp [Place.node]
  · by_cases isTrack : child.tag = .track
    · have rank : child.node.mediaRank = 1 :=
        Node.mediaRank_eq_one.mpr (own.trans (congrArg some isTrack))
      rw [isTrack, builtin_entry_media.2.2, ContextRule.checkAll_leading isChild isMedia,
        forall_prop_of_true (.inr rfl)]
      refine forall₂_congr fun sibling earlier => ?_
      have second : sibling.mediaRank < 2 ∧ (∀ tag ∈ ([] : List Tag), sibling.tag? ≠ some tag) ↔
          sibling.mediaRank ≤ 1 := by
        rw [and_iff_left (by simp)]
        omega
      rw [Requirement.blocks_flow_eq_false_iff (flow earlier), second, rank]
      simp [Place.node]
    · have last : child.node.mediaRank = 2 := Node.mediaRank_eq_two.mpr (by simp_all)
      simp [isSource, isTrack, last, Node.mediaRank_le]

end Registry

/-- The grammar of media elements is enforced by their own check and those of their sources and
tracks together. Let a model for flow or phrasing content, with no further tags, no skipped ones and
no quotas, decide on the content of a media element. Nothing is found exactly if its children, white
space apart, are sources, but none if one is given as an attribute, then tracks, then others that
the model allows, and no media element is inside. -/
theorem media_grammar_exact {place : Place} {members : Members} (isMedia : place.tag ∈ Tag.media)
    (effective :
      effectiveModel Registry.builtin (.element place) = some (.plain (.members members)))
    (slot : members.category = some .flow ∨ members.category = some .phrasing)
    (noTags : members.tags = []) (noSkip : members.skip = [])
    (unlimited : members.limits.entries = []) :
    ((Registry.builtin.entry place.tag).checkContent Registry.builtin (.element place) = .ok [] ∧
      ∀ child ∈ place.elementChildren, child.tag = .source ∨ child.tag = .track →
        (Registry.builtin.entry child.tag).checkContext Registry.builtin (.element child) =
          .ok []) ↔
      (∃ sources tracks others,
        (place.children.filter fun child => !child.isSpaces) = sources ++ tracks ++ others ∧
        (∀ child ∈ sources, child.tag? = some .source) ∧
        (place.attributes.has "src" = true → sources = []) ∧
        (∀ child ∈ tracks, child.tag? = some .track) ∧
        ∀ child ∈ others, child.tag? ≠ some .source ∧ child.tag? ≠ some .track ∧
          members.allows child = true) ∧
      ∀ descendant ∈ place.descendants, descendant.tag ∉ Tag.media := by
  rw [Registry.builtin_checkContent_of_media isMedia effective noSkip unlimited]
  constructor
  · rintro ⟨⟨noSource, allowed, outside⟩, contexts⟩
    rw [Registry.builtin_checkContext_of_media isMedia slot noTags allowed,
      pairwise_mediaRank_iff_runs] at contexts
    obtain ⟨sources, tracks, others, split, areSources, areTracks, areOthers⟩ := contexts
    have isChild {child : Node} (part : child ∈ sources ++ tracks ++ others) :
        child ∈ place.children :=
      (List.mem_filter.mp (split ▸ part)).1
    refine ⟨⟨sources, tracks, others, split,
      fun child part => Node.mediaRank_eq_zero.mp (areSources child part), ?_,
      fun child part => Node.mediaRank_eq_one.mp (areTracks child part), ?_⟩, outside⟩
    · intro given
      refine List.eq_nil_iff_forall_not_mem.mpr fun child part => ?_
      exact noSource given child (isChild (by simp [part]))
        (Node.mediaRank_eq_zero.mp (areSources child part))
    · intro child part
      obtain ⟨notSource, notTrack⟩ := Node.mediaRank_eq_two.mp (areOthers child part)
      exact ⟨notSource, notTrack, allowed child (isChild (by simp [part])) (areOthers child part)⟩
  · rintro ⟨⟨sources, tracks, others, split, areSources, given, areTracks, areOthers⟩, outside⟩
    have isPart {child : Node} (member : child ∈ place.children)
        (content : child.isSpaces = false) : child ∈ sources ∨ child ∈ tracks ∨ child ∈ others := by
      have inside : child ∈ place.children.filter fun child => !child.isSpaces :=
        List.mem_filter.mpr ⟨member, by simp [content]⟩
      rw [split] at inside
      simpa [or_assoc] using inside
    have noSource : place.attributes.has "src" = true →
        ∀ child ∈ place.children, child.tag? ≠ some .source := by
      intro isGiven child member isSource
      rcases isPart member (Node.isSpaces_of_tag? isSource) with source | track | other
      · simp [given isGiven] at source
      · simp [areTracks child track] at isSource
      · exact (areOthers child other).1 isSource
    have allowed : ∀ child ∈ place.children, child.mediaRank = 2 →
        members.allows child = true := by
      intro child member rank
      obtain ⟨notSource, notTrack⟩ := Node.mediaRank_eq_two.mp rank
      cases content : child.isSpaces with
      | true => exact members.allows_of_isSpaces content
      | false =>
        rcases isPart member content with source | track | other
        · exact absurd (areSources child source) notSource
        · exact absurd (areTracks child track) notTrack
        · exact (areOthers child other).2.2
    refine ⟨⟨noSource, allowed, outside⟩, ?_⟩
    rw [Registry.builtin_checkContext_of_media isMedia slot noTags allowed,
      pairwise_mediaRank_iff_runs]
    exact ⟨sources, tracks, others, split,
      fun child part => Node.mediaRank_eq_zero.mpr (areSources child part),
      fun child part => Node.mediaRank_eq_one.mpr (areTracks child part),
      fun child part => Node.mediaRank_eq_two.mpr
        ⟨(areOthers child part).1, (areOthers child part).2.1⟩⟩

/-- A video in a paragraph, with a source, a track and a link to it. -/
def linkedVideo : Place where
  start := .named "video"
  before := []
  after := []
  children := [
    .text "\n" {}, .element (.named "source") [], .element (.named "track") [], .text "see " {},
    .element (.named "a") []]
  above := [{ start := .named "p", before := [], after := [] }]

theorem media_grammar_exact_linkedVideo :
    linkedVideo.tag ∈ Tag.media ∧
    effectiveModel Registry.builtin (.element linkedVideo) = some (.ofCategory .phrasing) ∧
    (Registry.builtin.entry linkedVideo.tag).checkContent Registry.builtin (.element linkedVideo) =
      .ok [] ∧
    ∀ child ∈ linkedVideo.elementChildren, child.tag = .source ∨ child.tag = .track →
      (Registry.builtin.entry child.tag).checkContext Registry.builtin (.element child) =
        .ok [] := by
  have isMedia : linkedVideo.tag ∈ Tag.media := by decide +kernel
  have inParagraph : (StartTag.named "p").tag = .p := by decide +kernel
  have effective : effectiveModel Registry.builtin (.element linkedVideo) =
      some (.ofCategory .phrasing) := by
    have listed : Rulebook.flowElement .p (.ofCategory .phrasing) ∈ Rulebook.entries := by
      simp [Rulebook.entries, Rulebook.ruleSets, RuleSet.entries, Rulebook.grouping]
    have inForce : Registry.builtin.content? (StartTag.named "p").tag =
        some (.ofCategory .phrasing) := by
      rw [inParagraph, Registry.content?, Registry.builtin_entry_of listed]
      rfl
    exact effectiveAmong_of_plain inForce rfl
  have blank : Text.isSpaces "\n" = true := by decide +kernel
  have word : Text.isSpaces "see " = false := by decide +kernel
  refine ⟨isMedia, effective, (media_grammar_exact isMedia effective (.inr rfl) rfl rfl rfl).mpr
    ⟨⟨[.element (.named "source") []], [.element (.named "track") []],
      [.text "see " {}, .element (.named "a") []], ?_, ?_, ?_, ?_, ?_⟩, ?_⟩⟩
  · simp [linkedVideo, blank, word]
  · decide +kernel
  · decide +kernel
  · decide +kernel
  · decide +kernel
  · rw [Place.descendants_eq_placesIn]
    decide +kernel

end HtmlNesting
