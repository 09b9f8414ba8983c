import HtmlNesting.Proofs.Reports
import HtmlNesting.Proofs.Validation

/-!
# Judging a child by its category

A content model may let in a child for its tag or for its categories. For elements that are expected
as a category, only the category counts: no built-in model names their tags, and the slots of the
built-in models let them in exactly if they accept the category, whatever the attributes of the
element (`Registry.builtin_judgesBy`, by evaluation over the rulebook).

A model that judges a child so reports it once if it does not accept the category and otherwise not
at all. This is counted at a position that nothing else has, model by model, and then for the
content check of an element with any model, transparent ones included
(`ContentModel.countP_checkNear`).
-/

namespace HtmlNesting

/-! ## Reports on one child -/

/-- Findings that are all elsewhere are not at a position. -/
theorem countP_isAt_eq_zero {found : List Diagnostic} {position : Position}
    (elsewhere : ∀ finding ∈ found, finding.position ≠ position) :
    found.countP (Diagnostic.isAt position) = 0 := by
  rw [List.countP_eq_zero]
  intro finding member
  simpa using elsewhere finding member

section

variable {start : StartTag} {before inside after : List Node}

/-- A child whose position no other one has is reported there if it is reported at all. -/
theorem countP_reports {read : Node → Option Diagnostic}
    (atNode : ∀ node finding, read node = some finding → finding.position = node.position)
    (fresh : ∀ other ∈ before ++ after, other.position ≠ start.position) :
    ((before ++ .element start inside :: after).filterMap read).countP
      (Diagnostic.isAt start.position) =
        if (read (.element start inside)).isSome then 1 else 0 := by
  have elsewhere : ∀ {nodes : List Node}, (∀ node ∈ nodes, node ∈ before ++ after) →
      (nodes.filterMap read).countP (Diagnostic.isAt start.position) = 0 := by
    intro nodes others
    refine countP_isAt_eq_zero fun finding member => ?_
    obtain ⟨node, listed, report⟩ := List.mem_filterMap.mp member
    rw [atNode node finding report]
    exact fresh node (others node listed)
  have later := elsewhere fun node member => List.mem_append_right before member
  rw [List.filterMap_append, List.countP_append,
    elsewhere fun node member => List.mem_append_left after member]
  cases report : read (.element start inside) with
  | none => simp [List.filterMap_cons_none report, later]
  | some finding =>
    have isOwn : finding.position = start.position := atNode _ finding report
    simp [List.filterMap_cons_some report, isOwn, later]

/-- The same for reports on the selected ones among some nodes. -/
theorem countP_map_filter {selected : Node → Bool} {report : Node → Diagnostic}
    (atNode : ∀ node, (report node).position = node.position)
    (fresh : ∀ other ∈ before ++ after, other.position ≠ start.position) :
    (((before ++ .element start inside :: after).filter selected).map report).countP
      (Diagnostic.isAt start.position) = if selected (.element start inside) then 1 else 0 := by
  rw [← List.filterMap_eq_map, List.filterMap_filter, countP_reports _ fresh]
  · split <;> rfl
  · intro node finding reported
    split at reported
    · cases reported
      exact atNode node
    · cases reported

/-- Start tags read off the children of an element, but not off a certain child, are at other
positions. -/
theorem position_ne_of_mem_filterMap {relevant : Node → Bool} {read : Node → Option StartTag}
    (readStart : ∀ node part, read node = some part → node.start? = some part)
    (unread : (read (.element start inside)).isNone = true)
    (fresh : ∀ other ∈ before ++ after, other.position ≠ start.position) {part : StartTag}
    (member : part ∈ ((before ++ .element start inside :: after).filter relevant).filterMap read) :
    part.position ≠ start.position := by
  obtain ⟨node, isRelevant, found⟩ := List.mem_filterMap.mp member
  have different : node ≠ .element start inside := by
    rintro rfl
    simp [found] at unread
  have isOther : node ∈ before ++ after := by
    simpa [different] using (List.mem_filter.mp isRelevant).1
  have samePosition : node.position = part.position := by
    cases node with
    | text data position => simpa [Node.start?] using readStart _ _ found
    | element other children =>
      have same : other = part := by simpa [Node.start?] using readStart _ _ found
      rw [← same, Node.position]
  rw [← samePosition]
  exact fresh node isOther

end

/-! ## Models that judge by category -/

/-- A model judges an element by a category if it knows no rule for its tag and lets the element in
exactly if it accepts the category. -/
def PlainModel.JudgesBy (category : Category) (start : StartTag) : PlainModel → Prop
  | unchecked _ => False
  | empty _ => True
  | textOnly _ => True
  | members model =>
    start.tag ∉ model.tags ∧ start.tag ∉ model.skip ∧ model.limits.get? start.tag = none ∧
      ∀ slot, model.category = some slot →
        start.categories.any slot.accepts = slot.accepts category
  | ordered model => start.tag ∉ model.grammarTags
  | groups model => start.tag ≠ model.first ∧ start.tag ≠ model.second

section

variable {parent start : StartTag} {before inside after : List Node}

/-- Children are checked in portions. Those before matter to those after by the tags with a quota
among them. -/
theorem Members.checkFrom_append (members : Members) (parent : StartTag) (seen : List Tag)
    (first second : List Node) :
    ∃ later, members.checkFrom parent seen (first ++ second) =
      members.checkFrom parent seen first ++ members.checkFrom parent later second := by
  induction first generalizing seen with
  | nil => exact ⟨seen, rfl⟩
  | cons child rest ih =>
    rw [List.cons_append, checkFrom, checkFrom]
    split
    · exact ih seen
    · split
      · cases members.limit? child with
        | none => exact ih seen
        | some quota =>
          obtain ⟨later, equal⟩ := ih (quota.1 :: seen)
          refine ⟨later, ?_⟩
          simp only [equal]
          split <;> rfl
      · obtain ⟨later, equal⟩ := ih seen
        exact ⟨later, by rw [equal, List.cons_append]⟩

/-- A membership model reports a child without a quota once if it rejects it. -/
theorem Members.countP_checkChildren {members : Members}
    (unlimited : members.limit? (.element start inside) = none)
    (fresh : ∀ other ∈ before ++ after, other.position ≠ start.position) :
    (members.checkChildren parent (before ++ .element start inside :: after)).countP
      (Diagnostic.isAt start.position) =
        if members.rejects (.element start inside) then 1 else 0 := by
  have elsewhere : ∀ {seen nodes}, (∀ node ∈ nodes, node ∈ before ++ after) →
      (members.checkFrom parent seen nodes).countP (Diagnostic.isAt start.position) = 0 := by
    intro seen nodes others
    refine countP_isAt_eq_zero fun finding member => ?_
    obtain ⟨_, _, node, listed, _, rfl⟩ := mem_checkFrom member
    exact fresh node (others node listed)
  have later : ∀ {seen}, (members.checkFrom parent seen after).countP
      (Diagnostic.isAt start.position) = 0 :=
    elsewhere fun node member => List.mem_append_right before member
  -- Three portions: only what is found about the child itself is at its position.
  obtain ⟨seen, portions⟩ := members.checkFrom_append parent [] before
    (.element start inside :: after)
  rw [checkChildren, portions, List.countP_append,
    elsewhere fun node member => List.mem_append_left after member, Nat.zero_add, checkFrom,
    unlimited]
  split
  · next skipped => simp [rejects, skipped, later]
  · next visible =>
    split
    · next allowed => simp [rejects, allowed, later]
    · next refused =>
      have isOwn : (members.notAllowed parent (.element start inside)).position =
          start.position := rfl
      simp [rejects, visible, refused, isOwn, later]

namespace Ordered

theorem start?_of_grammarChild? {ordered : Ordered} {node : Node} {part : StartTag}
    (found : ordered.grammarChild? node = some part) : node.start? = some part := by
  rw [grammarChild?] at found
  cases own : node.start? with
  | none => simp [own] at found
  | some start =>
    simp only [own, Option.ite_none_right_eq_some] at found
    exact found.2

/-- An ordered model reports a child outside its grammar once, unless scripts may stand there. -/
theorem countP_checkChildren {ordered : Ordered} (foreign : start.tag ∉ ordered.grammarTags)
    (notScript : Category.scriptSupporting ∉ start.categories)
    (fresh : ∀ other ∈ before ++ after, other.position ≠ start.position)
    (apart : parent.position ≠ start.position) :
    (ordered.checkChildren parent (before ++ .element start inside :: after)).countP
      (Diagnostic.isAt start.position) = 1 := by
  have isStray : (ordered.grammarChild? (.element start inside)).isNone = true := by
    simp [grammarChild?, Node.start?, foreign]
  have atPart : ∀ part ∈ ordered.grammarChildren (before ++ .element start inside :: after),
      part.position ≠ start.position :=
    fun part member => position_ne_of_mem_filterMap (fun _ _ => start?_of_grammarChild?) isStray
      fresh member
  have isRelevant : ordered.isRelevant (.element start inside) = true := by
    simp [isRelevant, Node.isSpaces, Node.isScriptSupporting, notScript]
  have strays : ((ordered.strays (before ++ .element start inside :: after)).map
      (ordered.strayReport parent)).countP (Diagnostic.isAt start.position) = 1 := by
    rw [Ordered.strays, List.filter_filter, countP_map_filter (fun _ => rfl) fresh]
    simp [isStray, isRelevant]
  -- All reports but those on strays are on children of the grammar or on the element itself.
  simp only [checkChildren, List.append_assoc]
  rw [List.countP_append, strays, countP_isAt_eq_zero]
  intro finding member
  simp only [List.mem_append] at member
  rcases member with dropped | capped | missing | conflict
  · obtain ⟨_, _, part, isPart, _, rfl⟩ := mem_droppedReports dropped
    exact atPart part isPart
  · obtain ⟨part, isPart, _, rfl⟩ := mem_capReports capped
    exact atPart part isPart
  · obtain ⟨_, rfl⟩ := mem_missingReports missing
    exact apart
  · obtain ⟨part, isPart, _, rfl⟩ := mem_conflictReports conflict
    exact atPart part isPart

end Ordered

namespace Groups

theorem start?_of_part? {groups : Groups} {node : Node} {part : StartTag}
    (found : groups.part? node = some part) : node.start? = some part := by
  rw [part?] at found
  cases own : node.start? with
  | none => simp [own] at found
  | some start =>
    simp only [own, Option.ite_none_right_eq_some] at found
    exact found.2

/-- A grouped model reports a child that is no part once, unless it supports scripts. -/
theorem countP_checkChildren {groups : Groups}
    (foreign : start.tag ≠ groups.first ∧ start.tag ≠ groups.second)
    (notScript : Category.scriptSupporting ∉ start.categories)
    (fresh : ∀ other ∈ before ++ after, other.position ≠ start.position) :
    (groups.checkChildren parent (before ++ .element start inside :: after)).countP
      (Diagnostic.isAt start.position) = 1 := by
  have isStray : (groups.part? (.element start inside)).isNone = true := by
    simp [part?, Node.start?, foreign]
  have isRelevant : Groups.isRelevant (.element start inside) = true := by
    simp [Groups.isRelevant, Node.isSpaces, Node.isScriptSupporting, notScript]
  rw [checkChildren, List.countP_append, strays, List.filter_filter,
    countP_map_filter (fun _ => rfl) fresh, countP_isAt_eq_zero]
  · simp [isStray, isRelevant]
  · intro finding member
    obtain ⟨part, isPart, _, rfl⟩ := mem_breakReports member
    exact position_ne_of_mem_filterMap (fun _ _ => start?_of_part?) isStray fresh isPart

end Groups

/-- A model that judges an element by a category reports it once if it does not accept the category,
and otherwise not at all. -/
theorem PlainModel.countP_checkChildren {model : PlainModel} {category : Category}
    (judges : model.JudgesBy category start)
    (notScript : Category.scriptSupporting ∉ start.categories)
    (fresh : ∀ other ∈ before ++ after, other.position ≠ start.position)
    (apart : parent.position ≠ start.position) :
    (model.checkChildren parent (before ++ .element start inside :: after)).countP
      (Diagnostic.isAt start.position) = if model.accepts category then 0 else 1 := by
  cases model with
  | unchecked severity => exact judges.elim
  | empty severity =>
    rw [checkChildren, countP_map_filter (fun _ => rfl) fresh]
    simp [accepts, Node.isSpaces]
  | textOnly severity =>
    rw [checkChildren, List.countP_append, List.map_filterMap, countP_reports _ fresh,
      countP_isAt_eq_zero]
    · simp [accepts, Node.start?]
    · intro finding member
      split at member
      · rw [List.mem_singleton.mp member]
        exact apart
      · simp at member
    · intro node finding reported
      obtain ⟨child, isElement, rfl⟩ := Option.map_eq_some_iff.mp reported
      cases node with
      | text data position => simp [Node.start?] at isElement
      | element other children =>
        have same : other = child := by simpa [Node.start?] using isElement
        rw [← same]
        rfl
  | members members =>
    obtain ⟨unlisted, visible, unlimited, byCategory⟩ := judges
    have noQuota : members.limit? (.element start inside) = none := by
      simp [Members.limit?, Node.tag?, Node.start?, unlimited]
    have notSkipped : members.skips (.element start inside) = false := by
      simp [Members.skips, Node.tag?, Node.start?, visible]
    have allowed : members.allows (.element start inside) = members.accepts category := by
      rw [Members.allows, Members.ofCategory, Members.accepts]
      cases asked : members.category with
      | none => simp [unlisted, Node.isScriptSupporting, notScript]
      | some slot =>
        simp [unlisted, Node.isScriptSupporting, notScript, Node.fills, Node.categories,
          byCategory slot asked]
    rw [checkChildren, Members.countP_checkChildren noQuota fresh, Members.rejects, notSkipped,
      allowed, accepts]
    cases members.accepts category <;> rfl
  | ordered ordered => exact ordered.countP_checkChildren judges notScript fresh apart
  | groups groups => exact groups.countP_checkChildren judges notScript fresh

end

/-- All models of a registry judge an element by a category. -/
structure Registry.JudgesBy (registry : Registry) (category : Category) (start : StartTag) :
    Prop where
  notScript : Category.scriptSupporting ∉ start.categories
  plain : ∀ plain, registry.Applies plain → plain.JudgesBy category start
  transparent : ∀ tag model, registry.content? tag = some model →
    ∀ handing ∈ model.transparents, start.tag ∉ handing.skip ∧ start.tag ∉ handing.forbid

/-- Positions do not enter into judgments. -/
theorem Registry.JudgesBy.atPosition {registry : Registry} {category : Category} {start : StartTag}
    (judges : registry.JudgesBy category start) (position : Position) :
    registry.JudgesBy category { start with position } where
  notScript := judges.notScript
  plain := by
    intro plain applies
    have judgesPlain := judges.plain plain applies
    cases plain <;> exact judgesPlain
  transparent := judges.transparent

/-- A child that is neither skipped nor forbidden is handed on with what is left of the others. -/
theorem Transparent.visible_child {handing : Transparent} {start : StartTag}
    (handedOn : start.tag ∉ handing.skip ∧ start.tag ∉ handing.forbid)
    (before inside after : List Node) :
    handing.visible (before ++ .element start inside :: after) =
      handing.visible before ++ .element start inside :: handing.visible after := by
  simp [visible, isAmong, Node.tag?, Node.start?, handedOn]

/-- The content check of an element reports a child that its models judge by a category once if its
model does not accept the category there, and otherwise not at all. -/
theorem ContentModel.countP_checkNear {registry : Registry} (shallow : registry.Shallow)
    {category : Category} {start : StartTag} (judges : registry.JudgesBy category start)
    {parent : Place} {model : ContentModel}
    (registered : registry.content? parent.tag = some model) {before inside after : List Node}
    (children : parent.children = before ++ .element start inside :: after)
    (fresh : ∀ other ∈ before ++ after, other.position ≠ start.position)
    (apart : parent.start.position ≠ start.position) {found : List Diagnostic}
    (returned : model.checkNear registry parent = .ok found) :
    ∃ accepted, model.accepts registry parent category = .ok accepted ∧
      found.countP (Diagnostic.isAt start.position) = if accepted then 0 else 1 := by
  rw [checkNear, children] at returned
  rw [accepts]
  cases resolved : model.resolve parent.attributes with
  | plain plain =>
    simp only [resolved, Except.ok.injEq] at returned
    have applies : registry.Applies plain :=
      .inr ⟨_, model, registered, mem_plains_of_resolve resolved⟩
    refine ⟨plain.accepts category, rfl, ?_⟩
    rw [← returned]
    exact plain.countP_checkChildren (judges.plain plain applies) judges.notScript fresh apart
  | transparent handing =>
    have handedOn := judges.transparent _ model registered handing
      (mem_transparents_of_resolve resolved)
    have notForbidden : (handing.forbiddenReports parent.start
        (before ++ .element start inside :: after)).countP
          (Diagnostic.isAt start.position) = 0 := by
      rw [Transparent.forbiddenReports, countP_map_filter (fun _ => rfl) fresh]
      simp [Transparent.isAmong, Node.tag?, Node.start?, handedOn]
    -- The child is handed on, and is judged among what is left of its siblings.
    have stillFresh : ∀ other ∈ handing.visible before ++ handing.visible after,
        other.position ≠ start.position := by
      intro other member
      refine fresh other ?_
      rw [Transparent.visible, Transparent.visible, ← List.filter_append] at member
      exact (List.mem_filter.mp member).1
    simp only [resolved, Transparent.visible_child handedOn, checkDelegated] at returned
    rcases delegate_cases shallow parent with delegated | ⟨plain, delegated, applies⟩
    · simp only [delegated, Except.ok.injEq, List.append_nil] at returned
      exact ⟨true, by simp only [delegated], by rw [← returned, notForbidden]; rfl⟩
    · simp only [delegated, Except.ok.injEq] at returned
      refine ⟨plain.accepts category, by simp only [delegated], ?_⟩
      rw [← returned, List.countP_append, notForbidden, Nat.zero_add]
      exact plain.countP_checkChildren (judges.plain plain applies) judges.notScript stillFresh
        apart

/-! ## The built-in models -/

/-- The tags that the built-in content models name. -/
def Rulebook.namedTags : List Tag := [
  .head, .body, .li, .dt, .dd, .figcaption, .caption, .colgroup, .col, .thead, .tbody, .tfoot, .tr,
  .td, .th, .template, .param, .source, .track]

/-- The categories that the built-in content models ask for. -/
def Rulebook.slots : List Category := [.flow, .phrasing, .metadata]

/-- Whether a model checks its children by tags and categories that the built-in models use. -/
def PlainModel.isOrdinary : PlainModel → Bool
  | unchecked _ => false
  | empty _ => true
  | textOnly _ => true
  | members model =>
    model.tags.all Rulebook.namedTags.contains && model.skip.all Rulebook.namedTags.contains &&
      (Dictionary.keys model.limits.entries).all Rulebook.namedTags.contains &&
      model.category.all Rulebook.slots.contains
  | ordered model => model.grammarTags.all Rulebook.namedTags.contains
  | groups model =>
    Rulebook.namedTags.contains model.first && Rulebook.namedTags.contains model.second

/-- Whether a model treats only such children apart as the built-in models name. -/
def Transparent.isOrdinary (handing : Transparent) : Bool :=
  handing.skip.all Rulebook.namedTags.contains && handing.forbid.all Rulebook.namedTags.contains

/-- The categories that an element with a tag can have. -/
def Tag.possibleCategories (tag : Tag) : List Category :=
  Category.all.filter fun category =>
    category.members.contains tag ||
      tag.conditionals.any fun conditional => conditional.adds.contains category

/-- Whether elements with a tag are let in by the built-in models exactly where a category is
accepted, whatever their attributes. -/
def Tag.isJudgedBy (tag : Tag) (category : Category) : Bool :=
  !Rulebook.namedTags.contains tag && !tag.possibleCategories.contains .scriptSupporting &&
    Rulebook.slots.all fun slot =>
      if slot.accepts category then tag.categories.any slot.accepts
      else !tag.possibleCategories.any slot.accepts

/-- A tag that is judged by a category is not named by the built-in models. -/
theorem Tag.not_mem_of_isJudgedBy {tag : Tag} {category : Category}
    (judged : tag.isJudgedBy category = true) {tags : List Tag}
    (named : tags.all Rulebook.namedTags.contains = true) : tag ∉ tags := by
  intro member
  have isNamed := List.all_eq_true.mp named tag member
  rw [isJudgedBy, isNamed] at judged
  simp at judged

/-- The category that a rule asks for without alternatives or conditions. -/
def ContextRule.expects? : ContextRule → Option Category
  | require (.expected category) _ => some category
  | _ => none

/-- An element has the categories of its tag. -/
theorem StartTag.mem_categories_of_tag {start : StartTag} {category : Category}
    (member : category ∈ start.tag.categories) : category ∈ start.categories := by
  simp only [Tag.categories, categories, List.mem_filter, Bool.or_eq_true] at member ⊢
  exact ⟨member.1, .inl member.2⟩

/-- An element has no category that its tag does not make possible. -/
theorem StartTag.mem_possibleCategories {start : StartTag} {category : Category}
    (member : category ∈ start.categories) : category ∈ start.tag.possibleCategories := by
  simp only [categories, Tag.possibleCategories, List.mem_filter, Bool.or_eq_true, List.any_eq_true,
    Bool.and_eq_true] at member ⊢
  refine ⟨member.1, member.2.imp_right ?_⟩
  rintro ⟨conditional, listed, _, adds⟩
  exact ⟨conditional, listed, adds⟩

/-- Slots of the built-in models let in an element exactly if they accept the category. -/
theorem StartTag.any_accepts {start : StartTag} {category slot : Category}
    (judged : start.tag.isJudgedBy category = true) (known : slot ∈ Rulebook.slots) :
    start.categories.any slot.accepts = slot.accepts category := by
  rw [Tag.isJudgedBy, Bool.and_eq_true, List.all_eq_true] at judged
  have decided := judged.2 slot known
  -- Attributes decide on categories between those of the tag and the possible ones.
  cases accepted : slot.accepts category with
  | true =>
    simp only [accepted, if_true, List.any_eq_true] at decided ⊢
    obtain ⟨own, member, fits⟩ := decided
    exact ⟨own, mem_categories_of_tag member, fits⟩
  | false =>
    simp only [accepted, Bool.false_eq_true, if_false, Bool.not_eq_true', List.any_eq_false]
      at decided ⊢
    intro own member
    exact decided own (mem_possibleCategories member)

theorem PlainModel.judgesBy_of_isOrdinary {model : PlainModel} {category : Category}
    {start : StartTag} (ordinary : model.isOrdinary = true)
    (judged : start.tag.isJudgedBy category = true) : model.JudgesBy category start := by
  have unnamed : ∀ {tags : List Tag}, tags.all Rulebook.namedTags.contains = true →
      start.tag ∉ tags := Tag.not_mem_of_isJudgedBy judged
  cases model with
  | unchecked severity => simp [isOrdinary] at ordinary
  | empty severity => trivial
  | textOnly severity => trivial
  | members members =>
    simp only [isOrdinary, Bool.and_eq_true] at ordinary
    obtain ⟨⟨⟨tags, skip⟩, limits⟩, slots⟩ := ordinary
    refine ⟨unnamed tags, unnamed skip, Dictionary.get?_eq_none (unnamed limits), ?_⟩
    intro slot asked
    rw [asked, Option.all_some] at slots
    exact start.any_accepts judged (by simpa using slots)
  | ordered ordered => exact unnamed ordinary
  | groups groups =>
    have both : start.tag ∉ [groups.first, groups.second] :=
      unnamed (by simpa [isOrdinary] using ordinary)
    simpa [JudgesBy] using both

namespace Registry

/-- The built-in content models are ordinary. -/
theorem builtin_isOrdinary {tag : Tag} {model : ContentModel}
    (inForce : Registry.builtin.content? tag = some model) :
    (∀ plain ∈ model.plains, plain.isOrdinary = true) ∧
      ∀ handing ∈ model.transparents, handing.isOrdinary = true := by
  have listed : ∀ entry ∈ Rulebook.entries, entry.content.all (fun model =>
      model.plains.all PlainModel.isOrdinary && model.transparents.all Transparent.isOrdinary) =
        true := by
    decide +kernel
  obtain ⟨entry, member, _, content⟩ := mem_of_builtin_content inForce
  have ordinary := listed entry member
  rw [content, Option.all_some, Bool.and_eq_true, List.all_eq_true, List.all_eq_true] at ordinary
  exact ordinary

/-- An element that is expected as a category is judged by that category. -/
theorem builtin_isJudgedBy {tag : Tag} {category : Category} {severity : Severity}
    (rule : .require (.expected category) severity ∈ (Registry.builtin.entry tag).contexts) :
    tag.isJudgedBy category = true := by
  have listed : (Rulebook.entries.zip Rulebook.tags).all (fun item =>
      (item.1.contexts.filterMap ContextRule.expects?).all item.2.isJudgedBy) = true := by
    decide +kernel
  obtain ⟨entry, member, rfl, inContexts⟩ := mem_of_builtin_contexts rule
  have judged := List.all_eq_true.mp listed _ (Rulebook.mem_zip_tags member)
  refine List.all_eq_true.mp judged category ?_
  exact List.mem_filterMap.mpr ⟨_, inContexts, rfl⟩

/-- The built-in models judge an element by every category that it is expected as. -/
theorem builtin_judgesBy {start : StartTag} {category : Category} {severity : Severity}
    (rule : .require (.expected category) severity ∈
      (Registry.builtin.entry start.tag).contexts) :
    Registry.builtin.JudgesBy category start where
  notScript := by
    intro isScript
    have possible := StartTag.mem_possibleCategories isScript
    have judged := builtin_isJudgedBy rule
    simp [Tag.isJudgedBy, possible] at judged
  plain := by
    intro plain applies
    refine PlainModel.judgesBy_of_isOrdinary ?_ (builtin_isJudgedBy rule)
    rcases applies with flow | ⟨tag, model, inForce, member⟩
    · rw [List.mem_singleton.mp flow]
      decide
    · exact (builtin_isOrdinary inForce).1 plain member
  transparent := by
    intro tag model inForce handing member
    have ordinary := (builtin_isOrdinary inForce).2 handing member
    rw [Transparent.isOrdinary, Bool.and_eq_true] at ordinary
    have judged := builtin_isJudgedBy rule
    exact ⟨Tag.not_mem_of_isJudgedBy judged ordinary.1,
      Tag.not_mem_of_isJudgedBy judged ordinary.2⟩

end Registry

end HtmlNesting
