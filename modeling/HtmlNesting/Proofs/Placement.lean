import HtmlNesting.Proofs.Judging

/-!
# Misplaced elements

An element may be rejected from two sides: a rule of its own says as which category it is expected,
and the content model of its parent says what the parent holds. The rule is silent where the parent
has a content model, and relies on the check there; where the parent has none, nobody checks there
and the rule asks the nearest content model further up. The two sides never both report, and between
them they miss nothing.

`Registry.Refuses` says without either check that an element is misplaced. `Registry.Owes` is what
the content check of the parent reports on it, and `Registry.length_check_expected` what the rule
does; `Registry.length_add_owed` adds them up.
-/

namespace HtmlNesting

/-- An element with a parent stands among the children of the parent. -/
theorem Place.children_of_parent? {place parent : Place} (isParent : place.parent? = some parent) :
    parent.children = place.before ++ .element place.start place.children :: place.after ∧
      place.ancestors = parent :: parent.ancestors := by
  obtain ⟨level, children, above⟩ := place
  cases above with
  | nil => simp [parent?, ancestors, ancestorsFrom] at isParent
  | cons outer rest =>
    simp only [parent?, ancestors, ancestorsFrom, List.head?_cons, Option.some.injEq] at isParent ⊢
    rw [← isParent]
    exact ⟨rfl, rfl⟩

namespace Registry

variable {registry : Registry} {category : Category} {ancestor : Place} {rest : List Place}

/-- An element is the nearest among enclosing ones that has a content model, and neither it nor one
nearer is a template. -/
def IsJudge (registry : Registry) (ancestors : List Place) (judge : Place) (model : ContentModel) :
    Prop :=
  ∃ nearer further, ancestors = nearer ++ judge :: further ∧
    registry.content? judge.tag = some model ∧
    (∀ other ∈ nearer, registry.content? other.tag = none) ∧
    ∀ other ∈ nearer ++ [judge], other.tag ≠ .template

/-- Among enclosing elements there is a judge, and its selected model does not accept a category. -/
def Refuses (registry : Registry) (ancestors : List Place) (category : Category) : Prop :=
  ∃ judge model, registry.IsJudge ancestors judge model ∧
    (model.select judge.attributes).accepts registry judge category = .ok false

/-- The judge is found step by step. -/
theorem isJudge_cons {judge : Place} {model : ContentModel} :
    registry.IsJudge (ancestor :: rest) judge model ↔
      ancestor.tag ≠ .template ∧
        (judge = ancestor ∧ registry.content? ancestor.tag = some model ∨
          registry.content? ancestor.tag = none ∧ registry.IsJudge rest judge model) := by
  constructor
  · rintro ⟨nearer, further, split, registered, free, noTemplate⟩
    cases nearer with
    | nil =>
      cases split
      exact ⟨noTemplate _ (by simp), .inl ⟨rfl, registered⟩⟩
    | cons first nearer =>
      cases split
      refine ⟨noTemplate _ (by simp), .inr ⟨free _ (by simp), nearer, further, rfl, registered,
        ?_, ?_⟩⟩
      · exact fun other member => free other (List.mem_cons_of_mem _ member)
      · exact fun other member => noTemplate other (List.mem_cons_of_mem _ member)
  · rintro ⟨notTemplate, ⟨rfl, registered⟩ |
      ⟨unregistered, nearer, further, rfl, registered, free, noTemplate⟩⟩
    · exact ⟨[], rest, rfl, registered, by simp, by simpa using notTemplate⟩
    · refine ⟨ancestor :: nearer, further, rfl, registered, ?_, ?_⟩
      · exact List.forall_mem_cons.mpr ⟨unregistered, free⟩
      · exact List.forall_mem_cons.mpr ⟨notTemplate, noTemplate⟩

/-- A template takes in everything. -/
theorem not_refuses_template (isTemplate : ancestor.tag = .template) :
    ¬ registry.Refuses (ancestor :: rest) category := by
  rintro ⟨judge, model, isJudge, _⟩
  exact (isJudge_cons.mp isJudge).1 isTemplate

/-- An element without a content model leaves the decision to those further up. -/
theorem refuses_of_unregistered (notTemplate : ancestor.tag ≠ .template)
    (unregistered : registry.content? ancestor.tag = none) :
    registry.Refuses (ancestor :: rest) category ↔ registry.Refuses rest category := by
  simp [Refuses, isJudge_cons, notTemplate, unregistered]

/-- An element with a content model decides by it. -/
theorem refuses_of_registered {model : ContentModel} (notTemplate : ancestor.tag ≠ .template)
    (registered : registry.content? ancestor.tag = some model) :
    registry.Refuses (ancestor :: rest) category ↔
      model.accepts registry ancestor category = .ok false := by
  have selected : (model.select ancestor.attributes).accepts registry ancestor category =
      model.accepts registry ancestor category := by
    rw [ContentModel.accepts, ContentModel.accepts, ContentModel.resolve_select]
  rw [← selected]
  constructor
  · rintro ⟨judge, other, isJudge, refused⟩
    rcases (isJudge_cons.mp isJudge).2 with ⟨rfl, same⟩ | ⟨unregistered, _⟩
    · cases registered.symm.trans same
      exact refused
    · cases registered.symm.trans unregistered
  · intro refused
    exact ⟨ancestor, model, isJudge_cons.mpr ⟨notTemplate, .inl ⟨rfl, registered⟩⟩, refused⟩

/-- Looking for a content model further up finds a violation exactly if the category is refused. -/
theorem expectedAbove_isSome (shallow : registry.Shallow) (place : Place) (category : Category)
    (ancestors : List Place) :
    ∃ outcome, Requirement.expectedAbove registry place category ancestors = .ok outcome ∧
      (outcome.isSome = true ↔ registry.Refuses ancestors category) := by
  induction ancestors with
  | nil =>
    refine ⟨none, rfl, by simp, ?_⟩
    rintro ⟨judge, model, ⟨nearer, further, split, _⟩, _⟩
    simp at split
  | cons ancestor rest ih =>
    rw [Requirement.expectedAbove]
    by_cases isTemplate : ancestor.tag = .template
    · exact ⟨none, by simp [isTemplate], by simp [not_refuses_template isTemplate]⟩
    · cases registered : registry.content? ancestor.tag with
      | none =>
        obtain ⟨outcome, found, isRefusal⟩ := ih
        refine ⟨outcome, by simpa [isTemplate] using found, ?_⟩
        rw [isRefusal, refuses_of_unregistered isTemplate registered]
      | some model =>
        obtain ⟨accepted, answer⟩ := model.accepts_returns shallow ancestor category
        rw [if_neg isTemplate]
        simp only [answer, refuses_of_registered isTemplate registered]
        cases accepted <;> simp

/-- A template has no built-in content model. -/
theorem builtin_content_template : Registry.builtin.content? .template = none := by
  have unlisted : Tag.template ∉ Rulebook.tags := by decide
  cases inForce : Registry.builtin.content? .template with
  | none => rfl
  | some model =>
    obtain ⟨entry, member, isTemplate, _⟩ := mem_of_builtin_content inForce
    rw [← Rulebook.entries_tag, ← isTemplate] at unlisted
    exact absurd (List.mem_map_of_mem member) unlisted

/-- What a rule that expects a category finds: nothing if the parent is a template or has a content
model, which judges by itself, and otherwise one violation if the category is refused. -/
theorem length_check_expected (shallow : registry.Shallow) {place parent : Place}
    (isParent : place.parent? = some parent) (category : Category) (severity : Severity) :
    ∃ own,
      (ContextRule.require (.expected category) severity).check registry (.element place) =
        .ok own ∧
      (parent.tag = .template ∨ (registry.content? parent.tag).isSome → own.length = 0) ∧
      (parent.tag ≠ .template → registry.content? parent.tag = none →
        (registry.Refuses place.ancestors category → own.length = 1) ∧
        (¬ registry.Refuses place.ancestors category → own.length = 0)) := by
  obtain ⟨_, ancestors⟩ := Place.children_of_parent? isParent
  obtain ⟨outcome, found, isRefusal⟩ :=
    expectedAbove_isSome shallow place category parent.ancestors
  have failure : Requirement.failure registry (.element place) (.expected category) =
      Requirement.expectedViolation registry place category parent parent.ancestors := by
    change Requirement.failureAt registry place (.expected category) = _
    unfold Requirement.failureAt
    rw [ancestors]
  rw [ContextRule.check, failure, Requirement.expectedViolation, ancestors]
  by_cases silent : parent.tag = .template ∨ (registry.content? parent.tag).isSome = true
  · refine ⟨[], by simp [silent, ContextRule.reports], fun _ => rfl, ?_⟩
    intro notTemplate unregistered
    simp [notTemplate, unregistered] at silent
  · rw [not_or] at silent
    have unregistered : registry.content? parent.tag = none := by simpa using silent.2
    rw [if_neg (by simp [silent]), found, refuses_of_unregistered silent.1 unregistered,
      ← isRefusal]
    cases outcome with
    | none => exact ⟨[], rfl, fun _ => rfl, by simp⟩
    | some violation => exact ⟨[_], rfl, by simp [silent], by simp⟩

/-- The number of reports that the content check of an element owes on a child expected as a
category: none without a content model, and otherwise one if the model does not accept the
category. -/
inductive Owes (registry : Registry) (parent : Place) (category : Category) : Nat → Prop where
  | unregistered (free : registry.content? parent.tag = none) : Owes registry parent category 0
  | registered {model : ContentModel} {accepted : Bool}
      (inForce : registry.content? parent.tag = some model)
      (answer : model.accepts registry parent category = .ok accepted) :
      Owes registry parent category (if accepted then 0 else 1)

theorem Owes.unique {parent : Place} {first second : Nat}
    (owesFirst : registry.Owes parent category first)
    (owesSecond : registry.Owes parent category second) : first = second := by
  cases owesFirst with
  | unregistered free =>
    cases owesSecond with
    | unregistered _ => rfl
    | registered inForce _ => cases free.symm.trans inForce
  | registered inForce answer =>
    cases owesSecond with
    | unregistered free => cases free.symm.trans inForce
    | registered otherInForce otherAnswer =>
      cases inForce.symm.trans otherInForce
      cases answer.symm.trans otherAnswer
      rfl

theorem Owes.of_marked {parent : Place} {reports : Nat}
    (owes : registry.Owes parent.marked category reports) :
    registry.Owes parent category reports := by
  cases owes with
  | unregistered free => exact .unregistered free
  | @registered model accepted inForce answer =>
    rw [model.accepts_marked] at answer
    exact .registered inForce answer

/-- The content check of an element makes the reports it owes on a child that the registry judges by
a category, at a position that no sibling and not the element itself has. -/
theorem owes_countP (shallow : registry.Shallow) {start : StartTag}
    (judges : registry.JudgesBy category start) {parent : Place}
    {before inside after : List Node}
    (children : parent.children = before ++ .element start inside :: after)
    (fresh : ∀ other ∈ before ++ after, other.position ≠ start.position)
    (apart : parent.start.position ≠ start.position) {found : List Diagnostic}
    (returned : (registry.entry parent.tag).checkContent registry (.element parent) = .ok found) :
    registry.Owes parent category
      ((found.filter Diagnostic.isNear).countP (Diagnostic.isAt start.position)) := by
  rw [RuleEntry.checkContent, ← content?] at returned
  cases inForce : registry.content? parent.tag with
  | none =>
    simp only [inForce, Except.ok.injEq] at returned
    rw [← returned]
    exact .unregistered inForce
  | some model =>
    simp only [inForce] at returned
    obtain ⟨accepted, answer, count⟩ := model.countP_checkNear shallow judges inForce children
      fresh apart (ContentModel.checkNear_of_check returned)
    rw [count]
    exact .registered inForce answer

/-- Marks tell the reports on each child apart. -/
theorem owes_countP_mark (shallow : registry.Shallow) {parent : Place} {start : StartTag}
    {before inside after : List Node}
    (judges : registry.JudgesBy category start)
    (children : parent.children = before ++ .element start inside :: after)
    {marked : List Diagnostic}
    (returned : (registry.entry parent.tag).checkContent registry (.element parent.marked) =
      .ok marked) :
    registry.Owes parent category
      ((marked.filter Diagnostic.isNear).countP (Diagnostic.isAt (.mark before.length))) := by
  have ownMark : parent.marked.start.position ≠ .mark before.length := by
    simp only [Place.marked, Position.mark, ne_eq, Position.mk.injEq, and_true]
    omega
  have owes := owes_countP shallow (judges.atPosition (.mark before.length))
    (Place.children_marked children) (fun _ => position_ne_mark) ownMark returned
  exact owes.of_marked

/-- The rule that expects a category and the content check of the parent make one report together if
the category is refused, and none otherwise. -/
theorem length_add_owed (shallow : registry.Shallow)
    (template : registry.content? .template = none) {place parent : Place}
    (isParent : place.parent? = some parent) {severity : Severity} {own : List Diagnostic}
    (ownReturned : (ContextRule.require (.expected category) severity).check registry
      (.element place) = .ok own) {reports : Nat} (owes : registry.Owes parent category reports) :
    (registry.Refuses place.ancestors category → own.length + reports = 1) ∧
      (¬ registry.Refuses place.ancestors category → own.length + reports = 0) := by
  obtain ⟨_, ancestors⟩ := Place.children_of_parent? isParent
  obtain ⟨found, foundReturned, silent, speaks⟩ :=
    length_check_expected shallow isParent category severity
  cases ownReturned.symm.trans foundReturned
  -- The rule is silent under a template and under a model, the content check without a model.
  by_cases isTemplate : parent.tag = .template
  · have accepted : ¬ registry.Refuses place.ancestors category := by
      rw [ancestors]
      exact not_refuses_template isTemplate
    have nothing := owes.unique (.unregistered (by rw [isTemplate, template]))
    exact ⟨fun refused => absurd refused accepted,
      fun _ => by rw [silent (.inl isTemplate), nothing]⟩
  · cases owes with
    | unregistered free => exact speaks isTemplate free
    | @registered model accepted inForce answer =>
      rw [ancestors, refuses_of_registered isTemplate inForce, answer,
        silent (.inr (by simp [inForce]))]
      cases accepted <;> simp

end Registry

/-- Misplaced elements are reported exactly once. Let an element with a parent be expected as a
category. The reports on it by that rule and by the content check of its parent, excluded
descendants aside, are one if the category is refused: the nearest enclosing element with a content
model, with no template before it, does not accept the category. Otherwise there are none.

The content check is asked about the parent with marks in place of positions, and a report on the
element is a finding at its mark. The findings about the parent itself are the same apart from
positions, and where no sibling shares the position of the element they are told by it. -/
theorem misplaced_reported_once {place parent : Place} {category : Category} {severity : Severity}
    (isParent : place.parent? = some parent)
    (expects : .require (.expected category) severity ∈
      (Registry.builtin.entry place.tag).contexts) :
    ∃ own content marked : List Diagnostic, ∃ reports : Nat,
      (ContextRule.require (.expected category) severity).check Registry.builtin (.element place) =
        .ok own ∧
      (Registry.builtin.entry parent.tag).checkContent Registry.builtin (.element parent) =
        .ok content ∧
      (Registry.builtin.entry parent.tag).checkContent Registry.builtin (.element parent.marked) =
        .ok marked ∧
      content.filter Diagnostic.isNear =
        (marked.filter Diagnostic.isNear).map (Diagnostic.moved parent.unmark) ∧
      reports = (marked.filter Diagnostic.isNear).countP
        (Diagnostic.isAt (.mark place.before.length)) ∧
      (parent.start.position ≠ place.start.position →
        (∀ other ∈ place.before ++ place.after, other.position ≠ place.start.position) →
        reports = (content.filter Diagnostic.isNear).countP
          (Diagnostic.isAt place.start.position)) ∧
      (Registry.builtin.Refuses place.ancestors category → own.length + reports = 1) ∧
      (¬ Registry.builtin.Refuses place.ancestors category → own.length + reports = 0) := by
  obtain ⟨children, _⟩ := Place.children_of_parent? isParent
  obtain ⟨own, ownReturned, _⟩ :=
    Registry.length_check_expected Registry.builtin_shallow isParent category severity
  obtain ⟨content, contentReturned⟩ := Registry.builtin_checkContent_returns parent.tag parent
  obtain ⟨marked, markedReturned⟩ := Registry.builtin_checkContent_returns parent.tag parent.marked
  have judges : Registry.builtin.JudgesBy category place.start :=
    Registry.builtin_judgesBy expects
  -- Counted at the mark and, where it is unshared, at the position: both are what is owed.
  have owes := Registry.owes_countP_mark Registry.builtin_shallow judges children markedReturned
  refine ⟨own, content, marked, _, ownReturned, contentReturned, markedReturned,
    Registry.filter_isNear_marked contentReturned markedReturned, rfl, ?_,
    Registry.length_add_owed Registry.builtin_shallow Registry.builtin_content_template isParent
      ownReturned owes⟩
  intro apart fresh
  exact owes.unique
    (Registry.owes_countP Registry.builtin_shallow judges children fresh apart contentReturned)

/-- A span with a word and a heading in it. -/
def spanWithHeading : Place :=
  { start := .named "span", before := [], after := []
    children := [.text "word" {}, .element (.named "h1") []], above := [] }

/-- The heading in the span. -/
def headingInSpan : Place :=
  { start := .named "h1", before := [.text "word" {}], after := [], children := []
    above := [{ start := .named "span", before := [], after := [] }] }

theorem misplaced_reported_once_heading :
    headingInSpan.parent? = some spanWithHeading ∧
    .expected .flow ∈ (Registry.builtin.entry headingInSpan.tag).contexts ∧
    Registry.builtin.Refuses headingInSpan.ancestors .flow ∧
    ∃ own marked,
      (ContextRule.expected .flow).check Registry.builtin (.element headingInSpan) = .ok own ∧
      (Registry.builtin.entry spanWithHeading.tag).checkContent Registry.builtin
        (.element spanWithHeading.marked) = .ok marked ∧
      own.length + (marked.filter Diagnostic.isNear).countP (Diagnostic.isAt (.mark 1)) = 1 := by
  have isParent : headingInSpan.parent? = some spanWithHeading := rfl
  have headingTag : headingInSpan.tag = .h1 := by decide +kernel
  have spanTag : spanWithHeading.tag = .span := by decide +kernel
  have expects : ContextRule.expected .flow ∈
      (Registry.builtin.entry headingInSpan.tag).contexts := by
    have listed : Rulebook.heading .h1 ∈ Rulebook.entries := by
      simp [Rulebook.entries, Rulebook.ruleSets, RuleSet.entries, Rulebook.sections, Tag.headings]
    have inForce := Registry.builtin_entry_of_mem listed
    rw [Rulebook.heading, RuleEntry.tag_of] at inForce
    rw [headingTag, inForce]
    exact List.mem_singleton.mpr rfl
  have registered : Registry.builtin.content? spanWithHeading.tag =
      some (.ofCategory .phrasing) := by
    have listed : Rulebook.phrasingElement .span (.ofCategory .phrasing) ∈ Rulebook.entries := by
      simp [Rulebook.entries, Rulebook.ruleSets, RuleSet.entries, Rulebook.text, Rulebook.textTags]
    have inForce := Registry.builtin_content_of_mem listed
    rw [Rulebook.phrasingElement, RuleEntry.tag_of] at inForce
    rw [spanTag, inForce]
    rfl
  have refused : Registry.builtin.Refuses headingInSpan.ancestors .flow :=
    (Registry.refuses_of_registered (by simp [spanTag]) registered).mpr rfl
  obtain ⟨own, _, marked, _, ownReturned, _, markedReturned, _, rfl, _, once, _⟩ :=
    misplaced_reported_once isParent expects
  exact ⟨isParent, expects, refused, own, marked, ownReturned, markedReturned, once refused⟩

end HtmlNesting
