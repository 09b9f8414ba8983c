import HtmlNesting.Proofs.Placement

/-!
# Nothing is looked for in vain

A check asks for things that need not be there: the entry of a tag in the table of rules, the parent
of an element, the first and the last of some element children, the first of some failures, the
condition of a rule, and the end of a delegation. The checks are written so that each question comes
after what answers it. Here they are written once more without that care: a strict check asks
whenever it needs to, and ends with a `Miss` when there is no answer. Delegation goes on for a given
number of rounds.

Wherever a check returns, the strict check returns the same (`Strict.failure_of_ok` and its kin).
This uses that a rule is not asked about a root, that an element is among the element children of
its parent, that the table has an entry for every tag, and that models settled by one choice hand
their children on to a plain model.
-/

namespace HtmlNesting

/-- What a check asked for and did not find. -/
inductive Miss where
  /-- An entry for a tag in the table of rules. -/
  | entry
  /-- The parent of an element. -/
  | parent
  /-- The first or the last of the element children. -/
  | elementChild
  /-- The first failure of some alternatives. -/
  | alternative
  /-- The condition that a rule states. -/
  | condition
  /-- The end of a delegation within the given number of rounds. -/
  | ending
  deriving DecidableEq, Repr

/-- An answer that there has to be. -/
def Miss.unless {α : Type} (miss : Miss) : Option α → Except Miss α
  | none => .error miss
  | some answer => .ok answer

@[simp] theorem Miss.unless_some {α : Type} (miss : Miss) (answer : α) :
    miss.unless (some answer) = .ok answer :=
  rfl

/-- An answer is passed on to what asked for it. -/
@[simp] theorem ok_bind {α β : Type} (answer : α) (next : α → Except Miss β) :
    (Except.ok answer >>= next) = next answer :=
  rfl

@[simp] theorem pure_eq_ok {α : Type} (answer : α) : (pure answer : Except Miss α) = .ok answer :=
  rfl

/-- The table of rules: the registered entries, and a permissive one for every tag without. -/
def Registry.table (registry : Registry) : Dictionary Tag RuleEntry :=
  Tag.all.foldl
    (fun entries tag =>
      if Dictionary.has entries tag then entries else entries ++ [(tag, .permissive tag)])
    registry.entries

/-! ## Strict checks -/

namespace Strict

variable (table : Dictionary Tag RuleEntry)

/-- The entry of a tag. -/
def entry (tag : Tag) : Except Miss RuleEntry :=
  Miss.entry.unless (Dictionary.get? table tag)

/-- The enclosing element. -/
def parent (place : Place) : Except Miss Place :=
  Miss.parent.unless place.parent?

/-- The model that the children of a transparent element are checked against. -/
def effectiveAmong : List Place → Except Miss (Option ContentModel)
  | [] => return some .flowContent
  | ancestor :: rest => do
    let own ← entry table ancestor.tag
    match own.content with
    | none => return none
    | some model =>
      match model.select ancestor.attributes with
      | .transparent _ => effectiveAmong rest
      | selected => return some selected

/-- Checks a list of children of an element. -/
def checkChildren (place : Place) (children : List Node) :
    Nat → ContentModel → Except Miss (List Diagnostic)
  | 0, _ => throw .ending
  | _ + 1, .plain model => return model.checkChildren place.start children
  | rounds + 1, .transparent _ => do
    match ← effectiveAmong table place.ancestors with
    | none => return []
    | some model => checkChildren place children rounds model
  | rounds + 1, .whenAttribute name present absent =>
    checkChildren place children rounds (if place.attributes.has name then present else absent)

/-- Checks an element with all its children. -/
def check (place : Place) : Nat → ContentModel → Except Miss (List Diagnostic)
  | 0, _ => throw .ending
  | _ + 1, .plain model => return model.check place
  | rounds + 1, .transparent handing => do
    let delegated ← checkChildren table place (handing.visible place.children) (rounds + 1)
      (.transparent handing)
    return handing.forbiddenReports place.start place.children ++ delegated ++
      scanFor handing.exclude place
  | rounds + 1, .whenAttribute name present absent =>
    check place rounds (if place.attributes.has name then present else absent)

/-- Whether children of a category fit a model at an element. -/
def accepts (place : Place) (category : Category) : Nat → ContentModel → Except Miss Bool
  | 0, _ => throw .ending
  | _ + 1, .plain model => return model.accepts category
  | rounds + 1, .transparent _ => do
    match ← effectiveAmong table place.ancestors with
    | none => return true
    | some model => accepts place category rounds model
  | rounds + 1, .whenAttribute name present absent =>
    accepts place category rounds (if place.attributes.has name then present else absent)

variable (rounds : Nat) (place : Place)

/-- Looks through enclosing elements for the first with a content model. The parent, which comes
first if it is among them, reports what it rejects itself. -/
def expectedAmong (category : Category) (isParent : Bool) :
    List Place → Except Miss (Option Violation)
  | [] => return none
  | ancestor :: rest => do
    if ancestor.tag = .template then return none
    let own ← entry table ancestor.tag
    match own.content with
    | none => expectedAmong category false rest
    | some model =>
      if isParent then return none
      let selected := model.select ancestor.attributes
      if ← accepts table ancestor category rounds selected then return none
      return some {
        code := .categoryNotExpected
        message := place.start.shown ++ " must be used where " ++ category.name ++
          " is expected, " ++ ancestor.start.shown ++ " does not accept it" }

/-- The failure to be the first or the last element child of a parent. Siblings are told apart by
where they stand. -/
def edgeViolation (tag : Tag) : Except Miss (Option Violation) := do
  let outer ← parent place
  if outer.tag ≠ tag then return some (Requirement.wrongParent place.start.shown outer tag)
  let first ← Miss.elementChild.unless outer.elementChildren.head?
  let last ← Miss.elementChild.unless outer.elementChildren.getLast?
  if first.before.length = place.before.length || last.before.length = place.before.length then
    return none
  return some (Requirement.notAtEdge place.start.shown tag)

/-- The violation of a requirement, whether or not it says something about the element. -/
def violation : Requirement → Except Miss (Option Violation)
  | .documentRoot =>
    match place.parent? with
    | some outer => return some (Requirement.insideParent place.start.shown outer)
    | none => return Requirement.rootViolation place
  | .expected category => expectedAmong table rounds place category true place.ancestors
  | .parentIs tags through => do
    let outer ← parent place
    return Requirement.parentViolation place.start.shown outer outer.ancestors tags through
  | .nthChildOf tag index after => do
    let outer ← parent place
    return Requirement.nthViolation place outer tag index after
  | .firstOrLastChildOf tag => edgeViolation place tag
  | .uniqueAmongSiblings => return Requirement.duplicateViolation place (← parent place)
  | .noAncestor tags => return Requirement.insideViolation place place.ancestors tags
  | .hasAncestor tags => return Requirement.outsideViolation place place.ancestors tags
  | .beforeAny tags categories => return Requirement.lateViolation place tags categories
  | .unstated => throw .condition

/-- The failure to meet a requirement. Only one requirement says something about a root. -/
def failureOf (requirement : Requirement) : Except Miss (Option Violation) :=
  if place.isRoot && requirement ≠ .documentRoot then return none
  else violation table rounds place requirement

mutual

/-- The first violation of a rule, or none. -/
def failure : ContextRule → Except Miss (Option Violation)
  | .require requirement _ => failureOf table rounds place requirement
  | .anyOf rules _ => do
    if place.isRoot then return none
    match ← failures rules with
    | none => return none
    | some found => return some (← Miss.alternative.unless found.head?)
  | .byAttribute branches otherwise => failureOfBranches (firstFailure otherwise) branches

/-- The failures of some alternatives, unless one of them holds. -/
def failures : List ContextRule → Except Miss (Option (List Violation))
  | [] => return some []
  | rule :: rest => do
    match ← failure rule with
    | none => return none
    | some found =>
      match ← failures rest with
      | none => return none
      | some others => return some (found :: others)

/-- The first failure of a list of rules. -/
def firstFailure : List ContextRule → Except Miss (Option Violation)
  | [] => return none
  | rule :: rest => do
    match ← failure rule with
    | some found => return some found
    | none => firstFailure rest

/-- The first failure in the branch that the attributes choose. -/
def failureOfBranches (otherwise : Except Miss (Option Violation)) :
    List (AttributeTest × List ContextRule) → Except Miss (Option Violation)
  | [] => otherwise
  | (test, rules) :: rest =>
    if test.holds place.attributes then firstFailure rules
    else failureOfBranches otherwise rest

end

mutual

/-- The diagnostics of a rule. -/
def checkRule : ContextRule → Except Miss (List Diagnostic)
  | .byAttribute branches otherwise => checkBranches (checkRules otherwise) branches
  | rule => do
    match ← failure table rounds place rule with
    | none => return []
    | some found => return [ContextRule.report (.element place) rule.severity found]

/-- The diagnostics of a list of rules, in order. -/
def checkRules : List ContextRule → Except Miss (List Diagnostic)
  | [] => return []
  | rule :: rest => do
    return (← checkRule rule) ++ (← checkRules rest)

/-- The diagnostics of the branch that the attributes choose. -/
def checkBranches (otherwise : Except Miss (List Diagnostic)) :
    List (AttributeTest × List ContextRule) → Except Miss (List Diagnostic)
  | [] => otherwise
  | (test, rules) :: rest =>
    if test.holds place.attributes then checkRules rules else checkBranches otherwise rest

end

/-- The findings about an element under the rules of its tag. -/
def checkPlace : Except Miss (List Diagnostic) := do
  let own ← entry table place.tag
  let context ← checkRules table rounds place own.contexts
  match own.content with
  | none => return context
  | some model => return context ++ (← check table place rounds model)

/-- The findings about a tree, ordered by position. -/
def validate (tree : Tree) : Except Miss (List Diagnostic) := do
  let findings ← gather (checkPlace table rounds) tree.visited
  return findings.mergeSort Diagnostic.reportedBy

end Strict

/-! ## What is found -/

/-- The table has an entry for every tag, the one in force. -/
theorem Registry.get?_table (registry : Registry) (tag : Tag) :
    Dictionary.get? registry.table tag = some (registry.entry tag) := by
  have filled : ∀ (tags : List Tag) (entries : Dictionary Tag RuleEntry),
      Dictionary.get? (tags.foldl (fun entries tag =>
        if Dictionary.has entries tag then entries
        else entries ++ [(tag, .permissive tag)]) entries) tag =
          (Dictionary.get? entries tag).or
            (if tag ∈ tags then some (.permissive tag) else none) := by
    intro tags
    induction tags with
    | nil => simp
    | cons first rest ih =>
      intro entries
      rw [List.foldl_cons, ih]
      by_cases same : first = tag
      · cases known : Dictionary.get? entries tag with
        | none => simp [Dictionary.has, same, known, Dictionary.get?_append, Dictionary.get?]
        | some own => simp [Dictionary.has, same, known]
      · cases known : Dictionary.has entries first
        · simp [Dictionary.get?_append, Dictionary.get?, same, Ne.symm same]
        · simp [Ne.symm same]
  rw [table, filled, if_pos (Tag.mem_all tag), entry]
  cases Dictionary.get? registry.entries tag <;> rfl

namespace Place

/-- The elements among siblings are those of a first portion, followed by those of the rest. -/
theorem siblingPlaces_append (above : List Level) (before first second : List Node) :
    ∃ earlier, siblingPlaces above before (first ++ second) =
        earlier ++ siblingPlaces above (before ++ first) second ∧
      earlier.map (fun sibling => sibling.start) = first.filterMap Node.start? := by
  induction first generalizing before with
  | nil => exact ⟨[], by simp, rfl⟩
  | cons node rest ih =>
    obtain ⟨earlier, split, starts⟩ := ih (before ++ [node])
    rw [List.append_assoc, List.singleton_append] at split
    cases node with
    | text data position =>
      exact ⟨earlier, split, by rw [starts, List.filterMap_cons_none rfl]⟩
    | element start children =>
      refine ⟨{ start, before, after := rest ++ second, children, above } :: earlier, ?_, ?_⟩
      · rw [List.cons_append, siblingPlaces, split, List.cons_append]
      · rw [List.map_cons, starts]
        rfl

/-- A root is an element with nothing around it. -/
theorem isRoot_eq_isEmpty (place : Place) : place.isRoot = place.ancestors.isEmpty := by
  obtain ⟨level, children, above⟩ := place
  cases above <;> rfl

variable {place parent : Place}

/-- An element stands among the element children of its parent. -/
theorem elementChildren_of_parent? (isParent : place.parent? = some parent) :
    ∃ earlier later, parent.elementChildren = earlier ++ place :: later ∧
      earlier.map (fun sibling => sibling.start) = place.elementsBefore ∧
      later.map (fun sibling => sibling.start) = place.elementsAfter := by
  obtain ⟨level, children, above⟩ := place
  cases above with
  | nil => simp [parent?, ancestors, ancestorsFrom] at isParent
  | cons outer rest =>
    simp only [parent?, ancestors, ancestorsFrom, List.head?_cons, Option.some.injEq] at isParent
    obtain ⟨earlier, split, starts⟩ := siblingPlaces_append (outer :: rest) [] level.before
      (.element level.start children :: level.after)
    refine ⟨earlier, _, ?_, starts, siblingPlaces_start (outer :: rest)
      (level.before ++ [.element level.start children]) level.after⟩
    rw [← isParent, elementChildren]
    exact split

end Place

namespace Strict

variable {registry : Registry} {place : Place}

theorem entry_table (registry : Registry) (tag : Tag) :
    entry registry.table tag = .ok (registry.entry tag) := by
  rw [entry, registry.get?_table]
  rfl

theorem parent_of_parent? {outer : Place} (isParent : place.parent? = some outer) :
    parent place = .ok outer := by
  rw [parent, isParent]
  rfl

/-- The nearest model that is not transparent is found, if there is one. -/
theorem effectiveAmong_table (registry : Registry) (ancestors : List Place) :
    effectiveAmong registry.table ancestors =
      .ok (HtmlNesting.effectiveAmong registry ancestors) := by
  induction ancestors with
  | nil => rfl
  | cons ancestor rest ih =>
    simp only [effectiveAmong, entry_table, ok_bind, pure_eq_ok, HtmlNesting.effectiveAmong,
      Registry.content?, ih]
    cases (registry.entry ancestor.tag).content with
    | none => rfl
    | some model => cases selected : model.select ancestor.attributes <;> simp [selected]

/-! ## Content -/

/-- A transparent element hands its children on in one round. -/
theorem checkChildren_of_delegated (shallow : registry.Shallow) {children : List Node}
    {found : List Diagnostic} (returned : checkDelegated registry place children = .ok found)
    (rounds : Nat) (handing : Transparent) :
    checkChildren registry.table place children (rounds + 2) (.transparent handing) =
      .ok found := by
  simp only [checkDelegated, delegate, effectiveModel, Subject.ancestors] at returned
  rw [checkChildren, effectiveAmong_table, ok_bind]
  cases effective : HtmlNesting.effectiveAmong registry place.ancestors with
  | none =>
    simp only [effective, Except.ok.injEq] at returned
    rw [← returned, pure_eq_ok]
  | some model =>
    obtain ⟨plain, rfl⟩ := effectiveAmong_plain shallow effective
    simp only [effective, ContentModel.resolve, Except.ok.injEq] at returned
    rw [← returned]
    rfl

/-- A model without a choice by attribute checks an element in two rounds. -/
theorem check_of_settled (shallow : registry.Shallow) {model : ContentModel}
    (settled : model.isOpen = false) {found : List Diagnostic}
    (returned : model.check registry place = .ok found) (rounds : Nat) :
    check registry.table place (rounds + 2) model = .ok found := by
  rw [ContentModel.check] at returned
  cases model with
  | plain plain =>
    simp only [ContentModel.resolve, Except.ok.injEq] at returned
    rw [← returned, check, pure_eq_ok]
  | transparent handing =>
    cases outcome : checkDelegated registry place (handing.visible place.children) with
    | error fault => simp [ContentModel.resolve, outcome] at returned
    | ok delegated =>
      simp only [ContentModel.resolve, outcome, Except.ok.injEq] at returned
      rw [check, checkChildren_of_delegated shallow outcome, ok_bind, pure_eq_ok, returned]
  | whenAttribute name present absent => simp [ContentModel.isOpen] at settled

/-- A model that is settled by one choice checks an element in three rounds. -/
theorem check_of_ok (shallow : registry.Shallow) {model : ContentModel}
    (isShallow : model.isShallow = true) {found : List Diagnostic}
    (returned : model.check registry place = .ok found) (rounds : Nat) :
    check registry.table place (rounds + 3) model = .ok found := by
  have settled := ContentModel.isOpen_select place.attributes isShallow
  have selected : (model.select place.attributes).check registry place = .ok found := by
    rw [ContentModel.check, ContentModel.resolve_select]
    exact returned
  cases model with
  | plain plain => exact check_of_settled shallow settled selected (rounds + 1)
  | transparent handing => exact check_of_settled shallow settled selected (rounds + 1)
  | whenAttribute name present absent => exact check_of_settled shallow settled selected rounds

/-- A model without a choice by attribute accepts a category or not in two rounds. -/
theorem accepts_of_settled (shallow : registry.Shallow) {model : ContentModel}
    (settled : model.isOpen = false) {category : Category} {accepted : Bool}
    (returned : model.accepts registry place category = .ok accepted) (rounds : Nat) :
    accepts registry.table place category (rounds + 2) model = .ok accepted := by
  rw [ContentModel.accepts] at returned
  cases model with
  | plain plain =>
    simp only [ContentModel.resolve, Except.ok.injEq] at returned
    rw [← returned, accepts, pure_eq_ok]
  | transparent handing =>
    simp only [ContentModel.resolve, delegate, effectiveModel, Subject.ancestors] at returned
    rw [accepts, effectiveAmong_table, ok_bind]
    cases effective : HtmlNesting.effectiveAmong registry place.ancestors with
    | none =>
      simp only [effective, Except.ok.injEq] at returned
      rw [← returned, pure_eq_ok]
    | some model =>
      obtain ⟨plain, rfl⟩ := effectiveAmong_plain shallow effective
      simp only [effective, ContentModel.resolve, Except.ok.injEq] at returned
      rw [← returned]
      rfl
  | whenAttribute name present absent => simp [ContentModel.isOpen] at settled

/-! ## Context -/

/-- What is expected further up is found to be accepted or not. -/
theorem expectedAmong_of_above (shallow : registry.Shallow) {category : Category}
    {ancestors : List Place} {outcome : Option Violation}
    (returned : Requirement.expectedAbove registry place category ancestors = .ok outcome)
    (rounds : Nat) :
    expectedAmong registry.table (rounds + 3) place category false ancestors = .ok outcome := by
  induction ancestors with
  | nil =>
    rw [Requirement.expectedAbove, Except.ok.injEq] at returned
    rw [expectedAmong, ← returned, pure_eq_ok]
  | cons ancestor rest ih =>
    rw [Requirement.expectedAbove] at returned
    rw [expectedAmong]
    split at returned
    · next isTemplate =>
      rw [Except.ok.injEq] at returned
      simp [isTemplate, returned]
    · next notTemplate =>
      simp only [notTemplate, entry_table, ok_bind, if_false]
      rw [Registry.content?] at returned
      cases content : (registry.entry ancestor.tag).content with
      | none =>
        simp only [content] at returned
        exact ih returned
      | some model =>
        simp only [content] at returned
        have settled := ContentModel.isOpen_select ancestor.attributes
          (shallow ancestor.tag model content)
        obtain ⟨accepted, answer⟩ := model.accepts_returns shallow ancestor category
        have selected : (model.select ancestor.attributes).accepts registry ancestor category =
            .ok accepted := by
          rw [ContentModel.accepts, ContentModel.resolve_select]
          exact answer
        rw [answer] at returned
        simp only [accepts_of_settled shallow settled selected (rounds + 1), ok_bind]
        cases accepted <;> simpa using returned

/-- The failure to stand where a category is expected is found. -/
theorem expectedAmong_of_ok (shallow : registry.Shallow) {category : Category} {outer : Place}
    {further : List Place} {outcome : Option Violation}
    (returned : Requirement.expectedViolation registry place category outer further =
      .ok outcome) (rounds : Nat) :
    expectedAmong registry.table (rounds + 3) place category true (outer :: further) =
      .ok outcome := by
  rw [Requirement.expectedViolation, Registry.content?] at returned
  rw [expectedAmong, entry_table]
  by_cases isTemplate : outer.tag = .template
  · simpa [isTemplate] using returned
  · cases content : (registry.entry outer.tag).content with
    | none =>
      have above : Requirement.expectedAbove registry place category further = .ok outcome := by
        simpa [isTemplate, content] using returned
      simpa [isTemplate, content] using expectedAmong_of_above shallow above rounds
    | some model => simpa [isTemplate, content] using returned

/-- An element that has a parent is or is not at either end of the element children there. -/
theorem edgeViolation_of_parent? {outer : Place} (isParent : place.parent? = some outer)
    (tag : Tag) :
    edgeViolation place tag = .ok (Requirement.edgeViolation place outer tag) := by
  rw [edgeViolation, parent_of_parent? isParent, ok_bind, Requirement.edgeViolation]
  by_cases isTag : outer.tag = tag
  · obtain ⟨earlier, later, children, startsBefore, startsAfter⟩ :=
      Place.elementChildren_of_parent? isParent
    have increasing : outer.elementChildren.Pairwise fun first second =>
        first.before.length < second.before.length := siblingPlaces_increasing _ _ _
    rw [children, List.pairwise_append, List.pairwise_cons] at increasing
    obtain ⟨_, ⟨beforeLater, _⟩, afterEarlier⟩ := increasing
    -- The first element child is the element itself or stands before it, and the last one likewise.
    have isFirst : ∃ first, (earlier ++ place :: later).head? = some first ∧
        (first.before.length = place.before.length ↔ earlier = []) := by
      cases earlier with
      | nil => exact ⟨place, rfl, by simp⟩
      | cons first between =>
        have firstBefore := afterEarlier first (by simp) place (by simp)
        exact ⟨first, rfl, by simp; omega⟩
    have isLast : ∃ last, (earlier ++ place :: later).getLast? = some last ∧
        (last.before.length = place.before.length ↔ later = []) := by
      rcases List.eq_nil_or_concat later with rfl | ⟨between, last, rfl⟩
      · exact ⟨place, by simp, by simp⟩
      · have lastAfter := beforeLater last (by simp)
        refine ⟨last, ?_, by simp; omega⟩
        rw [List.concat_eq_append, ← List.cons_append, ← List.append_assoc, List.getLast?_concat]
    obtain ⟨first, firstFound, atFront⟩ := isFirst
    obtain ⟨last, lastFound, atBack⟩ := isLast
    rw [children, firstFound, lastFound, ← startsBefore, ← startsAfter]
    by_cases atEdge : earlier = [] ∨ later = []
    · simp [isTag, atFront, atBack, atEdge]
    · simp [isTag, atFront, atBack, atEdge]
  · simp [isTag]

/-- A requirement is found to be met or not where the check returns. -/
theorem failureOf_of_ok (shallow : registry.Shallow) {requirement : Requirement}
    {outcome : Option Violation} (returned : requirement.failureAt registry place = .ok outcome)
    (rounds : Nat) :
    failureOf registry.table (rounds + 3) place requirement = .ok outcome := by
  unfold Requirement.failureAt at returned
  have isRoot := place.isRoot_eq_isEmpty
  cases around : place.ancestors with
  | nil =>
    cases requirement with
    | documentRoot =>
      simp only [around, Except.ok.injEq] at returned
      simp [failureOf, violation, Place.parent?, around, returned]
    | _ => simpa [failureOf, isRoot, around] using returned
  | cons outer further =>
    have isParent : place.parent? = some outer := by rw [Place.parent?, around, List.head?_cons]
    obtain ⟨_, ancestors⟩ := Place.children_of_parent? isParent
    obtain ⟨_, rfl⟩ := List.cons.inj (around.symm.trans ancestors)
    simp only [around] at returned
    simp only [failureOf, isRoot, around, List.isEmpty_cons, Bool.false_and, Bool.false_eq_true,
      if_false]
    cases requirement with
    | expected category =>
      rw [violation, around]
      exact expectedAmong_of_ok shallow returned rounds
    | firstOrLastChildOf tag =>
      rw [violation, edgeViolation_of_parent? isParent, Except.ok.inj returned]
    | unstated => cases returned
    | _ => simpa [around, violation, isParent, parent_of_parent? isParent] using returned

mutual

/-- The first violation of a rule is found where the check returns. -/
theorem failure_of_ok (shallow : registry.Shallow) (rounds : Nat) {outcome : Option Violation} :
    (rule : ContextRule) → rule.failure registry (.element place) = .ok outcome →
    failure registry.table (rounds + 3) place rule = .ok outcome
  | .require requirement _, returned => by
    rw [ContextRule.failure] at returned
    rw [failure]
    exact failureOf_of_ok shallow returned rounds
  | .anyOf rules _, returned => by
    rw [ContextRule.failure] at returned
    rw [failure]
    have sameRoot : (Subject.element place).isRoot = place.isRoot := place.isRoot_eq_isEmpty.symm
    rw [sameRoot] at returned
    by_cases isRoot : place.isRoot = true
    · simpa [isRoot] using returned
    · rcases failures_of_all shallow rounds rules (by simpa [isRoot] using returned) with
        ⟨rfl, found⟩ | ⟨violation, others, rfl, found⟩
      · simp [isRoot, found]
      · simp [isRoot, found]
  | .byAttribute branches otherwise, returned => by
    rw [ContextRule.failure] at returned
    rw [failure]
    exact failureOfBranches_of_ok shallow rounds
      (fun _ => firstFailure_of_ok shallow rounds otherwise) branches returned

/-- Alternatives all fail, or one holds, where the check returns. -/
theorem failures_of_all (shallow : registry.Shallow) (rounds : Nat) {outcome : Option Violation} :
    (rules : List ContextRule) →
    ContextRule.failureOfAll registry (.element place) rules = .ok outcome →
    (outcome = none ∧ failures registry.table (rounds + 3) place rules = .ok none) ∨
      ∃ violation others, outcome = some violation ∧
        failures registry.table (rounds + 3) place rules = .ok (some (violation :: others))
  | [], returned => by cases returned
  | rule :: rest, returned => by
    rw [ContextRule.failureOfAll] at returned
    rw [failures]
    cases own : rule.failure registry (.element place) with
    | error fault => simp [own] at returned
    | ok first =>
      simp only [own] at returned
      simp only [failure_of_ok shallow rounds rule own, ok_bind]
      cases first with
      | none => exact .inl ⟨(Except.ok.inj returned).symm, rfl⟩
      | some violation =>
        rcases failures_of_unlessAny shallow rounds violation rest returned with
          ⟨holds, found⟩ | ⟨fails, others, found⟩
        · exact .inl ⟨holds, by simp only [found, ok_bind, pure_eq_ok]⟩
        · exact .inr ⟨violation, others, fails, by simp only [found, ok_bind, pure_eq_ok]⟩

/-- Further alternatives all fail, or one holds, where the check returns. -/
theorem failures_of_unlessAny (shallow : registry.Shallow) (rounds : Nat) (violation : Violation)
    {outcome : Option Violation} : (rules : List ContextRule) →
    ContextRule.failureUnlessAny registry (.element place) violation rules = .ok outcome →
    (outcome = none ∧ failures registry.table (rounds + 3) place rules = .ok none) ∨
      (outcome = some violation ∧
        ∃ others, failures registry.table (rounds + 3) place rules = .ok (some others))
  | [], returned => by
    rw [ContextRule.failureUnlessAny, Except.ok.injEq] at returned
    exact .inr ⟨returned.symm, [], by rw [failures, pure_eq_ok]⟩
  | rule :: rest, returned => by
    rw [ContextRule.failureUnlessAny] at returned
    rw [failures]
    cases own : rule.failure registry (.element place) with
    | error fault => simp [own] at returned
    | ok first =>
      simp only [own] at returned
      simp only [failure_of_ok shallow rounds rule own, ok_bind]
      cases first with
      | none => exact .inl ⟨(Except.ok.inj returned).symm, rfl⟩
      | some other =>
        rcases failures_of_unlessAny shallow rounds violation rest returned with
          ⟨holds, found⟩ | ⟨fails, others, found⟩
        · exact .inl ⟨holds, by simp only [found, ok_bind, pure_eq_ok]⟩
        · exact .inr ⟨fails, other :: others, by simp only [found, ok_bind, pure_eq_ok]⟩

/-- The first violation of some rules is found where the check returns. -/
theorem firstFailure_of_ok (shallow : registry.Shallow) (rounds : Nat)
    {outcome : Option Violation} : (rules : List ContextRule) →
    ContextRule.firstFailure registry (.element place) rules = .ok outcome →
    firstFailure registry.table (rounds + 3) place rules = .ok outcome
  | [], returned => by
    rw [ContextRule.firstFailure, Except.ok.injEq] at returned
    rw [firstFailure, pure_eq_ok, returned]
  | rule :: rest, returned => by
    rw [ContextRule.firstFailure] at returned
    rw [firstFailure]
    cases own : rule.failure registry (.element place) with
    | error fault => simp [own] at returned
    | ok first =>
      rw [failure_of_ok shallow rounds rule own, ok_bind]
      cases first with
      | none => exact firstFailure_of_ok shallow rounds rest (by simpa [own] using returned)
      | some violation => simpa [own] using returned

/-- The first violation in the branch chosen by the attributes is found where the check returns. -/
theorem failureOfBranches_of_ok (shallow : registry.Shallow) (rounds : Nat)
    {outcome : Option Violation} {otherwise : Except RuleFault (Option Violation)}
    {strict : Except Miss (Option Violation)}
    (found : ∀ outcome, otherwise = .ok outcome → strict = .ok outcome) :
    (branches : List (AttributeTest × List ContextRule)) →
    ContextRule.failureOfBranches registry (.element place) otherwise branches = .ok outcome →
    failureOfBranches registry.table (rounds + 3) place strict branches = .ok outcome
  | [], returned => by
    rw [ContextRule.failureOfBranches] at returned
    rw [failureOfBranches]
    exact found _ returned
  | (test, rules) :: rest, returned => by
    simp only [ContextRule.failureOfBranches, Subject.attributes?] at returned
    rw [failureOfBranches]
    split at returned
    · next holds => exact (if_pos holds).trans (firstFailure_of_ok shallow rounds rules returned)
    · next fails =>
      exact (if_neg fails).trans (failureOfBranches_of_ok shallow rounds found rest returned)

end

/-- A rule that reports its first violation does so where the check returns. -/
theorem report_of_ok (shallow : registry.Shallow) (rounds : Nat) {rule : ContextRule}
    {found : List Diagnostic}
    (returned : ContextRule.reports (.element place) rule.severity
      (rule.failure registry (.element place)) = .ok found) :
    (do
      match ← failure registry.table (rounds + 3) place rule with
      | none => return []
      | some violation =>
        return [ContextRule.report (.element place) rule.severity violation]) =
      Except.ok found := by
  cases own : rule.failure registry (.element place) with
  | error fault => simp [own, ContextRule.reports] at returned
  | ok outcome =>
    rw [failure_of_ok shallow rounds rule own, ok_bind]
    cases outcome <;> simpa [own, ContextRule.reports] using returned

mutual

/-- The diagnostics of a rule are found where the check returns. -/
theorem checkRule_of_ok (shallow : registry.Shallow) (rounds : Nat) {found : List Diagnostic} :
    (rule : ContextRule) → rule.check registry (.element place) = .ok found →
    checkRule registry.table (rounds + 3) place rule = .ok found
  | .require requirement severity, returned => by
    rw [ContextRule.check] at returned
    rw [checkRule]
    · refine report_of_ok shallow rounds ?_
      rw [ContextRule.failure]
      exact returned
    · simp
  | .anyOf rules severity, returned => by
    rw [ContextRule.check] at returned
    rw [checkRule]
    · exact report_of_ok shallow rounds returned
    · simp
  | .byAttribute branches otherwise, returned => by
    rw [ContextRule.check] at returned
    rw [checkRule]
    exact checkBranches_of_ok shallow rounds
      (fun _ => checkRules_of_ok shallow rounds otherwise) branches returned

/-- The diagnostics of some rules are found where the check returns. -/
theorem checkRules_of_ok (shallow : registry.Shallow) (rounds : Nat) {found : List Diagnostic} :
    (rules : List ContextRule) →
    ContextRule.checkAll registry (.element place) rules = .ok found →
    checkRules registry.table (rounds + 3) place rules = .ok found
  | [], returned => by
    rw [ContextRule.checkAll, Except.ok.injEq] at returned
    rw [checkRules, pure_eq_ok, returned]
  | rule :: rest, returned => by
    rw [ContextRule.checkAll] at returned
    rw [checkRules]
    cases own : rule.check registry (.element place) with
    | error fault => simp [own] at returned
    | ok first =>
      cases others : ContextRule.checkAll registry (.element place) rest with
      | error fault => simp [own, others] at returned
      | ok more =>
        simp only [own, others, Except.ok.injEq] at returned
        simp only [checkRule_of_ok shallow rounds rule own,
          checkRules_of_ok shallow rounds rest others, ok_bind, pure_eq_ok, returned]

/-- The diagnostics of the branch chosen by the attributes are found where the check returns. -/
theorem checkBranches_of_ok (shallow : registry.Shallow) (rounds : Nat) {found : List Diagnostic}
    {otherwise : Except RuleFault (List Diagnostic)} {strict : Except Miss (List Diagnostic)}
    (same : ∀ found, otherwise = .ok found → strict = .ok found) :
    (branches : List (AttributeTest × List ContextRule)) →
    ContextRule.checkBranches registry (.element place) otherwise branches = .ok found →
    checkBranches registry.table (rounds + 3) place strict branches = .ok found
  | [], returned => by
    rw [ContextRule.checkBranches] at returned
    rw [checkBranches]
    exact same _ returned
  | (test, rules) :: rest, returned => by
    simp only [ContextRule.checkBranches, Subject.attributes?] at returned
    rw [checkBranches]
    split at returned
    · next holds => exact (if_pos holds).trans (checkRules_of_ok shallow rounds rules returned)
    · next fails =>
      exact (if_neg fails).trans (checkBranches_of_ok shallow rounds same rest returned)

end

/-! ## Validation -/

/-- The findings about an element are found where its checks return. -/
theorem checkPlace_of_ok (shallow : registry.Shallow) (rounds : Nat) {found : List Diagnostic}
    (returned : registry.checkPlace place = .ok found) :
    checkPlace registry.table (rounds + 3) place = .ok found := by
  obtain ⟨context, content, contextReturned, contentReturned, rfl⟩ :=
    Registry.checkPlace_eq_ok_iff.mp returned
  rw [checkPlace, entry_table, ok_bind,
    checkRules_of_ok shallow rounds _ contextReturned, ok_bind]
  rw [RuleEntry.checkContent] at contentReturned
  cases inForce : (registry.entry place.tag).content with
  | none =>
    simp only [inForce, Except.ok.injEq] at contentReturned
    simp [← contentReturned]
  | some model =>
    simp only [inForce] at contentReturned
    simp [check_of_ok shallow (shallow _ model inForce) contentReturned rounds]

/-- The findings about a tree are found where validation returns. -/
theorem validate_of_ok (shallow : registry.Shallow) (rounds : Nat) {tree : Tree}
    {found : List Diagnostic} (returned : registry.validate tree = .ok found) :
    validate registry.table (rounds + 3) tree = .ok found := by
  rw [Registry.validate] at returned
  cases outcome : gather registry.checkPlace tree.visited with
  | error fault => simp [outcome] at returned
  | ok findings =>
    obtain ⟨findingsAt, checked, joined⟩ := gather_eq_ok_iff.mp outcome
    have strict : gather (checkPlace registry.table (rounds + 3)) tree.visited = .ok findings :=
      gather_eq_ok_iff.mpr
        ⟨findingsAt, fun place visited => checkPlace_of_ok shallow rounds (checked place visited),
          joined⟩
    simp only [outcome, Except.ok.injEq] at returned
    rw [validate, strict, ok_bind, pure_eq_ok, returned]

end Strict

/-- Validation under the built-in rules never fails: for every document and every element on its own
it returns a list of findings. It does so too when nothing is taken for granted. The strict checks
find every entry, parent, element child, failure and condition they ask for, and every delegation
has ended after three rounds, so that further rounds change nothing. -/
theorem validation_never_misses (tree : Tree) :
    ∃ findings, Registry.builtin.validate tree = .ok findings ∧
      ∀ rounds, Strict.validate Registry.builtin.table (rounds + 3) tree = .ok findings := by
  obtain ⟨findings, returned⟩ := Registry.builtin_validate_returns tree
  refine ⟨findings, returned, fun rounds => ?_⟩
  exact Strict.validate_of_ok Registry.builtin_shallow rounds returned

end HtmlNesting
