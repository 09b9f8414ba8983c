import HtmlNesting.Proofs.Exclusions
import HtmlNesting.Proofs.Structure

/-!
# Errors and warnings

A finding has the severity of what it comes from: of a context rule, of a model, or of an exclusion.
The built-in rules give an error to the page and its parts only. But a severity travels with the
model it belongs to. A transparent element hands its children on to the nearest element around it
that is not transparent, and what that one's model finds about them has its severity. So the check
of an insertion directly inside the page reports errors.

The findings of a content check are therefore divided: `Registry.ownFindings` come from the model of
the element, `Registry.handedOn` from the model that its children are handed on to.
-/

namespace HtmlNesting

/-! ## What is handed on -/

namespace Registry

variable {registry : Registry} {place : Place}

/-- Whether an element hands its children on to the model around it. -/
def handsOn (registry : Registry) (place : Place) : Bool :=
  match (registry.content? place.tag).map (ContentModel.select place.attributes) with
  | some (.transparent _) => true
  | _ => false

/-- What the model of an element finds itself. A transparent one reports what it forbids and scans
for what it excludes. -/
def ownFindings (registry : Registry) (place : Place) : List Diagnostic :=
  match (registry.content? place.tag).map (ContentModel.resolve place.attributes) with
  | none => []
  | some (.plain model) => model.check place
  | some (.transparent handing) =>
    handing.forbiddenReports place.start place.children ++ scanFor handing.exclude place

/-- What is found about the children that an element hands on. -/
def handedOn (registry : Registry) (place : Place) : Except RuleFault (List Diagnostic) :=
  match (registry.content? place.tag).map (ContentModel.resolve place.attributes) with
  | some (.transparent handing) => checkDelegated registry place (handing.visible place.children)
  | _ => .ok []

/-- The findings about the content of an element are its own and those about children handed on. -/
theorem checkContent_parts {content : List Diagnostic}
    (returned : (registry.entry place.tag).checkContent registry (.element place) = .ok content) :
    ∃ handed, registry.handedOn place = .ok handed ∧
      content.Perm (registry.ownFindings place ++ handed) := by
  rw [RuleEntry.checkContent, ← content?] at returned
  rw [handedOn, ownFindings]
  cases inForce : registry.content? place.tag with
  | none =>
    simp only [inForce, Except.ok.injEq] at returned
    exact ⟨[], rfl, by simp [← returned]⟩
  | some model =>
    simp only [inForce, ContentModel.check] at returned
    simp only [Option.map_some]
    cases resolved : model.resolve place.attributes with
    | plain plain =>
      simp only [resolved, Except.ok.injEq] at returned
      exact ⟨[], rfl, by simp [← returned]⟩
    | transparent handing =>
      simp only [resolved] at returned
      cases outcome : checkDelegated registry place (handing.visible place.children) with
      | error fault => simp [outcome] at returned
      | ok handed =>
        simp only [outcome, Except.ok.injEq] at returned
        refine ⟨handed, outcome, ?_⟩
        rw [← returned, List.append_assoc, List.append_assoc]
        exact List.perm_append_comm.append_left _

end Registry

/-- The model that children are handed on to is that of the nearest element that does not hand them
on, and flow content if there is none. -/
theorem effectiveAmong_eq_find? (registry : Registry) (ancestors : List Place) :
    effectiveAmong registry ancestors =
      match ancestors.find? fun ancestor => !registry.handsOn ancestor with
      | none => some .flowContent
      | some outer => (registry.content? outer.tag).map (ContentModel.select outer.attributes) := by
  induction ancestors with
  | nil => rfl
  | cons ancestor rest ih =>
    rw [effectiveAmong, List.find?_cons, Registry.handsOn]
    cases inForce : registry.content? ancestor.tag with
    | none => simp [inForce]
    | some model =>
      cases selected : model.select ancestor.attributes with
      | plain plain => simp [inForce, selected]
      | transparent handing => simpa [selected] using ih
      | whenAttribute name present absent => simp [inForce, selected]

/-! ## The severity of a finding -/

/-- The scan for excluded descendants reports with the severity of the exclusion. -/
theorem severity_of_mem_scanFor {exclusion : Option Exclusion} {place : Place}
    {finding : Diagnostic} (member : finding ∈ scanFor exclusion place) :
    ∃ own, exclusion = some own ∧ finding.severity = own.severity := by
  cases exclusion with
  | none => simp [scanFor] at member
  | some own =>
    obtain ⟨descendant, _, rfl⟩ := List.mem_map.mp member
    exact ⟨own, rfl, rfl⟩

/-! ## The built-in rules -/

/-- The page and its parts. -/
def Tag.page : List Tag := [.html, .head, .body]

/-- The elements whose children must fit where the element itself stands. -/
def Tag.transparent : List Tag := [.a, .ins, .del, .map, .object, .video, .audio]

/-- The element whose model the children of a transparent element are handed on to: the nearest
one around it that is not transparent. -/
def Place.host? (place : Place) : Option Place :=
  place.ancestors.find? fun ancestor => !Tag.transparent.contains ancestor.tag

/-- An error on a condition, else a warning. -/
def Severity.errorIf (condition : Prop) [Decidable condition] : Severity :=
  if condition then .error else .warn

namespace Registry

variable {place : Place} {tag : Tag} {model : ContentModel}

/-- The context rules of the page and its parts report errors, all others warnings. -/
theorem builtin_source_severity {source : Requirement × Severity}
    (listed : source ∈ ContextRule.sourcesOfRules (Registry.builtin.entry tag).contexts) :
    source.2 = .errorIf (tag ∈ Tag.page) := by
  have evaluated : ∀ item ∈ Rulebook.entries.zip Rulebook.tags,
      ∀ source ∈ ContextRule.sourcesOfRules item.1.contexts,
        source.2 = .errorIf (item.2 ∈ Tag.page) := by
    decide
  rcases builtin_entry_cases tag with ⟨member, same⟩ | permissive
  · have own := evaluated _ (Rulebook.mem_zip_tags member) source listed
    rwa [same] at own
  · rw [permissive] at listed
    simp [RuleEntry.permissive, RuleEntry.of, ContextRule.sourcesOfRules] at listed

/-- The model of the page reports errors, all others warnings. Attributes never decide whether an
element is transparent. -/
theorem builtin_models (inForce : Registry.builtin.content? tag = some model) :
    (∀ plain ∈ model.plains, plain.severity = .errorIf (tag = .html) ∧ tag ∉ Tag.transparent) ∧
      ∀ handing ∈ model.transparents, handing.severity = .warn ∧ tag ∈ Tag.transparent := by
  have evaluated : ∀ item ∈ Rulebook.entries.zip Rulebook.tags, ∀ model ∈ item.1.content.toList,
      (∀ plain ∈ model.plains,
        plain.severity = .errorIf (item.2 = .html) ∧ item.2 ∉ Tag.transparent) ∧
      ∀ handing ∈ model.transparents, handing.severity = .warn ∧ item.2 ∈ Tag.transparent := by
    decide
  obtain ⟨entry, member, rfl, content⟩ := mem_of_builtin_content inForce
  exact evaluated _ (Rulebook.mem_zip_tags member) model (by simp [content])

/-- Every transparent element has a model. -/
theorem builtin_content_of_transparent (isTransparent : tag ∈ Tag.transparent) :
    ∃ model, Registry.builtin.content? tag = some model := by
  have evaluated : ∀ tag ∈ Tag.transparent, ∃ item ∈ Rulebook.entries.zip Rulebook.tags,
      item.2 = tag ∧ item.1.content.isSome = true := by
    decide
  obtain ⟨⟨entry, _⟩, paired, rfl, constrained⟩ := evaluated tag isTransparent
  rw [← Rulebook.entries_tag, ← List.map_prod_left_eq_zip] at paired
  obtain ⟨other, member, same⟩ := List.mem_map.mp paired
  obtain ⟨rfl, rfl⟩ := Prod.mk.inj same
  rw [builtin_content_of_mem member]
  exact Option.isSome_iff_exists.mp constrained

/-- Under the built-in rules exactly the transparent elements hand their children on. -/
theorem builtin_handsOn (place : Place) :
    Registry.builtin.handsOn place = Tag.transparent.contains place.tag := by
  rw [handsOn]
  cases inForce : Registry.builtin.content? place.tag with
  | none =>
    have plain : place.tag ∉ Tag.transparent := by
      intro isTransparent
      obtain ⟨model, constrained⟩ := builtin_content_of_transparent isTransparent
      simp [inForce] at constrained
    simp [plain]
  | some model =>
    obtain ⟨plains, transparents⟩ := builtin_models inForce
    have resolved := model.resolve_select place.attributes
    have settled := ContentModel.isOpen_select place.attributes (builtin_shallow _ _ inForce)
    cases selected : model.select place.attributes with
    | plain plain =>
      rw [selected, ContentModel.resolve] at resolved
      have outside := (plains plain (ContentModel.mem_plains_of_resolve resolved.symm)).2
      simp [selected, outside]
    | transparent handing =>
      rw [selected, ContentModel.resolve] at resolved
      have inside :=
        (transparents handing (ContentModel.mem_transparents_of_resolve resolved.symm)).2
      simp [selected, inside]
    | whenAttribute name present absent => simp [selected, ContentModel.isOpen] at settled

/-- A transparent element inside the page hands its children on to a model that reports errors, any
other to one that warns. -/
theorem builtin_delegate_severity {plain : PlainModel}
    (delegated : delegate Registry.builtin place = .ok (some plain)) :
    plain.severity = .errorIf (place.host?.map Place.tag = some .html) := by
  rw [delegate, effectiveModel] at delegated
  cases effective : effectiveAmong Registry.builtin (Subject.element place).ancestors with
  | none => simp [effective] at delegated
  | some found =>
    obtain ⟨own, rfl⟩ := effectiveAmong_plain builtin_shallow effective
    simp only [effective, ContentModel.resolve, Except.ok.injEq, Option.some.injEq] at delegated
    obtain rfl := delegated
    simp only [effectiveAmong_eq_find?, builtin_handsOn, Subject.ancestors] at effective
    rw [Place.host?]
    cases nearest : place.ancestors.find? fun ancestor =>
        !Tag.transparent.contains ancestor.tag with
    | none =>
      simp only [nearest, Option.some.injEq, ContentModel.flowContent, ContentModel.ofCategory,
        ContentModel.plain.injEq] at effective
      simp [← effective, PlainModel.severity, Severity.errorIf]
    | some outer =>
      simp only [nearest] at effective
      obtain ⟨model, inForce, selected⟩ := Option.map_eq_some_iff.mp effective
      have resolved : model.resolve outer.attributes = .plain own := by
        rw [← model.resolve_select, selected, ContentModel.resolve]
      have severity :=
        ((builtin_models inForce).1 own (ContentModel.mem_plains_of_resolve resolved)).1
      simpa using severity

/-- The context checks of the page and its parts report errors, all others warnings. -/
theorem builtin_context_severity {context : List Diagnostic} {finding : Diagnostic}
    (returned : (Registry.builtin.entry place.tag).checkContext Registry.builtin
      (.element place) = .ok context) (member : finding ∈ context) :
    finding.severity = .errorIf (place.tag ∈ Tag.page) := by
  obtain ⟨source, listed, violation, _, rfl⟩ :=
    ContextRule.source_of_mem_checkAll _ returned member
  exact builtin_source_severity listed

/-- The model of the page is its grammar. -/
theorem builtin_content_html :
    Registry.builtin.content? .html = some (.plain (.ordered Rulebook.pageParts)) := by
  rw [content?, builtin_entry_page.1]
  rfl

/-- What the model of the page finds itself are errors, what any other finds are warnings. -/
theorem builtin_own_severity {finding : Diagnostic}
    (member : finding ∈ Registry.builtin.ownFindings place) :
    finding.severity = .errorIf (place.tag = .html) := by
  rw [ownFindings] at member
  cases inForce : Registry.builtin.content? place.tag with
  | none => simp [inForce] at member
  | some model =>
    obtain ⟨plains, transparents⟩ := builtin_models inForce
    have excluded : ∀ {exclusion}, (model.resolve place.attributes).exclusion? = some exclusion →
        exclusion.severity = .errorIf (place.tag = .html) := by
      intro exclusion carried
      have notPage : place.tag ≠ .html := by
        intro isPage
        rw [isPage, builtin_content_html, Option.some.injEq] at inForce
        simp [← inForce, ContentModel.resolve, Resolved.exclusion?] at carried
      rw [Severity.errorIf, if_neg notPage]
      have constrained : Registry.builtin.content? place.start.tag = some model := inForce
      have own : Registry.builtin.exclusion? place.start = some exclusion := by
        rw [exclusion?, constrained]
        exact carried
      exact builtin_exclusion_warn own
    simp only [inForce, Option.map_some] at member
    cases resolved : model.resolve place.attributes with
    | plain plain =>
      simp only [resolved, plain.check_eq_append, List.mem_append] at member excluded
      rcases member with near | far
      · rw [plain.severity_of_mem_checkChildren near]
        exact (plains plain (ContentModel.mem_plains_of_resolve resolved)).1
      · obtain ⟨exclusion, carried, same⟩ := severity_of_mem_scanFor far
        rw [same]
        exact excluded carried
    | transparent handing =>
      obtain ⟨warns, isTransparent⟩ :=
        transparents handing (ContentModel.mem_transparents_of_resolve resolved)
      simp only [resolved, List.mem_append] at member excluded
      rcases member with forbidden | far
      · have notPage : place.tag ≠ .html := by
          rintro isPage
          simp [isPage, Tag.transparent] at isTransparent
        obtain ⟨child, _, rfl⟩ := List.mem_map.mp forbidden
        rw [Severity.errorIf, if_neg notPage]
        exact warns
      · obtain ⟨exclusion, carried, same⟩ := severity_of_mem_scanFor far
        rw [same]
        exact excluded carried

/-- What is found about children handed on are errors if they are handed on to the page, else
warnings. -/
theorem builtin_handed_severity {handed : List Diagnostic} {finding : Diagnostic}
    (returned : Registry.builtin.handedOn place = .ok handed) (member : finding ∈ handed) :
    finding.severity = .errorIf (place.host?.map Place.tag = some .html) := by
  rw [handedOn] at returned
  split at returned
  · obtain ⟨plain, delegated, found⟩ := mem_delegate_of_mem_checkDelegated returned member
    rw [plain.severity_of_mem_checkChildren found]
    exact builtin_delegate_severity delegated
  · cases returned
    simp at member

/-- An element that is not transparent hands nothing on. -/
theorem builtin_handedOn_of_not_mem (notTransparent : place.tag ∉ Tag.transparent) :
    Registry.builtin.handedOn place = .ok [] := by
  rw [handedOn]
  cases inForce : Registry.builtin.content? place.tag with
  | none => rfl
  | some model =>
    cases resolved : model.resolve place.attributes with
    | plain plain => simp [resolved]
    | transparent handing =>
      have choice := ContentModel.mem_transparents_of_resolve resolved
      exact absurd ((builtin_models inForce).2 handing choice).2 notTransparent

end Registry

/-- Severity tells document structure from the rest. The findings about a tree are those of the
context checks, those of the models of its elements, and those about children that transparent
elements hand on. Errors are all findings of the context checks of the page and its parts, all
findings of the model of the page, and all findings about children that are handed on to the page.
All others are warnings. -/
theorem severity_by_origin (tree : Tree) :
    ∃ findings, ∃ context handed : Place → List Diagnostic,
      Registry.builtin.validate tree = .ok findings ∧
      findings.Perm (tree.places.flatMap fun place =>
        context place ++ (Registry.builtin.ownFindings place ++ handed place)) ∧
      ∀ place : Place,
        (Registry.builtin.entry place.tag).checkContext Registry.builtin (.element place) =
          .ok (context place) ∧
        (∃ content,
          (Registry.builtin.entry place.tag).checkContent Registry.builtin (.element place) =
            .ok content ∧
          content.Perm (Registry.builtin.ownFindings place ++ handed place)) ∧
        Registry.builtin.handedOn place = .ok (handed place) ∧
        (place.tag ∉ Tag.transparent → handed place = []) ∧
        (∀ finding ∈ context place, finding.severity = .errorIf (place.tag ∈ Tag.page)) ∧
        (∀ finding ∈ Registry.builtin.ownFindings place,
          finding.severity = .errorIf (place.tag = .html)) ∧
        ∀ finding ∈ handed place,
          finding.severity = .errorIf (place.host?.map Place.tag = some .html) := by
  obtain ⟨context, content, contextReturned, contentReturned, validated⟩ :=
    Registry.builtin_findings
  obtain ⟨findings, returned, sorted⟩ := validated tree
  obtain ⟨handed, divided⟩ := Classical.skolem.mp fun place : Place =>
    Registry.checkContent_parts (contentReturned place)
  refine ⟨findings, context, handed, returned, ?_, fun place => ⟨contextReturned place,
    ⟨content place, contentReturned place, (divided place).2⟩, (divided place).1, ?_, ?_, ?_, ?_⟩⟩
  · refine sorted.perm.trans (List.Perm.flatMap_left _ ?_)
    intro place _
    exact (divided place).2.append_left _
  · intro notTransparent
    have nothing := Registry.builtin_handedOn_of_not_mem notTransparent
    exact Except.ok.inj ((divided place).1.symm.trans nothing)
  · intro finding member
    exact Registry.builtin_context_severity (contextReturned place) member
  · intro finding member
    exact Registry.builtin_own_severity member
  · intro finding member
    exact Registry.builtin_handed_severity (divided place).1 member

/-- A page that holds nothing but an insertion. -/
def pageWithInsertion : Place where
  start := .named "html"
  before := []
  after := []
  children := [.element (.named "ins" [] { line := 2 }) [.text "word" { line := 3 }]]
  above := []

/-- The insertion in that page, with a word in it. -/
def insertedWord : Place where
  start := .named "ins" [] { line := 2 }
  before := []
  after := []
  children := [.text "word" { line := 3 }]
  above := [pageWithInsertion.toLevel]

/-- The page with its insertion as a tree. -/
def insertionInPage : Tree :=
  .detached pageWithInsertion.start pageWithInsertion.children

/-- The report that the insertion lacks the parts of a page. -/
def insertionWithoutParts : Diagnostic :=
  .atElement .missingRequired insertedWord.start "<ins> is missing required <head>, <body>" .error

theorem pageWithInsertion_content : Registry.builtin.content? pageWithInsertion.tag =
    some (.plain (.ordered Rulebook.pageParts)) := by
  have isPage : pageWithInsertion.tag = .html := by decide
  rw [isPage, Registry.builtin_content_html]

/-- The insertion is checked by the grammar of the page. -/
theorem insertedWord_checkContent :
    (Registry.builtin.entry insertedWord.tag).checkContent Registry.builtin
        (.element insertedWord) =
      .ok ((PlainModel.ordered Rulebook.pageParts).checkChildren insertedWord.start
        insertedWord.children) := by
  have isWrapper : insertedWord.tag ∈ Tag.wrappers := by decide
  have around : insertedWord.ancestors = [pageWithInsertion] := rfl
  refine Registry.checkContent_of_transparent (Registry.builtin_content_of_wrapper isWrapper) ?_
  rw [around]
  exact effectiveAmong_of_plain pageWithInsertion_content rfl

/-- Not every error comes from the context check of the page or one of its parts, or from the
content check of the page. -/
theorem insertionInPage_errors :
    ∃ findings, ∃ finding ∈ findings,
      Registry.builtin.validate insertionInPage = .ok findings ∧ finding.severity = .error ∧
      ∀ place, insertionInPage.Holds place →
        (∀ context,
          (Registry.builtin.entry place.tag).checkContext Registry.builtin (.element place) =
            .ok context → finding ∈ context → place.tag ∉ Tag.page) ∧
        ∀ content,
          (Registry.builtin.entry place.tag).checkContent Registry.builtin (.element place) =
            .ok content → finding ∈ content → place.tag ≠ .html := by
  have places : insertionInPage.places = [pageWithInsertion, insertedWord] := rfl
  obtain ⟨context, content, _, contentReturned, validated⟩ := Registry.builtin_findings
  obtain ⟨findings, returned, sorted⟩ := validated insertionInPage
  refine ⟨findings, insertionWithoutParts, ?_, returned, rfl, ?_⟩
  · rw [sorted.perm.mem_iff, places, List.mem_flatMap]
    refine ⟨insertedWord, by simp, List.mem_append_right _ ?_⟩
    rw [Except.ok.inj ((contentReturned insertedWord).symm.trans insertedWord_checkContent)]
    decide +kernel
  · intro place held
    rw [← Tree.mem_visited, Tree.visited_eq_places, places] at held
    simp only [List.mem_cons, List.not_mem_nil, or_false] at held
    rcases held with rfl | rfl
    · constructor
      · intro found contextReturned member
        -- The context check of the page reports under the name of the page.
        obtain ⟨source, _, violation, _, same⟩ :=
          ContextRule.source_of_mem_checkAll _ contextReturned member
        have sameName : insertionWithoutParts.tag = pageWithInsertion.start.name :=
          congrArg Diagnostic.tag same
        exact absurd sameName (by decide)
      · intro found pageReturned member
        rw [Registry.checkContent_of_ordered pageWithInsertion_content] at pageReturned
        cases pageReturned
        exact absurd member (by decide)
    · have notPage : insertedWord.tag ∉ Tag.page := by decide
      have notHtml : insertedWord.tag ≠ .html := by decide
      exact ⟨fun _ _ _ => notPage, fun _ _ _ => notHtml⟩

end HtmlNesting
