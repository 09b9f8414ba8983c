import HtmlNesting.Proofs.Discovery
import HtmlNesting.Proofs.DocumentOrder
import HtmlNesting.Proofs.Reports

/-!
# Transparent wrappers

Children may be put into transparent elements without changing what is found about them. A chain of
wrappers, each the only child of the one before, hands the children inside the last one up to the
element around the first (`effectiveAmong_innermost`, by induction on the chain). A membership model
without quotas judges every child by itself (`Members.checkFrom_of_unlimited`), so it may see the
children all at once or in portions. Only the messages differ, since they name the element that the
children are in.
-/

namespace HtmlNesting

/-- What a finding says apart from its words: code, severity, position and the name of the node. -/
def Diagnostic.gist (diagnostic : Diagnostic) : String × Severity × Position × String :=
  (diagnostic.code, diagnostic.severity, diagnostic.position, diagnostic.tag)

/-! ## Chains of elements -/

/-- Some nodes inside a chain of elements, each the only child of the one before. -/
def wrapped : List StartTag → List Node → List Node
  | [], inside => inside
  | outer :: chain, inside => [.element outer (wrapped chain inside)]

namespace Place

/-- An element that is all that another one holds. -/
def onlyChild (outer : Place) (start : StartTag) (children : List Node) : Place :=
  { start, before := [], after := [], children, above := outer.levels }

/-- The last element of a chain that begins with some element and goes on inside it. -/
def innermost (inside : List Node) (outer : Place) : List StartTag → Place
  | [] => outer
  | next :: chain => innermost inside (outer.onlyChild next (wrapped chain inside)) chain

theorem onlyChild_mem_elementChildren {outer : Place} {start : StartTag} {children : List Node}
    (alone : outer.children = [.element start children]) :
    outer.onlyChild start children ∈ outer.elementChildren := by
  rw [elementChildren, alone, siblingPlaces, siblingPlaces]
  exact List.mem_singleton.mpr rfl

variable {inside : List Node} {chain : List StartTag}

/-- The last element of a chain is the first one or inside it. -/
theorem innermost_mem (outer : Place) (children : outer.children = wrapped chain inside) :
    outer.innermost inside chain ∈ outer :: outer.descendants := by
  induction chain generalizing outer with
  | nil => simp [innermost]
  | cons next chain ih =>
    have isChild := onlyChild_mem_elementChildren children
    have further := ih (outer.onlyChild next (wrapped chain inside)) rfl
    rw [List.mem_cons] at further ⊢
    right
    rcases further with same | inner
    · rw [innermost, same]
      exact mem_descendants_of_child isChild
    · exact mem_descendants_trans isChild inner

/-- The last element of a chain holds what is inside the chain. -/
theorem innermost_children (outer : Place) (children : outer.children = wrapped chain inside) :
    (outer.innermost inside chain).children = inside := by
  induction chain generalizing outer with
  | nil => exact children
  | cons next chain ih => exact ih _ rfl

/-- The last element of a chain has the last start tag. -/
theorem innermost_start (outer : Place) :
    (outer.innermost inside chain).start = chain.getLastD outer.start := by
  induction chain generalizing outer with
  | nil => rfl
  | cons next chain ih =>
    rw [innermost, ih, List.getLastD_cons]
    rfl

end Place

/-- An element with a plain model has the say over what is handed up to it. -/
theorem effectiveAmong_of_plain {registry : Registry} {place : Place} {further : List Place}
    {model : ContentModel} {plain : PlainModel}
    (registered : registry.content? place.tag = some model)
    (selected : model.select place.attributes = .plain plain) :
    effectiveAmong registry (place :: further) = some (.plain plain) := by
  simp only [effectiveAmong, registered, selected]

/-- What the last of some transparent elements, each the only child of the one before, delegates to
is what the first one delegates to. -/
theorem effectiveAmong_innermost (registry : Registry) {inside : List Node} {outer : Place}
    {chain : List StartTag} (children : outer.children = wrapped chain inside)
    (transparent : ∀ start ∈ outer.start :: chain,
      ∃ handing, registry.content? start.tag = some (.transparent handing)) :
    effectiveAmong registry (outer.innermost inside chain).ancestors =
      effectiveAmong registry outer.ancestors := by
  induction chain generalizing outer with
  | nil => rfl
  | cons next chain ih =>
    have isChild := Place.onlyChild_mem_elementChildren children
    obtain ⟨handing, handsOn⟩ := transparent outer.start (by simp)
    -- On the way up from the rest of the chain the first element is passed by as transparent.
    have further : ∀ start ∈ next :: chain,
        ∃ handing, registry.content? start.tag = some (.transparent handing) :=
      fun start member => transparent start (List.mem_cons_of_mem _ member)
    rw [Place.innermost, ih rfl further, Place.ancestors_of_mem_elementChildren isChild,
      effectiveAmong, Place.tag, handsOn]
    rfl

/-- Children of an element some of which are put into a chain of elements. -/
structure Wrapping where
  before : List Node
  outer : StartTag
  chain : List StartTag
  inside : List Node
  after : List Node

namespace Wrapping

/-- An element with the chain among its children. -/
def around (wrapping : Wrapping) (place : Place) : Place :=
  { place with
    children := wrapping.before ++ wrapped (wrapping.outer :: wrapping.chain) wrapping.inside ++
      wrapping.after }

/-- The first element of the chain. -/
def first (wrapping : Wrapping) (place : Place) : Place :=
  { start := wrapping.outer, before := wrapping.before, after := wrapping.after
    children := wrapped wrapping.chain wrapping.inside, above := place.levels }

/-- The last element of the chain. -/
def last (wrapping : Wrapping) (place : Place) : Place :=
  (wrapping.first place).innermost wrapping.inside wrapping.chain

variable (wrapping : Wrapping) (place : Place)

theorem first_mem_elementChildren :
    wrapping.first place ∈ (wrapping.around place).elementChildren := by
  refine Place.mem_siblingPlaces.mpr ⟨wrapping.before.length, ?_, ?_, ?_, rfl⟩
  · simp [around, wrapped, first, Place.node]
  · simp [around, first]
  · simp [around, wrapped, first]

/-- The last element of the chain is inside the element. -/
theorem last_mem : wrapping.last place ∈ (wrapping.around place).descendants := by
  have isChild := wrapping.first_mem_elementChildren place
  rcases List.mem_cons.mp (Place.innermost_mem (wrapping.first place) rfl) with
    same | inner
  · rw [last, same]
    exact Place.mem_descendants_of_child isChild
  · exact Place.mem_descendants_trans isChild inner

theorem last_start : (wrapping.last place).start = wrapping.chain.getLastD wrapping.outer :=
  Place.innermost_start _

theorem last_children : (wrapping.last place).children = wrapping.inside :=
  Place.innermost_children _ rfl

/-- The last element of a transparent chain delegates to the element around the chain or further
up. -/
theorem effectiveAmong_last (registry : Registry)
    (transparent : ∀ start ∈ wrapping.outer :: wrapping.chain,
      ∃ handing, registry.content? start.tag = some (.transparent handing)) :
    effectiveAmong registry (wrapping.last place).ancestors =
      effectiveAmong registry (wrapping.around place :: (wrapping.around place).ancestors) := by
  rw [last, effectiveAmong_innermost registry rfl transparent,
    Place.ancestors_of_mem_elementChildren (wrapping.first_mem_elementChildren place)]

end Wrapping

/-! ## Membership models without quotas -/

namespace Members

/-- Without quotas every child is judged by itself. -/
theorem checkFrom_of_unlimited {members : Members} (unlimited : members.limits.entries = [])
    (parent : StartTag) (seen : List Tag) (children : List Node) :
    members.checkFrom parent seen children =
      (children.filter members.rejects).map (members.notAllowed parent) := by
  have noQuota : ∀ child, members.limit? child = none := by
    intro child
    rw [limit?]
    cases child.tag? with
    | none => rfl
    | some tag => simp [Quotas.get?, unlimited, Dictionary.get?]
  induction children with
  | nil => rfl
  | cons child rest ih =>
    rw [checkFrom, noQuota, ih]
    cases skipped : members.skips child
    · cases allowed : members.allows child
      · simp [rejects, skipped, allowed]
      · simp [rejects, skipped, allowed]
    · simp [rejects, skipped]

/-- Without quotas the findings, words apart, depend on the children alone and are found in
portions. -/
theorem gist_checkChildren {members : Members} (unlimited : members.limits.entries = [])
    (parent : StartTag) (children : List Node) :
    (members.checkChildren parent children).map Diagnostic.gist =
      (children.filter members.rejects).map fun child =>
        (Code.notAllowed.name, members.severity, child.position, child.name) := by
  rw [checkChildren, checkFrom_of_unlimited unlimited, List.map_map]
  rfl

end Members

/-! ## Wrappers under the built-in rules -/

/-- The elements that hand on all their children and add no rule of their own. -/
def Tag.wrappers : List Tag := [.ins, .del, .map]

namespace Registry

/-- An element that hands on all its children is checked by the plain model it delegates to. -/
theorem checkContent_of_transparent {registry : Registry} {place : Place} {plain : PlainModel}
    (content : registry.content? place.tag = some (.transparent {}))
    (effective : effectiveAmong registry place.ancestors = some (.plain plain)) :
    (registry.entry place.tag).checkContent registry (.element place) =
      .ok (plain.checkChildren place.start place.children) := by
  have visible : ({} : Transparent).visible place.children = place.children := by
    rw [Transparent.visible, List.filter_eq_self]
    intro child _
    cases child <;> rfl
  have forbidden : ({} : Transparent).forbiddenReports place.start place.children = [] := by
    rw [Transparent.forbiddenReports, List.map_eq_nil_iff, List.filter_eq_nil_iff]
    intro child _
    cases child <;> simp [Transparent.isAmong, Node.tag?, Node.start?]
  have delegated : delegate registry place = .ok (some plain) := by
    simp only [delegate, effectiveModel, Subject.ancestors, effective, ContentModel.resolve]
  rw [content?] at content
  simp only [RuleEntry.checkContent, content, ContentModel.check, ContentModel.resolve, visible,
    checkDelegated, delegated, forbidden, scanFor, List.nil_append, List.append_nil]

/-- The built-in model of a wrapper. -/
theorem builtin_content_of_wrapper {tag : Tag} (isWrapper : tag ∈ Tag.wrappers) :
    Registry.builtin.content? tag = some (.transparent {}) := by
  have listed : Rulebook.phrasingElement tag (.transparent {}) ∈ Rulebook.entries := by
    rw [Tag.wrappers] at isWrapper
    simp only [List.mem_cons, List.not_mem_nil, or_false] at isWrapper
    rcases isWrapper with rfl | rfl | rfl
    · simp [Rulebook.entries, Rulebook.ruleSets, RuleSet.entries, Rulebook.edits]
    · simp [Rulebook.entries, Rulebook.ruleSets, RuleSet.entries, Rulebook.edits]
    · simp [Rulebook.entries, Rulebook.ruleSets, RuleSet.entries, Rulebook.embedded]
  have inForce := builtin_content_of_mem listed
  rw [Rulebook.phrasingElement, RuleEntry.tag_of] at inForce
  exact inForce

end Registry

/-- Transparent wrapping is faithful. Let a membership model without quotas be in force at an
element, and let some of its children be put into a chain of wrappers, however long. The findings
about all children, words apart, are then those about the children before the chain, the content
check of the last wrapper, and those about the children after the chain. -/
theorem wrapping_faithful {place : Place} {model : ContentModel} {members : Members}
    (registered : Registry.builtin.content? place.tag = some model)
    (selected : model.select place.attributes = .plain (.members members))
    (unlimited : members.limits.entries = []) (wrapping : Wrapping)
    (wrappers : ∀ start ∈ wrapping.outer :: wrapping.chain, start.tag ∈ Tag.wrappers) :
    (wrapping.last place ∈ (wrapping.around place).descendants ∧
      (wrapping.last place).start = wrapping.chain.getLastD wrapping.outer ∧
      (wrapping.last place).children = wrapping.inside) ∧
    ∃ found,
      (Registry.builtin.entry (wrapping.last place).tag).checkContent Registry.builtin
        (.element (wrapping.last place)) = .ok found ∧
      (members.checkChildren place.start
          (wrapping.before ++ wrapping.inside ++ wrapping.after)).map Diagnostic.gist =
        (members.checkChildren place.start wrapping.before).map Diagnostic.gist ++
          found.map Diagnostic.gist ++
          (members.checkChildren place.start wrapping.after).map Diagnostic.gist := by
  have lastTag : (wrapping.last place).tag ∈ Tag.wrappers := by
    rw [Place.tag, wrapping.last_start]
    exact wrappers _ List.getLastD_mem_cons
  have effective : effectiveAmong Registry.builtin (wrapping.last place).ancestors =
      some (.plain (.members members)) := by
    rw [wrapping.effectiveAmong_last place Registry.builtin fun start member =>
      ⟨_, Registry.builtin_content_of_wrapper (wrappers start member)⟩]
    exact effectiveAmong_of_plain registered selected
  refine ⟨⟨wrapping.last_mem place, wrapping.last_start place, wrapping.last_children place⟩,
    _, Registry.checkContent_of_transparent
      (Registry.builtin_content_of_wrapper lastTag) effective, ?_⟩
  simp only [PlainModel.checkChildren, Members.gist_checkChildren unlimited, wrapping.last_children,
    List.filter_append, List.map_append]

/-- A paragraph on its own. -/
def paragraph : Place :=
  { start := .named "p", before := [], after := [], children := [], above := [] }

/-- A word and a division in an insertion inside a deletion, between two other elements. -/
def edits : Wrapping where
  before := [.element (.named "em") []]
  outer := .named "del"
  chain := [.named "ins"]
  inside := [.text "new" {}, .element (.named "div") []]
  after := [.element (.named "p") []]

theorem wrapping_faithful_paragraph :
    Registry.builtin.content? paragraph.tag = some (.ofCategory .phrasing) ∧
    (∀ start ∈ edits.outer :: edits.chain, start.tag ∈ Tag.wrappers) ∧
    (edits.last paragraph ∈ (edits.around paragraph).descendants ∧
      (edits.last paragraph).start = .named "ins" ∧
      (edits.last paragraph).children = edits.inside) ∧
    ∃ found,
      (Registry.builtin.entry (edits.last paragraph).tag).checkContent Registry.builtin
        (.element (edits.last paragraph)) = .ok found ∧
      (Members.checkChildren { category := some .phrasing } paragraph.start
          (edits.before ++ edits.inside ++ edits.after)).map Diagnostic.gist =
        (Members.checkChildren { category := some .phrasing } paragraph.start edits.before).map
            Diagnostic.gist ++
          found.map Diagnostic.gist ++
          (Members.checkChildren { category := some .phrasing } paragraph.start edits.after).map
            Diagnostic.gist := by
  have isParagraph : paragraph.tag = .p := by decide +kernel
  have registered : Registry.builtin.content? paragraph.tag = some (.ofCategory .phrasing) := by
    have listed : Rulebook.flowElement .p (.ofCategory .phrasing) ∈ Rulebook.entries := by
      simp [Rulebook.entries, Rulebook.ruleSets, RuleSet.entries, Rulebook.grouping]
    have inForce := Registry.builtin_content_of_mem listed
    rw [Rulebook.flowElement, RuleEntry.tag_of] at inForce
    rw [isParagraph, inForce]
    rfl
  have wrappers : ∀ start ∈ edits.outer :: edits.chain, start.tag ∈ Tag.wrappers := by
    decide +kernel
  exact ⟨registered, wrappers, wrapping_faithful registered rfl rfl edits wrappers⟩

end HtmlNesting
