import HtmlNesting.Proofs.Severities

/-!
# Where delegation leads

Children of a transparent element are to be judged by the nearest element around it whose model is
not transparent, once all choices by attribute have been made by the attributes of the element that
has the model. `Registry.settled?` says just this. The walk outwards makes one choice at every
element it meets. So it comes to the settled model under all registries without a choice inside a
choice, and under no others (`effectiveModel_settled_iff`): where a choice is left, it is returned
as it is, to be made by the attributes of the wrong element.
-/

namespace HtmlNesting

/-! ## Settled models -/

namespace Resolved

/-- The plain model that a resolved model is, if it is one. -/
def plain? : Resolved → Option PlainModel
  | plain model => some model
  | transparent _ => none

/-- A resolved model as a content model. -/
def toModel : Resolved → ContentModel
  | plain model => .plain model
  | transparent handing => .transparent handing

end Resolved

namespace Registry

/-- The model of an element with all choices made by its own attributes. -/
def resolved? (registry : Registry) (place : Place) : Option Resolved :=
  (registry.content? place.tag).map (ContentModel.resolve place.attributes)

/-- Whether the model of an element, with all choices made, is transparent. -/
def isTransparent (registry : Registry) (place : Place) : Bool :=
  match registry.resolved? place with
  | some (.transparent _) => true
  | _ => false

/-- The model that children are to be judged by: that of the nearest enclosing element that is not
transparent, and flow content if there is none. An element without a model does not constrain
them. -/
def settled? (registry : Registry) (ancestors : List Place) : Option PlainModel :=
  match ancestors.find? fun ancestor => !registry.isTransparent ancestor with
  | none => some (.members { category := some .flow })
  | some owner => (registry.resolved? owner).bind Resolved.plain?

end Registry

namespace ContentModel

variable {attributes : Attributes} {model : ContentModel}

/-- A choice that settles a model makes all the choices there are. -/
theorem select_eq_resolve (settled : (model.select attributes).isOpen = false) :
    model.select attributes = (model.resolve attributes).toModel := by
  rw [← resolve_select attributes model]
  cases selected : model.select attributes with
  | plain inner => rfl
  | transparent handing => rfl
  | whenAttribute name present absent => simp [selected, isOpen] at settled

/-- A model is shallow if no attributes leave it open after one choice. -/
theorem isShallow_of_select (settled : ∀ attributes, (model.select attributes).isOpen = false) :
    model.isShallow = true := by
  cases model with
  | plain inner => rfl
  | transparent inner => rfl
  | whenAttribute name present absent =>
    have whenPresent : present.isOpen = false := by
      simpa [select, Attributes.has, Dictionary.has, Dictionary.get?] using settled [(name, "")]
    have whenAbsent : absent.isOpen = false := by
      simpa [select, Attributes.has, Dictionary.has, Dictionary.get?] using settled []
    simp [isShallow, whenPresent, whenAbsent]

end ContentModel

/-! ## Registries without a choice inside a choice -/

namespace Registry

variable {registry : Registry}

/-- Under shallow models the walk outwards ends at the settled model. -/
theorem Shallow.effectiveAmong_eq (shallow : registry.Shallow) (ancestors : List Place) :
    effectiveAmong registry ancestors = (registry.settled? ancestors).map .plain := by
  induction ancestors with
  | nil => rfl
  | cons ancestor rest ih =>
    rw [effectiveAmong, settled?, List.find?_cons, isTransparent, resolved?]
    cases inForce : registry.content? ancestor.tag with
    | none => simp [resolved?, inForce]
    | some model =>
      have settled := ContentModel.isOpen_select ancestor.attributes (shallow _ model inForce)
      simp only [Option.map_some, ContentModel.select_eq_resolve settled]
      cases resolved : model.resolve ancestor.attributes with
      | plain inner => simp [resolved?, inForce, resolved, Resolved.toModel, Resolved.plain?]
      | transparent handing => exact ih

/-- The walk outwards ends at an element where one choice leaves another open. -/
theorem effectiveAmong_of_isOpen {place : Place} {further : List Place} {model : ContentModel}
    (inForce : registry.content? place.tag = some model)
    (left : (model.select place.attributes).isOpen = true) :
    effectiveAmong registry (place :: further) = some (model.select place.attributes) := by
  simp only [effectiveAmong, inForce]
  cases selected : model.select place.attributes with
  | plain inner => simp [selected, ContentModel.isOpen] at left
  | transparent handing => simp [selected, ContentModel.isOpen] at left
  | whenAttribute name present absent => rfl

end Registry

/-- The check of a list of children returns. -/
theorem ContentModel.checkChildren_returns {registry : Registry} (shallow : registry.Shallow)
    (place : Place) (children : List Node) (model : ContentModel) :
    Returns (model.checkChildren registry place children) := by
  rw [checkChildren]
  cases model.resolve place.attributes with
  | plain inner => exact returns_ok _
  | transparent handing =>
    rw [checkDelegated]
    rcases delegate_cases shallow place with equal | ⟨plain, equal, _⟩
    · rw [equal]
      exact returns_ok _
    · rw [equal]
      exact returns_ok _

namespace Place

/-- An element with a start tag and one child. -/
def around (outer : StartTag) : Place where
  start := outer
  before := []
  after := []
  children := [.element { name := "" } []]
  above := []

/-- The child of that element. -/
def inside (outer : StartTag) : Place where
  start := { name := "" }
  before := []
  after := []
  children := []
  above := [(around outer).toLevel]

end Place

/-- Children of transparent elements are judged by the settled model, for every element of every
tree, exactly if no choice by attribute stands inside another one. Then all checks return, those
of transparent elements among them. -/
theorem effectiveModel_settled_iff (registry : Registry) :
    ((∀ subject, effectiveModel registry subject =
        (registry.settled? subject.ancestors).map .plain) ↔ registry.Shallow) ∧
      (registry.Shallow → ∀ (model : ContentModel) (place : Place) (children : List Node)
        (category : Category),
        Returns (model.check registry place) ∧
          Returns (model.checkChildren registry place children) ∧
          Returns (model.accepts registry place category)) := by
  refine ⟨⟨?_, fun shallow subject => shallow.effectiveAmong_eq subject.ancestors⟩, ?_⟩
  · intro settled tag model inForce
    refine ContentModel.isShallow_of_select fun attributes => ?_
    -- An element of this tag with these attributes, and a child to ask about.
    let outer : StartTag := { name := tag.name, attributes }
    have inForceAround : registry.content? (Place.around outer).tag = some model :=
      (congrArg registry.content? (Tag.ofName_name tag)).trans inForce
    cases left : (model.select attributes).isOpen with
    | false => rfl
    | true =>
      have found : effectiveAmong registry [Place.around outer] =
          some (model.select attributes) :=
        Registry.effectiveAmong_of_isOpen inForceAround left
      have same := settled (.element (Place.inside outer))
      have ancestors : (Place.inside outer).ancestors = [Place.around outer] := rfl
      rw [effectiveModel, Subject.ancestors, ancestors, found] at same
      obtain ⟨inner, _, equal⟩ := Option.map_eq_some_iff.mp same.symm
      rw [show model.select attributes = .plain inner from equal.symm] at left
      exact absurd left (by simp [ContentModel.isOpen])
  · intro shallow model place children category
    exact ⟨model.check_returns shallow place, model.checkChildren_returns shallow place children,
      model.accepts_returns shallow place category⟩

/-! ## A choice inside a choice -/

/-- Rules under which a hidden section leaves a second choice to be made by another attribute. -/
def hiddenRules (whenInert otherwise : ContentModel) : Registry where
  entries := [
    (.sectionTag, .of .sectionTag []
      (some (.whenAttribute "hidden" (.whenAttribute "inert" whenInert otherwise) otherwise))),
    (.ins, .of .ins [] (some (.transparent {})))]

/-- A section that is hidden and inert, with an insertion in it. -/
def hiddenSection (insertion : Attributes) : Place where
  start := { name := "section", attributes := [("hidden", ""), ("inert", "")] }
  before := []
  after := []
  children := [.element { name := "ins", attributes := insertion, position := { line := 2 } }
    [.text "word" { line := 3 }]]
  above := []

/-- The insertion in that section, with a word in it. -/
def hiddenInsertion (attributes : Attributes) : Place where
  start := { name := "ins", attributes, position := { line := 2 } }
  before := []
  after := []
  children := [.text "word" { line := 3 }]
  above := [(hiddenSection attributes).toLevel]

/-- The section is to be empty, since it is inert, and so is the insertion. But the choice that is
left is made by the attributes of the insertion, which is not inert: the word in it is not reported.
If what an inert section contains is transparent, an inert insertion hands its children on to
itself. -/
theorem hiddenInsertion_unsettled :
    ((hiddenRules .void .flowContent).settled? (hiddenInsertion []).ancestors =
        some (.empty .warn) ∧
      ((PlainModel.empty .warn).checkChildren (hiddenInsertion []).start
        (hiddenInsertion []).children).length = 1 ∧
      effectiveModel (hiddenRules .void .flowContent) (.element (hiddenInsertion [])) =
        some (.whenAttribute "inert" .void .flowContent) ∧
      ContentModel.check (hiddenRules .void .flowContent) (hiddenInsertion []) (.transparent {}) =
        .ok []) ∧
    ContentModel.check (hiddenRules (.transparent {}) .void) (hiddenInsertion [("inert", "")])
      (.transparent {}) = .error .endlessDelegation := by
  exact ⟨⟨rfl, rfl, rfl, rfl⟩, rfl⟩

end HtmlNesting
