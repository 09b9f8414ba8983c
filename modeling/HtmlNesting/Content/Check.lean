import HtmlNesting.Fault
import HtmlNesting.Registry

/-!
# Checking content

`effectiveModel` is the model that the children of a transparent element are checked against: that
of the nearest enclosing element that is not transparent. The model found there may still choose by
an attribute, and that choice is then made by the attributes of the transparent element. Should it
lead back to a transparent model, the check would go round for ever, which is a fault.
-/

namespace HtmlNesting

/-- The first model among enclosing elements, nearest first, that is not transparent: `none` if an
element without a model comes first, and flow content if the elements run out. -/
def effectiveAmong (registry : Registry) : List Place → Option ContentModel
  | [] => some .flowContent
  | ancestor :: rest =>
    match registry.content? ancestor.tag with
    | none => none
    | some model =>
      match model.select ancestor.attributes with
      | .transparent _ => effectiveAmong registry rest
      | .plain model => some (.plain model)
      | .whenAttribute name present absent => some (.whenAttribute name present absent)

/-- The model that the children of a transparent element are checked against; `none` if the
surroundings do not constrain them. -/
def effectiveModel (registry : Registry) (subject : Subject) : Option ContentModel :=
  effectiveAmong registry subject.ancestors

/-- The plain model that decides on the children of a transparent element. -/
def delegate (registry : Registry) (place : Place) : Except RuleFault (Option PlainModel) :=
  match effectiveModel registry (.element place) with
  | none => .ok none
  | some model =>
    match model.resolve place.attributes with
    | .plain model => .ok (some model)
    | .transparent _ => .error .endlessDelegation

/-- Checks children of a transparent element where the element stands. -/
def checkDelegated (registry : Registry) (place : Place) (children : List Node) :
    Except RuleFault (List Diagnostic) :=
  match delegate registry place with
  | .error fault => .error fault
  | .ok none => .ok []
  | .ok (some model) => .ok (model.checkChildren place.start children)

namespace ContentModel

/-- Checks a list of children of an element. -/
def checkChildren (registry : Registry) (place : Place) (children : List Node)
    (model : ContentModel) : Except RuleFault (List Diagnostic) :=
  match model.resolve place.attributes with
  | .plain model => .ok (model.checkChildren place.start children)
  | .transparent _ => checkDelegated registry place children

/-- Checks an element with all its children. -/
def check (registry : Registry) (place : Place) (model : ContentModel) :
    Except RuleFault (List Diagnostic) :=
  match model.resolve place.attributes with
  | .plain model => .ok (model.check place)
  | .transparent handing =>
    match checkDelegated registry place (handing.visible place.children) with
    | .error fault => .error fault
    | .ok delegated =>
      .ok (handing.forbiddenReports place.start place.children ++ delegated ++
        scanFor handing.exclude place)

/-- Whether children of a category fit the model at an element. -/
def accepts (registry : Registry) (place : Place) (category : Category) (model : ContentModel) :
    Except RuleFault Bool :=
  match model.resolve place.attributes with
  | .plain model => .ok (model.accepts category)
  | .transparent _ =>
    match delegate registry place with
    | .error fault => .error fault
    | .ok none => .ok true
    | .ok (some model) => .ok (model.accepts category)

/-- Whether children of a category fit the model at a subject. For a text, only a plain model
says so, since any other asks for attributes or for the elements around. -/
def acceptsAt (registry : Registry) (subject : Subject) (category : Category)
    (model : ContentModel) : Except RuleFault Bool :=
  match subject, model with
  | .element place, model => model.accepts registry place category
  | .text _, .plain model => .ok (model.accepts category)
  | .text _, _ => .error .notElement

end ContentModel

end HtmlNesting
