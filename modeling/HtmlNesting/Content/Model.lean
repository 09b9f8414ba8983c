import HtmlNesting.Content.Groups
import HtmlNesting.Content.Members
import HtmlNesting.Content.Ordered

/-!
# Content models

A content model says which children an element may have. A `PlainModel` decides this by itself. A
`Transparent` one hands its children on to the model of the element around it, and a model may also
be chosen by an attribute. `resolve` makes all choices by attribute, so what is left is plain or
transparent; `select` makes one.
-/

namespace HtmlNesting

/-- A content model that does not look beyond the element and its children. -/
inductive PlainModel where
  /-- Nothing is checked and nothing is promised to fit. -/
  | unchecked (severity : Severity)
  /-- No elements and no text. -/
  | empty (severity : Severity)
  /-- Text that is content, and no elements. -/
  | textOnly (severity : Severity)
  | members (members : Members)
  | ordered (ordered : Ordered)
  | groups (groups : Groups)

namespace PlainModel

/-- The report on a child of an element that must be empty. -/
def notEmptyReport (severity : Severity) (parent : StartTag) (child : Node) : Diagnostic :=
  .atNode .notEmpty child (parent.shown ++ " must be empty, found " ++ child.shown) severity

/-- The report on an element inside an element for text. -/
def onlyTextReport (severity : Severity) (parent child : StartTag) : Diagnostic :=
  .atElement .notAllowed child
    (child.shown ++ " is not allowed in " ++ parent.shown ++ ", only text is") severity

/-- The report on an element for text that has none. -/
def textRequiredReport (severity : Severity) (parent : StartTag) : Diagnostic :=
  .atElement .textRequired parent
    (parent.shown ++ " must contain text that is not whitespace") severity

/-- Checks a list of children of an element. -/
def checkChildren (parent : StartTag) (children : List Node) : PlainModel → List Diagnostic
  | unchecked _ => []
  | empty severity =>
    (children.filter fun child => !child.isSpaces).map (notEmptyReport severity parent)
  | textOnly severity =>
    (children.filterMap Node.start?).map (onlyTextReport severity parent) ++
      if children.all Node.isSpaces then [textRequiredReport severity parent] else []
  | members model => model.checkChildren parent children
  | ordered model => model.checkChildren parent children
  | groups model => model.checkChildren parent children

/-- Checks an element with all its children, and what it must not hold at any depth. -/
def check (place : Place) (model : PlainModel) : List Diagnostic :=
  model.checkChildren place.start place.children ++
    match model with
    | members inner => scanFor inner.exclude place
    | _ => []

/-- Whether children of a category fit the model. -/
def accepts (category : Category) : PlainModel → Bool
  | members model => model.accepts category
  | _ => false

/-- The severity of the model's reports. -/
def severity : PlainModel → Severity
  | unchecked severity => severity
  | empty severity => severity
  | textOnly severity => severity
  | members model => model.severity
  | ordered model => model.severity
  | groups model => model.severity

/-- The codes the model may report. -/
def codes : PlainModel → List Code
  | unchecked _ => []
  | empty _ => [.notEmpty]
  | textOnly _ => [.notAllowed, .textRequired]
  | members model => model.codes
  | ordered _ => Ordered.codes
  | groups _ => Groups.codes

end PlainModel

/-- The children must fit where the element itself stands. Skipped tags are invisible to that
check, forbidden ones are not allowed at all. -/
structure Transparent where
  skip : List Tag := []
  forbid : List Tag := []
  exclude : Option Exclusion := none
  severity : Severity := .warn
  deriving DecidableEq, Repr

namespace Transparent

/-- Whether a child has one of some tags. -/
def isAmong (tags : List Tag) (child : Node) : Bool :=
  match child.tag? with
  | none => false
  | some tag => tags.contains tag

/-- The reports on forbidden children. -/
def forbiddenReports (transparent : Transparent) (parent : StartTag) (children : List Node) :
    List Diagnostic :=
  (children.filter (isAmong transparent.forbid)).map fun child =>
    .atNode .notAllowed child (child.shown ++ " is not allowed in " ++ parent.shown)
      transparent.severity

/-- The children handed on to the model of the element around. -/
def visible (transparent : Transparent) (children : List Node) : List Node :=
  children.filter fun child =>
    !isAmong transparent.forbid child && !isAmong transparent.skip child

/-- The codes the model reports itself. -/
def codes (transparent : Transparent) : List Code :=
  [.notAllowed] ++ (if transparent.exclude.isSome then [.forbiddenDescendant] else [])

end Transparent

/-- What an element may contain. -/
inductive ContentModel where
  | plain (model : PlainModel)
  | transparent (transparent : Transparent)
  /-- One of two models, by the presence of an attribute. -/
  | whenAttribute (name : String) (present absent : ContentModel)

/-- A content model in which nothing is left to be chosen by an attribute. -/
inductive Resolved where
  | plain (model : PlainModel)
  | transparent (transparent : Transparent)

namespace ContentModel

/-- Makes one choice by attribute, if there is one to be made. -/
def select (attributes : Attributes) : ContentModel → ContentModel
  | plain model => plain model
  | transparent model => transparent model
  | whenAttribute name present absent => if attributes.has name then present else absent

/-- Makes all choices by attribute. -/
def resolve (attributes : Attributes) : ContentModel → Resolved
  | plain model => .plain model
  | transparent model => .transparent model
  | whenAttribute name present absent =>
    if attributes.has name then present.resolve attributes else absent.resolve attributes

/-- The severity of the model's own reports. -/
def severity : ContentModel → Severity
  | plain model => model.severity
  | transparent model => model.severity
  | whenAttribute _ _ _ => .warn

/-- The codes the model may report itself. -/
def codes : ContentModel → List Code
  | plain model => model.codes
  | transparent model => model.codes
  | whenAttribute _ present absent => present.codes ++ absent.codes

/-- Children of a category. -/
def ofCategory (category : Category) : ContentModel :=
  .plain (.members { category := some category })

/-- No children. -/
def void : ContentModel :=
  .plain (.empty .warn)

/-- What the children of a transparent element without a parent are checked against. -/
def flowContent : ContentModel :=
  ofCategory .flow

end ContentModel

end HtmlNesting
