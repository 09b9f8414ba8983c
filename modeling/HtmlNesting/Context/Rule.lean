import HtmlNesting.Attributes
import HtmlNesting.Category
import HtmlNesting.Diagnostic

/-!
# Context rules

A context rule says where an element may stand. A `Requirement` is one condition on its
surroundings. Rules combine requirements: alternatives, of which one must hold, and lists chosen by
an attribute, all of which must hold.
-/

namespace HtmlNesting

/-- A condition on the surroundings of an element. -/
inductive Requirement where
  /-- The element is the root of the document, and the only top-level element. -/
  | documentRoot
  /-- The nearest enclosing element with a content model has room for the category. -/
  | expected (category : Category)
  /-- The parent has one of the tags, or is one of the wrappers inside such an element. -/
  | parentIs (tags : List Tag) (through : List Tag)
  /-- The element is the child of a parent at an index among its element children, after children
  with the given tags if there are any. -/
  | nthChildOf (parent : Tag) (index : Int) (after : List Tag)
  /-- The element is the first or the last element child of a parent. -/
  | firstOrLastChildOf (parent : Tag)
  /-- No earlier sibling has the same name. -/
  | uniqueAmongSiblings
  /-- No enclosing element has one of the tags. -/
  | noAncestor (tags : List Tag)
  /-- Some enclosing element has one of the tags. -/
  | hasAncestor (tags : List Tag)
  /-- No earlier sibling has one of the tags or fills one of the categories. -/
  | beforeAny (tags : List Tag) (categories : List Category)
  /-- A condition that has not been stated; asking for it is a fault. -/
  | unstated
  deriving DecidableEq, Repr

/-- The codes a requirement may report. -/
def Requirement.codes : Requirement → List Code
  | documentRoot => [.notDocumentRoot]
  | expected _ => [.categoryNotExpected]
  | parentIs _ _ => [.wrongParent]
  | nthChildOf _ _ _ => [.wrongParent, .wrongPosition]
  | firstOrLastChildOf _ => [.wrongParent, .wrongPosition]
  | uniqueAmongSiblings => [.duplicateSibling]
  | noAncestor _ => [.forbiddenAncestor]
  | hasAncestor _ => [.missingAncestor]
  | beforeAny _ _ => [.wrongPosition]
  | unstated => []

/-- Where an element may stand. -/
inductive ContextRule where
  | require (requirement : Requirement) (severity : Severity)
  /-- One of the rules must hold; otherwise the failure of the first is reported. -/
  | anyOf (rules : List ContextRule) (severity : Severity)
  /-- The rules of the first branch whose test holds, or else the last ones, must all hold. -/
  | byAttribute (branches : List (AttributeTest × List ContextRule))
      (otherwise : List ContextRule)

namespace ContextRule

/-- The severity of the rule's own reports. -/
def severity : ContextRule → Severity
  | require _ severity => severity
  | anyOf _ severity => severity
  | byAttribute _ _ => .warn

mutual

/-- The codes a rule may report. -/
def codes : ContextRule → List Code
  | require requirement _ => requirement.codes
  | anyOf rules _ => codesOfRules rules
  | byAttribute branches otherwise => codesOfRules otherwise ++ codesOfBranches branches

/-- The codes some rules may report. -/
def codesOfRules : List ContextRule → List Code
  | [] => []
  | rule :: rest => rule.codes ++ codesOfRules rest

/-- The codes the rules of some branches may report. -/
def codesOfBranches : List (AttributeTest × List ContextRule) → List Code
  | [] => []
  | (_, rules) :: rest => codesOfRules rules ++ codesOfBranches rest

end

/-- The element stands where a category is expected. -/
def expected (category : Category) : ContextRule :=
  .require (.expected category) .warn

/-- The element is a child of an element with one of some tags. -/
def parentIs (tags : List Tag) (through : List Tag := []) : ContextRule :=
  .require (.parentIs tags through) .warn

/-- Alternatives with the severity of the first one, which there has to be. -/
def alternatives (first : ContextRule) (others : List ContextRule) : ContextRule :=
  .anyOf (first :: others) first.severity

end ContextRule

end HtmlNesting
