import HtmlNesting.Node

/-!
# Diagnostics

A finding has a code that stays the same from release to release, a severity, a position, the name
of the node it is about and a message. `Code` lists the codes of the nesting rules. A diagnostic
carries its code as text, because configuration speaks of codes by name and may name unknown ones.
-/

namespace HtmlNesting

/-- How grave a finding is. -/
inductive Severity where
  | warn | error
  deriving DecidableEq, Repr

namespace Severity

/-- The word for a severity. -/
def name : Severity → String
  | warn => "WARN"
  | error => "ERROR"

/-- The severity with a name, exactly as written. -/
def ofName? (name : String) : Option Severity :=
  if name == "WARN" then some .warn else if name == "ERROR" then some .error else none

end Severity

/-- The codes of the nesting rules. -/
inductive Code where
  | exclusiveConflict | forbiddenDescendant | groupBroken | missingRequired | notAllowed | notEmpty
  | outOfOrder | textRequired | tooMany
  | categoryNotExpected | duplicateSibling | forbiddenAncestor | missingAncestor | notDocumentRoot
  | wrongParent | wrongPosition
  deriving DecidableEq, Repr

namespace Code

/-- The text of a code. -/
def name : Code → String
  | exclusiveConflict => "CONTENT_EXCLUSIVE_CONFLICT"
  | forbiddenDescendant => "CONTENT_FORBIDDEN_DESCENDANT"
  | groupBroken => "CONTENT_GROUP_BROKEN"
  | missingRequired => "CONTENT_MISSING_REQUIRED"
  | notAllowed => "CONTENT_NOT_ALLOWED"
  | notEmpty => "CONTENT_NOT_EMPTY"
  | outOfOrder => "CONTENT_OUT_OF_ORDER"
  | textRequired => "CONTENT_TEXT_REQUIRED"
  | tooMany => "CONTENT_TOO_MANY"
  | categoryNotExpected => "CONTEXT_CATEGORY_NOT_EXPECTED"
  | duplicateSibling => "CONTEXT_DUPLICATE_SIBLING"
  | forbiddenAncestor => "CONTEXT_FORBIDDEN_ANCESTOR"
  | missingAncestor => "CONTEXT_MISSING_ANCESTOR"
  | notDocumentRoot => "CONTEXT_NOT_DOCUMENT_ROOT"
  | wrongParent => "CONTEXT_WRONG_PARENT"
  | wrongPosition => "CONTEXT_WRONG_POSITION"

end Code

/-- A finding about a node. -/
structure Diagnostic where
  code : String
  severity : Severity
  position : Position
  /-- The name of the node the finding is about. -/
  tag : String := ""
  message : String := ""
  /-- The family of rules the finding comes from. -/
  rule : String := "nest"
  deriving DecidableEq, Repr

namespace Diagnostic

/-- A finding about an element. -/
def atElement (code : Code) (start : StartTag) (message : String) (severity : Severity) :
    Diagnostic :=
  { code := code.name, severity, position := start.position, tag := start.name, message }

/-- A finding about a node. -/
def atNode (code : Code) (node : Node) (message : String) (severity : Severity) : Diagnostic :=
  { code := code.name, severity, position := node.position, tag := node.name, message }

/-- Whether a finding is reported no later than another: by line, then by column. -/
def reportedBy (first second : Diagnostic) : Bool :=
  if first.position.line = second.position.line then
    decide (first.position.column ≤ second.position.column)
  else decide (first.position.line < second.position.line)

end Diagnostic

end HtmlNesting
