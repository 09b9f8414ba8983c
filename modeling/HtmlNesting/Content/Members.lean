import HtmlNesting.Content.Exclusion
import HtmlNesting.Content.Quotas
import HtmlNesting.Content.Shown

/-!
# Membership models

The commonest content model: every child must be of a category or carry one of some tags. Skipped
tags are invisible to it, and quotas bound how often a tag may occur among the allowed children.
-/

namespace HtmlNesting

/-- Children of a category, or with one of some tags, in any order. -/
structure Members where
  category : Option Category := none
  tags : List Tag := []
  /-- Whether script-supporting elements are allowed besides. -/
  scriptSupporting : Bool := false
  skip : List Tag := []
  limits : Quotas := .unbounded
  exclude : Option Exclusion := none
  severity : Severity := .warn

namespace Members

/-- Whether a node belongs to the category of the model. -/
def ofCategory (members : Members) (node : Node) : Bool :=
  match members.category with
  | none => false
  | some category => node.fills category

/-- Whether a child is allowed. -/
def allows (members : Members) : Node → Bool
  | .text data position => Text.isSpaces data || members.ofCategory (.text data position)
  | .element start children =>
    members.tags.contains start.tag ||
      (members.scriptSupporting && (Node.element start children).isScriptSupporting) ||
      members.ofCategory (.element start children)

/-- Whether a child is invisible to the model. -/
def skips (members : Members) (node : Node) : Bool :=
  match node.tag? with
  | none => false
  | some tag => members.skip.contains tag

/-- What the model expects, in words. -/
def expectation (members : Members) : String :=
  let category := match members.category with
    | none => []
    | some category => [category.name]
  let scripts := if members.scriptSupporting then ["script-supporting elements"] else []
  match category ++ Tag.allShown members.tags ++ scripts with
  | [] => "nothing"
  | parts => String.intercalate " or " parts

/-- The quota of a child's tag, if it has one. -/
def limit? (members : Members) (node : Node) : Option (Tag × Int) :=
  match node.tag? with
  | none => none
  | some tag => (members.limits.get? tag).map fun limit => (tag, limit)

/-- The report on a child that is not allowed. -/
def notAllowed (members : Members) (parent : StartTag) (child : Node) : Diagnostic :=
  .atNode .notAllowed child
    (child.shown ++ " is not allowed in " ++ parent.shown ++ ", expected " ++ members.expectation)
    members.severity

/-- The report on a child beyond the quota of its tag. -/
def tooMany (members : Members) (parent : StartTag) (child : Node) (tag : Tag) (limit : Int) :
    Diagnostic :=
  .atNode .tooMany child
    (parent.shown ++ " must not contain more than " ++ toString limit ++ " " ++ tag.shown)
    members.severity

/-- Checks children in order; `seen` holds the tags with a quota that occurred before. -/
def checkFrom (members : Members) (parent : StartTag) (seen : List Tag) :
    List Node → List Diagnostic
  | [] => []
  | child :: rest =>
    if members.skips child then members.checkFrom parent seen rest
    else if members.allows child then
      match members.limit? child with
      | none => members.checkFrom parent seen rest
      | some (tag, limit) =>
        if limit < (seen.count tag : Int) + 1 then
          members.tooMany parent child tag limit :: members.checkFrom parent (tag :: seen) rest
        else members.checkFrom parent (tag :: seen) rest
    else members.notAllowed parent child :: members.checkFrom parent seen rest

/-- Checks a list of children of an element. -/
def checkChildren (members : Members) (parent : StartTag) (children : List Node) :
    List Diagnostic :=
  members.checkFrom parent [] children

/-- Whether children of a category fit the model. -/
def accepts (members : Members) (category : Category) : Bool :=
  match members.category with
  | none => false
  | some slot => slot.accepts category

/-- The codes the model may report. -/
def codes (members : Members) : List Code :=
  [.notAllowed, .tooMany] ++ (if members.exclude.isSome then [.forbiddenDescendant] else [])

end Members

end HtmlNesting
