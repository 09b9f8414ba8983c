import HtmlNesting.Content.Check

/-!
# Checking context

A rule is evaluated in two ways. `failure` is the first violation, or none; alternatives are judged
by it. `check` gives the diagnostics: at most one for a requirement or for alternatives, and those
of every rule in a list that an attribute has chosen.

An element without a parent is a document root. The requirement to be one says something about it;
all others are met there.

A rule may be asked about a text as well. A text knows its parent and what is above that, but
neither its siblings nor attributes, so a requirement that looks at those ends with a fault.
-/

namespace HtmlNesting

/-- A condition that is not met. -/
structure Violation where
  code : Code
  message : String
  deriving DecidableEq, Repr

namespace Requirement

/-- A root must have no other top-level elements beside it. -/
def rootViolation (place : Place) : Option Violation :=
  (place.elementsBefore ++ place.elementsAfter).head?.map fun other =>
    { code := .notDocumentRoot
      message := place.start.shown ++ " must be the only root element of the document, found next to " ++
        other.shown }

/-- Looks through enclosing elements for the first with a content model, which has to accept the
category. A template accepts anything. -/
def expectedAbove (registry : Registry) (place : Place) (category : Category) :
    List Place → Except RuleFault (Option Violation)
  | [] => .ok none
  | ancestor :: rest =>
    if ancestor.tag = .template then .ok none
    else
      match registry.content? ancestor.tag with
      | none => expectedAbove registry place category rest
      | some model =>
        match model.accepts registry ancestor category with
        | .error fault => .error fault
        | .ok true => .ok none
        | .ok false => .ok (some {
            code := .categoryNotExpected
            message := place.start.shown ++ " must be used where " ++ category.name ++
              " is expected, " ++ ancestor.start.shown ++ " does not accept it" })

/-- The failure to stand where a category is expected. A parent with a content model reports a
child it rejects itself, so the requirement is silent about it. -/
def expectedViolation (registry : Registry) (place : Place) (category : Category) (parent : Place)
    (further : List Place) : Except RuleFault (Option Violation) :=
  if parent.tag = .template || (registry.content? parent.tag).isSome then .ok none
  else expectedAbove registry place category further

/-- The failure of something with a parent to be a root. -/
def insideParent (shown : String) (parent : Place) : Violation where
  code := .notDocumentRoot
  message := shown ++ " must be the root element of the document, found inside " ++
    parent.start.shown

/-- The failure to be the child of one of some elements. -/
def parentViolation (shown : String) (parent : Place) (further : List Place) (tags through : List Tag) :
    Option Violation :=
  let wrapped := match further with
    | [] => false
    | outer :: _ => through.contains parent.tag && tags.contains outer.tag
  if tags.contains parent.tag || wrapped then none
  else
    let names := String.intercalate ", " (Tag.allShown tags)
    let wrappers := if through.isEmpty then ""
      else " (or " ++ String.intercalate ", " (Tag.allShown through) ++ " inside one)"
    some {
      code := .wrongParent
      message := shown ++ " must be a child of " ++ names ++ wrappers ++ ", found in " ++
        parent.start.shown }

/-- The failure to have a parent with a tag. -/
def wrongParent (shown : String) (parent : Place) (tag : Tag) : Violation where
  code := .wrongParent
  message := shown ++ " must be a child of " ++ tag.shown ++ ", found in " ++
    parent.start.shown

/-- The word for an index counted from zero. -/
def ordinal (index : Int) : String :=
  if index = 0 then "first"
  else if index = 1 then "second"
  else if index = 2 then "third"
  else "#" ++ toString (index + 1)

/-- The failure to be the child at an index. -/
def nthViolation (place parent : Place) (tag : Tag) (index : Int) (after : List Tag) :
    Option Violation :=
  if parent.tag = tag then
    let before := place.elementsBefore.map StartTag.tag
    if (before.length : Int) = index && (after.isEmpty || before = after) then none
    else some {
      code := .wrongPosition
      message := place.start.shown ++ " must be the " ++ ordinal index ++ " element in " ++ tag.shown }
  else some (wrongParent place.start.shown parent tag)

/-- The failure to be at either end of the element children. -/
def notAtEdge (shown : String) (tag : Tag) : Violation where
  code := .wrongPosition
  message := shown ++ " must be the first or last element in " ++ tag.shown

/-- The failure to be the first or the last child. -/
def edgeViolation (place parent : Place) (tag : Tag) : Option Violation :=
  if parent.tag = tag then
    if place.elementsBefore.isEmpty || place.elementsAfter.isEmpty then none
    else some (notAtEdge place.start.shown tag)
  else some (wrongParent place.start.shown parent tag)

/-- The failure to be the only sibling of its name so far. -/
def duplicateViolation (place parent : Place) : Option Violation :=
  if place.elementsBefore.any fun other => other.name == place.start.name then
    some {
      code := .duplicateSibling
      message := parent.start.shown ++ " must not contain more than one " ++ place.start.shown }
  else none

/-- Whether a sibling must not come before the element. -/
def blocks (tags : List Tag) (categories : List Category) (sibling : Node) : Bool :=
  match sibling with
  | .element start _ => tags.contains start.tag || categories.any sibling.fills
  | .text data _ => !Text.isSpaces data && categories.any sibling.fills

/-- The failure to come before some siblings. -/
def lateViolation (place : Place) (tags : List Tag) (categories : List Category) :
    Option Violation :=
  (place.before.find? (blocks tags categories)).map fun sibling =>
    let what := match sibling with
      | .element start _ => start.shown
      | .text _ _ => "text"
    { code := .wrongPosition, message := place.start.shown ++ " must come before " ++ what }

/-- The failure to be outside some elements. -/
def insideViolation (place : Place) (ancestors : List Place) (tags : List Tag) :
    Option Violation :=
  (ancestors.find? fun ancestor => tags.contains ancestor.tag).map fun ancestor =>
    { code := .forbiddenAncestor
      message := place.start.shown ++ " must not be a descendant of " ++ ancestor.start.shown }

/-- The failure to be inside some elements. -/
def outsideViolation (place : Place) (ancestors : List Place) (tags : List Tag) :
    Option Violation :=
  if ancestors.any fun ancestor => tags.contains ancestor.tag then none
  else some {
    code := .missingAncestor
    message := place.start.shown ++ " must be a descendant of " ++
      String.intercalate ", " (Tag.allShown tags) }

/-- The failure of an element to meet a requirement, if it does not. -/
def failureAt (registry : Registry) (place : Place) (requirement : Requirement) :
    Except RuleFault (Option Violation) :=
  match place.ancestors with
  | [] =>
    match requirement with
    | documentRoot => .ok (rootViolation place)
    | _ => .ok none
  | parent :: further =>
    match requirement with
    | documentRoot => .ok (some (insideParent place.start.shown parent))
    | expected category => expectedViolation registry place category parent further
    | parentIs tags through => .ok (parentViolation place.start.shown parent further tags through)
    | nthChildOf tag index after => .ok (nthViolation place parent tag index after)
    | firstOrLastChildOf tag => .ok (edgeViolation place parent tag)
    | uniqueAmongSiblings => .ok (duplicateViolation place parent)
    | noAncestor tags => .ok (insideViolation place (parent :: further) tags)
    | hasAncestor tags => .ok (outsideViolation place (parent :: further) tags)
    | beforeAny tags categories => .ok (lateViolation place tags categories)
    | unstated => .error .unstated

/-- The failure of a text with a parent to be its first or last element child. A text is neither,
but there have to be element children to compare it with. -/
def textEdgeViolation (shown : String) (parent : Place) (tag : Tag) :
    Except RuleFault (Option Violation) :=
  if parent.tag = tag then
    if parent.elementChildren.isEmpty then .error .noElementChild
    else .ok (some (notAtEdge shown tag))
  else .ok (some (wrongParent shown parent tag))

/-- The failure of a text to meet a requirement, if it does not. -/
def failureOfText (text : TextPlace) (requirement : Requirement) :
    Except RuleFault (Option Violation) :=
  let shown := (Subject.text text).shown
  match text.ancestors with
  | [] =>
    match requirement with
    | documentRoot => .error .notElement
    | _ => .ok none
  | parent :: further =>
    match requirement with
    | documentRoot => .ok (some (insideParent shown parent))
    | parentIs tags through => .ok (parentViolation shown parent further tags through)
    | nthChildOf tag _ _ =>
      if parent.tag = tag then .error .notElement else .ok (some (wrongParent shown parent tag))
    | firstOrLastChildOf tag => textEdgeViolation shown parent tag
    | unstated => .error .unstated
    | _ => .error .notElement

/-- The failure of a subject to meet a requirement, if it does not. -/
def failure (registry : Registry) (subject : Subject) (requirement : Requirement) :
    Except RuleFault (Option Violation) :=
  match subject with
  | .element place => requirement.failureAt registry place
  | .text text => requirement.failureOfText text

end Requirement

namespace ContextRule

/-- The diagnostic for a violation. -/
def report (subject : Subject) (severity : Severity) (violation : Violation) : Diagnostic :=
  .atNode violation.code subject.node violation.message severity

/-- The diagnostics for the outcome of a rule. -/
def reports (subject : Subject) (severity : Severity) :
    Except RuleFault (Option Violation) → Except RuleFault (List Diagnostic)
  | .error fault => .error fault
  | .ok none => .ok []
  | .ok (some violation) => .ok [report subject severity violation]

mutual

/-- The first violation of a rule, or none. -/
def failure (registry : Registry) (subject : Subject) :
    ContextRule → Except RuleFault (Option Violation)
  | require requirement _ => requirement.failure registry subject
  | anyOf rules _ => if subject.isRoot then .ok none else failureOfAll registry subject rules
  | byAttribute branches otherwise =>
    failureOfBranches registry subject (firstFailure registry subject otherwise) branches

/-- The failure of the first of some alternatives if all of them fail. -/
def failureOfAll (registry : Registry) (subject : Subject) :
    List ContextRule → Except RuleFault (Option Violation)
  | [] => .error .noAlternative
  | rule :: rest =>
    match rule.failure registry subject with
    | .error fault => .error fault
    | .ok none => .ok none
    | .ok (some violation) => failureUnlessAny registry subject violation rest

/-- A failure that stands unless one of some further alternatives holds. -/
def failureUnlessAny (registry : Registry) (subject : Subject) (violation : Violation) :
    List ContextRule → Except RuleFault (Option Violation)
  | [] => .ok (some violation)
  | rule :: rest =>
    match rule.failure registry subject with
    | .error fault => .error fault
    | .ok none => .ok none
    | .ok (some _) => failureUnlessAny registry subject violation rest

/-- The first failure of a list of rules. -/
def firstFailure (registry : Registry) (subject : Subject) :
    List ContextRule → Except RuleFault (Option Violation)
  | [] => .ok none
  | rule :: rest =>
    match rule.failure registry subject with
    | .error fault => .error fault
    | .ok (some violation) => .ok (some violation)
    | .ok none => firstFailure registry subject rest

/-- The first failure in the branch that the attributes choose. -/
def failureOfBranches (registry : Registry) (subject : Subject)
    (otherwise : Except RuleFault (Option Violation)) :
    List (AttributeTest × List ContextRule) → Except RuleFault (Option Violation)
  | [] => otherwise
  | (test, rules) :: rest =>
    match subject.attributes? with
    | none => .error .notElement
    | some attributes =>
      if test.holds attributes then firstFailure registry subject rules
      else failureOfBranches registry subject otherwise rest

end

mutual

/-- The diagnostics of a rule. -/
def check (registry : Registry) (subject : Subject) :
    ContextRule → Except RuleFault (List Diagnostic)
  | require requirement severity =>
    reports subject severity (requirement.failure registry subject)
  | anyOf rules severity =>
    reports subject severity (failure registry subject (.anyOf rules severity))
  | byAttribute branches otherwise =>
    checkBranches registry subject (checkAll registry subject otherwise) branches

/-- The diagnostics of a list of rules, in order. -/
def checkAll (registry : Registry) (subject : Subject) :
    List ContextRule → Except RuleFault (List Diagnostic)
  | [] => .ok []
  | rule :: rest =>
    match rule.check registry subject with
    | .error fault => .error fault
    | .ok found =>
      match checkAll registry subject rest with
      | .error fault => .error fault
      | .ok more => .ok (found ++ more)

/-- The diagnostics of the branch that the attributes choose. -/
def checkBranches (registry : Registry) (subject : Subject)
    (otherwise : Except RuleFault (List Diagnostic)) :
    List (AttributeTest × List ContextRule) → Except RuleFault (List Diagnostic)
  | [] => otherwise
  | (test, rules) :: rest =>
    match subject.attributes? with
    | none => .error .notElement
    | some attributes =>
      if test.holds attributes then checkAll registry subject rules
      else checkBranches registry subject otherwise rest

end

end ContextRule

end HtmlNesting
