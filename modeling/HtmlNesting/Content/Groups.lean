import HtmlNesting.Classify
import HtmlNesting.Content.Shown
import HtmlNesting.Diagnostic

/-!
# Grouped models

Children in groups, each some children of a first tag followed by some of a second, such as terms
and descriptions. Script-supporting children are passed over. Strays are reported one by one, a
broken group structure once, at the child where it breaks.
-/

namespace HtmlNesting

/-- Groups of `first` children followed by `second` children. -/
structure Groups where
  first : Tag
  second : Tag
  severity : Severity := .warn
  deriving DecidableEq, Repr

namespace Groups

/-- Whether a child takes part in the check. -/
def isRelevant (child : Node) : Bool :=
  !child.isSpaces && !child.isScriptSupporting

/-- The start tag of a child with one of the two tags. -/
def part? (groups : Groups) (child : Node) : Option StartTag :=
  match child.start? with
  | none => none
  | some start =>
    if start.tag = groups.first ∨ start.tag = groups.second then some start else none

/-- The relevant children with one of the two tags. -/
def parts (groups : Groups) (children : List Node) : List StartTag :=
  (children.filter isRelevant).filterMap groups.part?

/-- The other relevant children. -/
def strays (groups : Groups) (children : List Node) : List Node :=
  (children.filter isRelevant).filter fun child => (groups.part? child).isNone

/-- The report on a child with neither tag. -/
def strayReport (groups : Groups) (parent : StartTag) (child : Node) : Diagnostic :=
  .atNode .notAllowed child
    (child.shown ++ " is not allowed in " ++ parent.shown ++ ", expected " ++ groups.first.shown ++
      " or " ++ groups.second.shown) groups.severity

/-- The report on the first of some parts that does not open a group. -/
def openingReport (groups : Groups) (parent part : StartTag) : Diagnostic :=
  .atElement .groupBroken part
    (part.shown ++ " must follow a " ++ groups.first.shown ++ " in " ++ parent.shown)
    groups.severity

/-- The report on a last group that is not completed. -/
def closingReport (groups : Groups) (parent part : StartTag) : Diagnostic :=
  .atElement .groupBroken part
    (groups.first.shown ++ " must be followed by a " ++ groups.second.shown ++ " in " ++
      parent.shown) groups.severity

/-- The first of the `first` children that end a list of parts given last part first. -/
def lastOpening (groups : Groups) (last : StartTag) (earlier : List StartTag) : StartTag :=
  ((earlier.takeWhile fun part => part.tag == groups.first).getLast?).getD last

/-- The report on a broken group structure. -/
def breakReports (groups : Groups) (parent : StartTag) (parts : List StartTag) : List Diagnostic :=
  match parts, parts.reverse with
  | first :: _, last :: earlier =>
    if first.tag ≠ groups.first then [groups.openingReport parent first]
    else if last.tag ≠ groups.second then
      [groups.closingReport parent (groups.lastOpening last earlier)]
    else []
  | _, _ => []

/-- Checks a list of children of an element. -/
def checkChildren (groups : Groups) (parent : StartTag) (children : List Node) : List Diagnostic :=
  (groups.strays children).map (groups.strayReport parent) ++
    groups.breakReports parent (groups.parts children)

/-- The codes the model may report. -/
def codes : List Code :=
  [.notAllowed, .groupBroken]

end Groups

end HtmlNesting
