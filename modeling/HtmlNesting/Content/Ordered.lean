import HtmlNesting.Classify
import HtmlNesting.Content.Quotas
import HtmlNesting.Content.Segment
import HtmlNesting.Content.Shown
import HtmlNesting.Diagnostic

/-!
# Ordered models

Children in a fixed order of segments, such as the parts of a table. A child outside the grammar is
not allowed. The children of the grammar are matched against the segments; every child that the
longest match leaves out is out of order, or one too many when its tag occurs more often than the
grammar permits at all. Caps bound a tag across all segments, and exclusive families must not occur
together.
-/

namespace HtmlNesting

/-- Children in the order of some segments. -/
structure Ordered where
  segments : List Segment
  caps : Quotas := .unbounded
  /-- Pairs of tag families that must not both occur. -/
  exclusive : List (List Tag × List Tag) := []
  /-- Whether script-supporting elements may stand anywhere. -/
  scriptSupporting : Bool := false
  severity : Severity := .warn

namespace Ordered

/-- The tags of all segments. -/
def grammarTags (ordered : Ordered) : List Tag :=
  ordered.segments.flatMap Segment.tags

/-- How often a tag may occur at most, if that is bounded. -/
def allowance (ordered : Ordered) (tag : Tag) : Option Int :=
  let maxima := (ordered.segments.filter fun segment => segment.tags.contains tag).map Segment.max
  let total : Option Int :=
    if maxima.all Option.isSome then some ((maxima.filterMap id).foldl (· + ·) 0) else none
  match ordered.caps.get? tag, total with
  | none, total => total
  | some cap, none => some cap
  | some cap, some total => if cap < total then some cap else some total

/-- Whether a child takes part in the check. -/
def isRelevant (ordered : Ordered) (child : Node) : Bool :=
  !child.isSpaces && !(ordered.scriptSupporting && child.isScriptSupporting)

/-- The start tag of a child that belongs to the grammar. -/
def grammarChild? (ordered : Ordered) (child : Node) : Option StartTag :=
  match child.start? with
  | none => none
  | some start => if ordered.grammarTags.contains start.tag then some start else none

/-- The relevant children that belong to the grammar. -/
def grammarChildren (ordered : Ordered) (children : List Node) : List StartTag :=
  (children.filter ordered.isRelevant).filterMap ordered.grammarChild?

/-- The relevant children that do not belong to the grammar. -/
def strays (ordered : Ordered) (children : List Node) : List Node :=
  (children.filter ordered.isRelevant).filter fun child => (ordered.grammarChild? child).isNone

/-- The report on a child outside the grammar. -/
def strayReport (ordered : Ordered) (parent : StartTag) (child : Node) : Diagnostic :=
  .atNode .notAllowed child (child.shown ++ " is not allowed in " ++ parent.shown) ordered.severity

/-- The report on a child left out by the longest match, among children with some tags. -/
def droppedReport (ordered : Ordered) (parent : StartTag) (tags : List Tag) (child : StartTag) :
    Diagnostic :=
  let outOfOrder := Diagnostic.atElement .outOfOrder child
    (child.shown ++ " is out of order in " ++ parent.shown) ordered.severity
  match ordered.allowance child.tag with
  | none => outOfOrder
  | some allowance =>
    if allowance < (tags.count child.tag : Int) then
      .atElement .tooMany child
        (parent.shown ++ " must not contain more than " ++ toString allowance ++ " " ++ child.shown)
        ordered.severity
    else outOfOrder

/-- The reports on children left out by the longest match. -/
def droppedReports (ordered : Ordered) (parent : StartTag) (grammar : List StartTag)
    (kept : List Nat) : List Diagnostic :=
  (grammar.zipIdx.filter fun item => !kept.contains item.2).map fun item =>
    ordered.droppedReport parent (grammar.map StartTag.tag) item.1

/-- The reports on kept children beyond the cap of their tag. -/
def capReports (ordered : Ordered) (parent : StartTag) (grammar : List StartTag)
    (kept : List Nat) : List Diagnostic :=
  ordered.caps.entries.flatMap fun (tag, cap) =>
    (grammar.zipIdx.filter fun item =>
      item.1.tag == tag && kept.contains item.2 &&
        decide (cap < (((grammar.take (item.2 + 1)).map StartTag.tag).count tag : Int))).map fun item =>
      .atElement .tooMany item.1
        (parent.shown ++ " must not contain more than " ++ toString cap ++ " " ++ tag.shown)
        ordered.severity

/-- The segments that must not be empty and have none of their tags among some tags. -/
def missing (ordered : Ordered) (tags : List Tag) : List Segment :=
  ordered.segments.filter fun segment =>
    decide (0 < segment.min) && !tags.any segment.tags.contains

/-- The report on missing segments. -/
def missingReports (ordered : Ordered) (parent : StartTag) (tags : List Tag) : List Diagnostic :=
  match ordered.missing tags with
  | [] => []
  | segments =>
    let names := segments.map fun segment => String.intercalate "/" (Tag.allShown segment.tags)
    [.atElement .missingRequired parent
      (parent.shown ++ " is missing required " ++ String.intercalate ", " names) ordered.severity]

/-- The reports on families that occur together, each at the first child of the later family. -/
def conflictReports (ordered : Ordered) (parent : StartTag) (grammar : List StartTag) :
    List Diagnostic :=
  ordered.exclusive.filterMap fun (first, second) => do
    let tags := grammar.map StartTag.tag
    let firstIndex ← tags.findIdx? first.contains
    let secondIndex ← tags.findIdx? second.contains
    let offender ← grammar[max firstIndex secondIndex]?
    some (.atElement .exclusiveConflict offender
      (parent.shown ++ " must not mix " ++ String.intercalate "/" (Tag.allNames first) ++ " and " ++
        String.intercalate "/" (Tag.allNames second) ++ " children") ordered.severity)

/-- Checks a list of children of an element. -/
def checkChildren (ordered : Ordered) (parent : StartTag) (children : List Node) :
    List Diagnostic :=
  let grammar := ordered.grammarChildren children
  let tags := grammar.map StartTag.tag
  let kept := longestMatch ordered.segments tags
  (ordered.strays children).map (ordered.strayReport parent) ++
    ordered.droppedReports parent grammar kept ++ ordered.capReports parent grammar kept ++
    ordered.missingReports parent tags ++ ordered.conflictReports parent grammar

/-- The codes the model may report. -/
def codes : List Code :=
  [.notAllowed, .outOfOrder, .tooMany, .missingRequired, .exclusiveConflict]

end Ordered

end HtmlNesting
