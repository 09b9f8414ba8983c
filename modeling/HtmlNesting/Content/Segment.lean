import HtmlNesting.Dictionary
import HtmlNesting.Tag

/-!
# Segments and the longest match

An ordered grammar is a list of segments: a run of children with some tags for each, one run after
another, each within its maximum. `longestMatch` finds the longest selection of a list of tags that
fits into the segments, and of equally long ones one that ends earliest.

The search goes through the tags once. It remembers, for every `Cell` that some selection has
reached, the longest selection that ends there: the current segment, and how many items it holds if
it has a maximum. Cells stand in the order in which they were first reached; a selection is replaced
only by a longer one.
-/

namespace HtmlNesting

/-- One step of an ordered grammar: a run of children with one of some tags. -/
structure Segment where
  tags : List Tag
  min : Int := 0
  max : Option Int := none
  deriving DecidableEq, Repr

/-- Where a selection stands: in no segment yet, or in one with a number of items taken. -/
structure Cell where
  segment : Option Nat
  taken : Nat
  deriving DecidableEq, Repr

namespace Segment

/-- The cell that one more item with a tag leads to in the segment at an index, if it fits. -/
def take? (segment : Segment) (index : Nat) (tag : Tag) (cell : Cell) : Option Cell :=
  if segment.tags.contains tag then
    if cell.segment = some index then
      match segment.max with
      | none => some { segment := some index, taken := 1 }
      | some max =>
        if max < (cell.taken : Int) + 1 then none
        else some { segment := some index, taken := cell.taken + 1 }
    else if segment.max = some 0 then none
    else some { segment := some index, taken := 1 }
  else none

end Segment

/-- The cells that one more item leads to, in the order of the segments. No segment before the
current one is entered again. -/
def Cell.next (segments : List Segment) (tag : Tag) (cell : Cell) : List Cell :=
  segments.zipIdx.filterMap fun (segment, index) =>
    if index < cell.segment.getD 0 then none else segment.take? index tag cell

/-- The selections found so far: for each reached cell the indices taken, latest first. -/
abbrev MatchTable := Dictionary Cell (List Nat)

namespace MatchTable

/-- Offers a selection for a cell; it is kept if the cell is new or the selection longer. -/
def offer (table : MatchTable) (cell : Cell) (picked : List Nat) : MatchTable :=
  match Dictionary.get? table cell with
  | none => Dictionary.set cell picked table
  | some known => if known.length < picked.length then Dictionary.set cell picked table else table

/-- Extends every selection found so far by an item, where it fits. -/
def extend (segments : List Segment) (table : MatchTable) (item : Tag × Nat) : MatchTable :=
  table.foldl (fun updated entry =>
    (entry.1.next segments item.1).foldl (fun updated cell =>
      updated.offer cell (item.2 :: entry.2)) updated) table

/-- The table before any item: nothing is taken. -/
def start : MatchTable := [({ segment := none, taken := 0 }, [])]

/-- Whether a selection is longer than another, or as long and ends earlier. -/
def isBetter (picked other : List Nat) : Bool :=
  other.length < picked.length ||
    (other.length == picked.length &&
      match picked, other with
      | last :: _, otherLast :: _ => last < otherLast
      | _, _ => false)

/-- The first of the best selections. -/
def best (table : MatchTable) : List Nat :=
  table.foldl (fun found entry => if isBetter entry.2 found then entry.2 else found) []

end MatchTable

/-- The indices of the longest selection of some tags that fits into the segments. -/
def longestMatch (segments : List Segment) (tags : List Tag) : List Nat :=
  (tags.zipIdx.foldl (MatchTable.extend segments) MatchTable.start).best.reverse

end HtmlNesting
