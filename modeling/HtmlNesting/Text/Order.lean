/-!
# Sorted lists without repetition

Lists of names, codes and paths are shown in increasing order, each item once. `distinctSorted`
sorts and then drops equal neighbours. Texts are ordered by code point.
-/

namespace HtmlNesting.Text

/-- Drops every item that equals its successor. -/
def dropRepeats {α : Type} [BEq α] : List α → List α
  | [] => []
  | [x] => [x]
  | x :: y :: rest => if x == y then dropRepeats (y :: rest) else x :: dropRepeats (y :: rest)

/-- The distinct items of a list in increasing order. -/
def distinctSorted {α : Type} [BEq α] (le : α → α → Bool) (xs : List α) : List α :=
  dropRepeats (xs.mergeSort le)

/-- Whether one list of characters comes before another, or is equal to it, by code point. -/
def charsLe : List Char → List Char → Bool
  | [], _ => true
  | _ :: _, [] => false
  | a :: as, b :: bs =>
    if a.toNat == b.toNat then charsLe as bs else Nat.blt a.toNat b.toNat

/-- Whether one text comes before another, or is equal to it, by code point. -/
def textLe (s t : String) : Bool :=
  charsLe s.toList t.toList

/-- The distinct texts of a list in increasing order. -/
def sortedTexts (xs : List String) : List String :=
  distinctSorted textLe xs

end HtmlNesting.Text
