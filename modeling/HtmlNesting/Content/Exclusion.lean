import HtmlNesting.Classify
import HtmlNesting.Diagnostic
import HtmlNesting.Walk

/-!
# Excluded descendants

Some elements must not hold certain others at any depth. An exclusion looks at the whole subtree of
an element and reports every descendant that has one of its tags or belongs to one of its
categories.
-/

namespace HtmlNesting

/-- What must not occur inside an element. -/
structure Exclusion where
  tags : List Tag := []
  categories : List Category := []
  severity : Severity := .warn
  deriving DecidableEq, Repr

namespace Exclusion

/-- Whether an element is excluded. -/
def covers (exclusion : Exclusion) (start : StartTag) : Bool :=
  exclusion.tags.contains start.tag || start.categories.any exclusion.categories.contains

/-- The report on an excluded descendant of an element. -/
def report (exclusion : Exclusion) (ancestor descendant : StartTag) : Diagnostic :=
  .atElement .forbiddenDescendant descendant
    (descendant.shown ++ " must not be a descendant of " ++ ancestor.shown) exclusion.severity

/-- The reports on all excluded descendants, in document order. -/
def scan (exclusion : Exclusion) (place : Place) : List Diagnostic :=
  (place.descendants.filter fun descendant => exclusion.covers descendant.start).map
    fun descendant => exclusion.report place.start descendant.start

end Exclusion

/-- The reports of an exclusion that may be missing. -/
def scanFor (exclusion : Option Exclusion) (place : Place) : List Diagnostic :=
  match exclusion with
  | none => []
  | some exclusion => exclusion.scan place

end HtmlNesting
