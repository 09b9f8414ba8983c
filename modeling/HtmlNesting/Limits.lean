/-!
# Limits

How far things may stand inside each other before a run gives up. These limits are not fixed by what
is read: they depend on how deep a run already is when it comes to it, so everything that has one
takes it as it comes.
-/

namespace HtmlNesting

/-- How far a run can go down. -/
structure Limits where
  /-- The levels of lists and dictionaries that can be read. -/
  nesting : Nat
  /-- The levels of values inside each other that can be shown. -/
  showing : Nat
  /-- The levels of directories that can be searched. -/
  searching : Nat
  deriving DecidableEq, Repr

end HtmlNesting
