/-!
# Faults of rules

Rules made by hand can be unusable, and a rule for elements can be asked about a text. Such a check
ends with a fault instead of diagnostics; the built-in rules never do when asked about elements.
-/

namespace HtmlNesting

/-- Why a check cannot be carried out. -/
inductive RuleFault where
  /-- A rule without a stated condition was asked. -/
  | unstated
  /-- Alternatives without a single one were asked. -/
  | noAlternative
  /-- A transparent element hands its children on to itself. -/
  | endlessDelegation
  /-- A text was asked for something that only elements have. -/
  | notElement
  /-- A first and a last element child were asked for where there is none. -/
  | noElementChild
  deriving DecidableEq, Repr

/-- Joins the findings of a check over a list, in order, up to the first fault. -/
def gather {α β ε : Type} (check : α → Except ε (List β)) : List α → Except ε (List β)
  | [] => .ok []
  | item :: rest =>
    match check item with
    | .error fault => .error fault
    | .ok found =>
      match gather check rest with
      | .error fault => .error fault
      | .ok more => .ok (found ++ more)

end HtmlNesting
