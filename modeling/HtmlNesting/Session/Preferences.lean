import HtmlNesting.Diagnostic
import HtmlNesting.Settings.Cast
import HtmlNesting.Text.Order

/-!
# Preferences

What a user wants done with findings: codes that are not to be reported at all, and severities other
than those of the rules. Both come as settings values. `adjust` applies them to findings and keeps
their order.

Any value whose members can be told apart names codes; members other than texts name none. A
severity is written in any case, and one that does not exist is passed over with a notice.
-/

namespace HtmlNesting

/-- Why a settings value does not say what is to be done. -/
inductive PreferenceFault where
  /-- The value is of a kind that cannot be used. -/
  | unsuitable
  /-- The value is no dictionary. -/
  | notDictionary
  /-- The number is too large. -/
  | tooLarge
  deriving DecidableEq, Repr

/-- The text a value is, if it is one. -/
def Scalar.text? : Scalar → Option String
  | text value => some value
  | _ => none

/-- The text a value is, if it is one. -/
def Json.text? (value : Json) : Option String :=
  value.shape.scalar?.bind Scalar.text?

namespace Preferences

/-- The values as a set: of those that count as one the first stays. -/
def distinct (values : List Json) : Except PreferenceFault (List Scalar) :=
  match values.mapM fun value => value.shape.scalar? with
  | none => .error .unsuitable
  | some members =>
    .ok (members.foldl (fun kept member =>
      if kept.any member.sameMember then kept else kept ++ [member]) [])

/-- Values in order. Texts can be put in order, and numbers, but nothing else. -/
def inOrder (values : List Scalar) : Except PreferenceFault (List Scalar) :=
  if values.length ≤ 1 then .ok values
  else if values.all fun value => value.text?.isSome then
    .ok ((Text.sortedTexts (values.filterMap Scalar.text?)).map .text)
  else if values.all Scalar.isNumber then .ok (values.mergeSort Scalar.numberLe)
  else .error .unsuitable

/-- The members of a settings value. -/
def membersOf (value : Json) : Except PreferenceFault (List Json) :=
  match value.members with
  | .ok members => .ok members
  | .error _ => .error .unsuitable

/-- The members of a settings value as a set. -/
def memberSet (value : Json) : Except PreferenceFault (List Scalar) := do
  distinct (← membersOf value)

/-- The codes that a settings value names, in order. A value that counts as false names none. -/
def codesOf (value : Json) : Except PreferenceFault (List Scalar) := do
  if value.truth then inOrder (← memberSet value) else return []

end Preferences

/-- A severity that does not exist, given for a code. -/
structure SeverityNotice where
  code : Scalar
  value : Json

/-- The words of a notice. -/
def SeverityNotice.message (notice : SeverityNotice) : String :=
  "Ignoring severity override " ++ notice.code.asText ++ "=" ++ notice.value.shown ++
    ": expected WARN or ERROR"

namespace Severity

/-- The severity that a settings value stands for, written in any case. -/
def ofSetting? (value : Json) : Option Severity :=
  ofName? (Text.upper value.asText)

end Severity

/-- Severities by code. What is no text is the code of nothing. -/
abbrev Overrides := Dictionary Scalar Severity

namespace Overrides

/-- The severities in the entries of a dictionary. -/
def ofEntries : List (Scalar × Json) → Overrides × List SeverityNotice
  | [] => ([], [])
  | (code, value) :: rest =>
    let others := ofEntries rest
    match Severity.ofSetting? value with
    | some severity => ((code, severity) :: others.1, others.2)
    | none => (others.1, { code, value } :: others.2)

/-- The severities that a settings value gives. A value that counts as false gives none. -/
def ofSetting (value : Json) : Except PreferenceFault (Overrides × List SeverityNotice) :=
  match value with
  | .dictionary entries => .ok (ofEntries entries)
  | other => if other.truth then .error .notDictionary else .ok ([], [])

end Overrides

/-- What is to be done with findings. -/
structure Preferences where
  /-- The codes that are not reported. -/
  disabled : List String := []
  overrides : Overrides := []

namespace Preferences

/-- A finding with the severity that is wanted for its code. -/
def regrade (preferences : Preferences) (finding : Diagnostic) : Diagnostic :=
  match Dictionary.get? preferences.overrides (.text finding.code) with
  | some severity => { finding with severity }
  | none => finding

/-- The findings that are reported, with their severities, in order. -/
def adjust (preferences : Preferences) (findings : List Diagnostic) : List Diagnostic :=
  (findings.filter fun finding => !preferences.disabled.contains finding.code).map
    preferences.regrade

end Preferences

end HtmlNesting
