import HtmlNesting.Session.Lint

/-!
# Workers

A file is linted by a worker, which may run elsewhere and so hands over plain data: a dictionary
with the source, the findings as dictionaries of their fields and the numbers of their codes, or one
with the source and an error. The one who asked tells the two apart by a key and makes findings of
the fields again, field by field: some must be there, others have defaults, and each must be of its
kind or can be taken for it.
-/

namespace HtmlNesting

/-- The value of a field of a finding. -/
inductive Field where
  | plain (value : Json)
  | severity (value : Severity)

/-- The fields of a finding by their names. -/
abbrev Fields := Dictionary String Field

/-- Why some fields make no finding. -/
inductive FieldFault where
  /-- A field that must be there is not. -/
  | missing (name : String)
  /-- A field is not of its kind. -/
  | invalid (name : String)
  deriving DecidableEq, Repr

namespace Field

/-- The text that a field holds. -/
def text? : Field → Option String
  | plain (.text value) => some value
  | severity value => some value.name
  | _ => none

/-- The severity that a field holds, as such or by its name. -/
def severity? : Field → Option Severity
  | severity value => some value
  | plain (.text name) => Severity.ofName? name
  | _ => none

/-- The whole number that a text is: ASCII digits, and a fraction of zeros. -/
def writtenNumber? (s : String) : Option Int :=
  let cs := Written.core s
  let whole := cs.takeWhile (· != '.')
  if cs.all (·.toNat < 128) && ((cs.dropWhile (· != '.')).drop 1).all (· == '0') then
    Written.integer? (String.ofList whole)
  else none

/-- The whole number that a field holds. Numbers in other forms are taken if they are whole. -/
def number? : Field → Option Int
  | plain (.decimal value) =>
    if value.isFinite && value.floor == value && value.abs < 9223372036854775808.0 then
      (Scalar.truncated value).toOption
    else none
  | plain (.text words) => writtenNumber? words
  | plain other => other.shape.scalar?.bind Scalar.whole?
  | severity _ => none

end Field

namespace Fields

/-- What a field holds, if it is there and of its kind. -/
def required {α : Type} (fields : Fields) (name : String) (read? : Field → Option α) :
    Except FieldFault α :=
  match Dictionary.get? fields name with
  | none => .error (.missing name)
  | some field =>
    match read? field with
    | some value => .ok value
    | none => .error (.invalid name)

/-- What a field holds, or its default if it is not there. -/
def optional {α : Type} (fields : Fields) (name : String) (read? : Field → Option α)
    (default : α) : Except FieldFault α :=
  if Dictionary.has fields name then fields.required name read? else .ok default

/-- The finding that some fields make. -/
def toFinding (fields : Fields) : Except FieldFault Diagnostic := do
  let code ← fields.required "code" Field.text?
  let severity ← fields.required "severity" Field.severity?
  let line ← fields.required "line" Field.number?
  let column ← fields.required "column" Field.number?
  let tag ← fields.optional "tag" Field.text? ""
  let message ← fields.optional "message" Field.text? ""
  let rule ← fields.optional "rule" Field.text? "nest"
  return { code, severity, position := { line, column }, tag, message, rule }

/-- The fields of a finding. -/
def ofFinding (finding : Diagnostic) : Fields := [
  ("code", .plain (.text finding.code)), ("severity", .severity finding.severity),
  ("line", .plain (.integer finding.position.line)),
  ("column", .plain (.integer finding.position.column)), ("tag", .plain (.text finding.tag)),
  ("message", .plain (.text finding.message)), ("rule", .plain (.text finding.rule))]

end Fields

/-- How often each code was found. -/
abbrev CodeCounts := Dictionary String Nat

/-- How often each code was found, one more for a finding. -/
def CodeCounts.add (counts : CodeCounts) (finding : Diagnostic) : CodeCounts :=
  Dictionary.set finding.code ((Dictionary.get? counts finding.code).getD 0 + 1) counts

/-- How many findings are counted. -/
def CodeCounts.total (counts : CodeCounts) : Nat :=
  -- The zero is named, since larger libraries bring others of the same value.
  @List.sum Nat _ Zero.ofOfNat0 (counts.map Prod.snd)

/-- A value in what a worker hands over. -/
inductive WorkerValue where
  | text (value : String)
  | findings (records : List Fields)
  | counts (counts : CodeCounts)

/-- What a worker hands over for a file. -/
abbrev WorkerResult := Dictionary String WorkerValue

namespace WorkerResult

/-- What is handed over for a file that was linted. -/
def ofFindings (source : String) (findings : List Diagnostic) : WorkerResult := [
  ("source", .text source), ("diagnostics", .findings (findings.map Fields.ofFinding)),
  ("stats", .counts (findings.foldl CodeCounts.add []))]

/-- What is handed over for a file that could not be linted. -/
def ofFault (source : String) (fault : LintFault) : WorkerResult := [
  ("error", .text (fault.reason (.ofText source))), ("source", .text source)]

/-- What is handed over for a file with some outcome. -/
def ofOutcome (source : String) : Except LintFault (List Diagnostic) → WorkerResult
  | .ok findings => ofFindings source findings
  | .error fault => ofFault source fault

end WorkerResult

/-- A file that could not be linted. -/
structure FailureNotice where
  source : String
  /-- The fault as log records show it. -/
  shown : String

/-- The words of a notice. -/
def FailureNotice.message (notice : FailureNotice) : String :=
  "Worker failed on " ++ notice.source ++ ": " ++ notice.shown

/-- What a worker tells about a file with some outcome. -/
def FailureNotice.ofOutcome (source : String) :
    Except LintFault (List Diagnostic) → List FailureNotice
  | .ok _ => []
  | .error fault => [{ source, shown := fault.shown }]

end HtmlNesting
