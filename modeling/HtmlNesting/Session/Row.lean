import HtmlNesting.Diagnostic
import HtmlNesting.Number.Decimal

/-!
# Rows for export

A row is a finding together with the source it is about. A table has a line for the names of the
columns and one for each row. A field is put in quotes only where it must be: if it holds a comma, a
quote or a line feed; quotes inside are doubled.
-/

namespace HtmlNesting

/-- A finding together with its source, which may have no name. -/
structure Row where
  source : Option String
  finding : Diagnostic
  deriving DecidableEq, Repr

namespace Row

/-- The names of the columns. -/
def columns : List String :=
  ["Source", "Line", "Column", "Severity", "Code", "Tag", "Message", "Rule"]

/-- The fields of a row, in the order of the columns. -/
def fields (row : Row) : List String :=
  [row.source.getD "", Decimal.signedText row.finding.position.line,
    Decimal.signedText row.finding.position.column, row.finding.severity.name, row.finding.code,
    row.finding.tag, row.finding.message, row.finding.rule]

/-- The line a finding is printed as. -/
def printed (row : Row) : String :=
  row.source.getD "" ++ ":" ++ Decimal.signedText row.finding.position.line ++ ":" ++
    Decimal.signedText row.finding.position.column ++ " " ++ row.finding.severity.name ++ " " ++
    row.finding.code ++ " " ++ row.finding.message

end Row

namespace Table

/-- Whether a field with this character is put in quotes. -/
def needsQuotes (c : Char) : Bool :=
  c == ',' || c == '"' || c == '\n'

/-- A field as it stands in a line. -/
def field (s : String) : String :=
  if s.toList.any needsQuotes then
    String.ofList ('"' :: s.toList.flatMap (fun c => if c == '"' then ['"', '"'] else [c]) ++ ['"'])
  else s

/-- A line of a table, with its line feed. -/
def line (fields : List String) : String :=
  String.intercalate "," (fields.map field) ++ "\n"

/-- The text of a table of rows. -/
def text (rows : List Row) : String :=
  String.join (line Row.columns :: rows.map fun row => line row.fields)

end Table

end HtmlNesting
