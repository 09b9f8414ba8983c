import HtmlNesting.Files.Tree
import HtmlNesting.Rulebook
import HtmlNesting.Session.Preferences
import HtmlNesting.Session.Tools

/-!
# Linting one source

Markup is parsed, the tree validated under the built-in rules and the findings adjusted to the
preferences. A file is read as text first.
-/

namespace HtmlNesting

/-- Why a source cannot be linted. -/
inductive LintFault where
  | unreadable (fault : TextFault)
  | rejected (rejection : Markup.Rejection)
  | unusable (fault : RuleFault)

namespace RuleFault

/-- The words for a fault of the rules. -/
def message : RuleFault → String
  | unstated => "a rule states no condition"
  | noAlternative => "a rule has no alternatives"
  | endlessDelegation => "an element hands its children on to itself"
  | notElement => "a text is no element"
  | noElementChild => "there is no element child"

/-- The name of the kind of a fault of the rules. -/
def kindName : RuleFault → String
  | unstated => "NotImplementedError"
  | noAlternative => "IndexError"
  | endlessDelegation => "RecursionError"
  | notElement => "AttributeError"
  | noElementChild => "IndexError"

end RuleFault

namespace LintFault

/-- The message of a fault at a path. -/
def message (path : Path) : LintFault → String
  | unreadable fault => fault.message path
  | rejected rejection => rejection.message
  | unusable fault => fault.message

/-- The name of the kind of a fault. -/
def kindName : LintFault → String
  | unreadable (.access fault) => fault.kindName
  | unreadable (.bytes _ _) => "UnicodeDecodeError"
  | rejected rejection => rejection.kindName
  | unusable fault => fault.kindName

/-- The reason that is kept for a fault at a path: its message, or its kind if that says nothing. -/
def reason (fault : LintFault) (path : Path) : String :=
  if (fault.message path).isEmpty then fault.kindName else fault.message path

/-- A fault as log records show it. -/
def shown : LintFault → String
  | unreadable fault => fault.shown
  | rejected rejection => rejection.shown
  | unusable fault => Text.quoted fault.message

end LintFault

namespace Preferences

/-- The findings about some markup. -/
def lintMarkup (preferences : Preferences) (tools : Tools) (markup : String)
    (source : Option String) : Except LintFault (List Diagnostic) :=
  match tools.document markup source with
  | .error rejection => .error (.rejected rejection)
  | .ok document =>
    match validate document.tree with
    | .error fault => .error (.unusable fault)
    | .ok findings => .ok (preferences.adjust findings)

/-- The findings about the markup in a file, given the text of its path. -/
def lintFile (preferences : Preferences) (tools : Tools) (files : FileSystem) (source : String) :
    Except LintFault (List Diagnostic) :=
  match files.readText (.ofText source) with
  | .error fault => .error (.unreadable fault)
  | .ok markup => preferences.lintMarkup tools markup (some source)

end Preferences

end HtmlNesting
