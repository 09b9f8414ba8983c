import HtmlNesting.Rulebook.Flow
import HtmlNesting.Rulebook.Page
import HtmlNesting.Rulebook.Phrasing
import HtmlNesting.Validate

/-!
# The built-in rules

All rules that come with the library, as rule sets, and the registry they fill.
-/

namespace HtmlNesting

/-- The built-in rule sets, in the order in which they are registered, which is that of their
names. -/
def Rulebook.ruleSets : List RuleSet := [
  { name := "document", definitions := Rulebook.document.map some },
  { name := "edits", definitions := Rulebook.edits.map some },
  { name := "embedded", definitions := Rulebook.embedded.map some },
  { name := "grouping", definitions := Rulebook.grouping.map some },
  { name := "metadata", definitions := Rulebook.headMatter.map some },
  { name := "sections", definitions := Rulebook.sections.map some },
  { name := "tabular", definitions := Rulebook.tables.map some },
  { name := "text", definitions := Rulebook.text.map some }]

/-- The registry of the built-in rules. -/
def Registry.builtin : Registry :=
  (Registry.discover Rulebook.ruleSets).registry

/-- The findings about a tree under the built-in rules. -/
def validate (tree : Tree) : Except RuleFault (List Diagnostic) :=
  Registry.builtin.validate tree

end HtmlNesting
