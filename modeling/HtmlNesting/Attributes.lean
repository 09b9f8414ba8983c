import HtmlNesting.Dictionary
import HtmlNesting.Text.Blank
import HtmlNesting.Text.Case

/-!
# Attributes

The attributes of an element are a dictionary from names to texts. Presence and value are asked
for separately: enumerated attributes are compared trimmed and in lower case, and a missing one
compares like an empty one.
-/

namespace HtmlNesting

/-- The attributes of an element. -/
abbrev Attributes := Dictionary String String

namespace Attributes

/-- Whether an attribute is present, whatever its value. -/
def has (attributes : Attributes) (name : String) : Bool :=
  Dictionary.has attributes name

/-- The value of an attribute as enumerated values are compared: trimmed, in lower case, and
empty when the attribute is missing. -/
def folded (attributes : Attributes) (name : String) : String :=
  Text.lower (Text.trim ((Dictionary.get? attributes name).getD ""))

end Attributes

/-- A question about the attributes of an element. -/
inductive AttributeTest where
  /-- The attribute is present. -/
  | present (name : String)
  /-- The attribute has the value, without regard to case and surrounding blanks. -/
  | equals (name value : String)
  deriving DecidableEq, Repr

namespace AttributeTest

/-- Answers the question. -/
def holds (attributes : Attributes) : AttributeTest → Bool
  | present name => attributes.has name
  | equals name value => attributes.folded name == Text.lower value

end AttributeTest

end HtmlNesting
