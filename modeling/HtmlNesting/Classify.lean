import HtmlNesting.Category
import HtmlNesting.Node

/-!
# Classification

The categories of a node follow from its tag and its attributes alone, never from where it stands.
Text that is content counts as flow and phrasing content. Categories are listed in one fixed order.
-/

namespace HtmlNesting

/-- Categories that an element gains by an attribute. -/
structure Conditional where
  attr : String
  adds : List Category
  /-- With no value the presence of the attribute decides; with a value the categories are gained
  unless the attribute has it. -/
  unlessValue : Option String := none
  deriving DecidableEq, Repr

namespace Conditional

/-- Categories gained when an attribute is present. -/
def whenPresent (attr : String) (adds : List Category) : Conditional :=
  { attr, adds }

/-- Categories gained unless an attribute has a value, in any case. -/
def unlessEquals (attr value : String) (adds : List Category) : Conditional :=
  { attr, adds, unlessValue := some (Text.lower value) }

/-- Whether the categories are gained under some attributes. -/
def applies (conditional : Conditional) (attributes : Attributes) : Bool :=
  match conditional.unlessValue with
  | some value => attributes.folded conditional.attr != value
  | none => attributes.has conditional.attr

end Conditional

/-- The categories an element may gain by its attributes. -/
def Tag.conditionals : Tag → List Conditional
  | .img => [.whenPresent "usemap" [.interactive]]
  | .object => [.whenPresent "usemap" [.interactive]]
  | .video => [.whenPresent "controls" [.interactive]]
  | .audio => [.whenPresent "controls" [.interactive, .palpable]]
  | .input => [.unlessEquals "type" "hidden" [.interactive, .palpable]]
  | .link => [.whenPresent "itemprop" [.flow, .phrasing]]
  | .metaTag => [.whenPresent "itemprop" [.flow, .phrasing]]
  | _ => []

/-- The categories of an element. -/
def StartTag.categories (start : StartTag) : List Category :=
  Category.all.filter fun category =>
    category.members.contains start.tag ||
      start.tag.conditionals.any fun conditional =>
        conditional.applies start.attributes && conditional.adds.contains category

/-- The categories of text that is content. -/
def textCategories : List Category := [.flow, .phrasing]

namespace Node

/-- The categories of a node; white space between elements has none. -/
def categories : Node → List Category
  | .text data _ => if Text.isSpaces data then [] else textCategories
  | .element start _ => start.categories

/-- Whether a node may fill a slot that asks for a category. -/
def fills (node : Node) (slot : Category) : Bool :=
  node.categories.any slot.accepts

/-- Whether a node is an element that supports scripts. -/
def isScriptSupporting : Node → Bool
  | .text _ _ => false
  | .element start _ => start.categories.contains .scriptSupporting

end Node

end HtmlNesting
