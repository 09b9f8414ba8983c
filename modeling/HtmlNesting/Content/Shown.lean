import HtmlNesting.Tag
import HtmlNesting.Text.Order

/-!
# How rules show tags

Messages list the tags of a rule in alphabetical order, each once.
-/

namespace HtmlNesting

namespace Tag

/-- A tag as messages show it. -/
def shown (tag : Tag) : String :=
  "<" ++ tag.name ++ ">"

/-- Some tags as messages show them, in alphabetical order. -/
def allShown (tags : List Tag) : List String :=
  Text.sortedTexts (tags.map shown)

/-- The names of some tags in alphabetical order. -/
def allNames (tags : List Tag) : List String :=
  Text.sortedTexts (tags.map name)

end Tag

end HtmlNesting
