import HtmlNesting.Markup.Document
import HtmlNesting.Session.Row

/-!
# Tools

What a session leaves to others: the parser that makes an outline of markup, and the writer that
makes a text of a table. What a session keeps and shows is the same whatever these do.
-/

namespace HtmlNesting

/-- A parser of markup and a writer of tables. -/
structure Tools where
  outline : List Char → Except Markup.Rejection (List Markup.Outline)
  table : List Row → String

namespace Tools

/-- The document in some markup. -/
def document (tools : Tools) (markup : String) (source : Option String) :
    Except Markup.Rejection Markup.Document :=
  Markup.Document.parseBy tools.outline markup source

/-- The parser and the writer in use. -/
def standard : Tools where
  outline := Markup.Outline.parse
  table := Table.text

end Tools

end HtmlNesting
