/-!
# Blanks

Two notions of white space. `isBlank` is the wide one, used for trimming and inside markup.
`isSpace` is the narrow one of HTML: the five characters that may stand between elements without
being content. A no-break space is blank and not a space.
-/

namespace HtmlNesting.Text

/-- White space of any script, with the controls that separate lines and records. -/
def isBlank (c : Char) : Bool :=
  let n := c.toNat
  (9 ≤ n && n ≤ 13) || (28 ≤ n && n ≤ 32) || n == 0x85 || n == 0xa0 || n == 0x1680 ||
    (0x2000 ≤ n && n ≤ 0x200a) || n == 0x2028 || n == 0x2029 || n == 0x202f || n == 0x205f ||
    n == 0x3000

/-- The five characters of inter-element white space: space, tab, line feed, form feed and
carriage return. -/
def isSpace (c : Char) : Bool :=
  c == ' ' || c == '\t' || c == '\n' || c == '\x0c' || c == '\r'

/-- Drops blanks at both ends of a list of characters. -/
def trimChars (cs : List Char) : List Char :=
  ((cs.dropWhile isBlank).reverse.dropWhile isBlank).reverse

/-- Drops blanks at both ends of a text. -/
def trim (s : String) : String :=
  String.ofList (trimChars s.toList)

/-- Whether a text holds nothing but inter-element white space; the empty text does. -/
def isSpaces (s : String) : Bool :=
  s.toList.all isSpace

end HtmlNesting.Text
