import HtmlNesting.Text.Quoted

/-!
# Events of markup

What markup consists of when it is read from left to right: character data, start tags, end tags,
and markup that is not part of the content. Only a marked section of an unknown kind and a reference
by a number with too many digits are refused.
-/

namespace HtmlNesting.Markup

/-- Markup that is not part of the content. -/
inductive Aside where
  | comment | doctype | characterData | declaration | instruction
  deriving DecidableEq, Repr

/-- A place in the input: a line counted from one, and the characters before it on that line. -/
structure Origin where
  line : Nat := 1
  offset : Nat := 0
  deriving DecidableEq, Repr

/-- The place after a character. -/
def Origin.after (origin : Origin) (c : Char) : Origin :=
  if c = '\n' then { line := origin.line + 1, offset := 0 }
  else { origin with offset := origin.offset + 1 }

/-- What the scanner finds in the input. -/
inductive Event where
  | data (text : List Char)
  | start (name : String) (attributes : List (String × Option String)) (selfClosed : Bool)
      (origin : Origin)
  | finish (name : String)
  | aside (kind : Aside)

/-- Why markup is refused. -/
inductive Rejection where
  /-- A marked section of a kind that does not exist. -/
  | unknownSection (keyword : String)
  /-- A marked section without a kind; the markup there is kept. -/
  | namelessSection (source : String)
  /-- A reference by a decimal number with this many digits. -/
  | longNumber (digits : Nat)
  deriving DecidableEq, Repr

namespace Rejection

/-- The words for a marked section that cannot be read. -/
def aboutSection (reason : String) : String :=
  "The markup you provided was rejected by the parser. Trying a different parser or a different " ++
    "encoding may help.\n\nOriginal exception(s) from parser:\n AssertionError: " ++ reason

/-- The words for refused markup. -/
def message : Rejection → String
  | unknownSection keyword =>
    aboutSection ("unknown status keyword " ++ Text.quoted keyword ++ " in marked section")
  | namelessSection source => aboutSection ("expected name token at " ++ Text.quoted source)
  | longNumber digits =>
    "Exceeds the limit (4300 digits) for integer string conversion: value has " ++
      toString digits ++ " digits; use sys.set_int_max_str_digits() to increase the limit"

/-- The name of the kind of a rejection in log records. -/
def kindName : Rejection → String
  | unknownSection _ => "ParserRejectedMarkup"
  | namelessSection _ => "ParserRejectedMarkup"
  | longNumber _ => "ValueError"

/-- A rejection as log records show it. -/
def shown (rejection : Rejection) : String :=
  rejection.kindName ++ "(" ++ Text.quoted rejection.message ++ ")"

end Rejection

end HtmlNesting.Markup
