import HtmlNesting.Dictionary
import HtmlNesting.Markup.Reference
import HtmlNesting.Text.Blank
import HtmlNesting.Text.Case

/-!
# Start tags

How a start tag is taken apart: a name, a gap, attributes with gaps after them, and an end. Almost
anything is accepted. Every part keeps its source, so that positions can be counted and a tag that
turns out not to be one can be taken as text.
-/

namespace HtmlNesting.Markup

/-- Whether a character is an ASCII letter. -/
def isLetter (c : Char) : Bool :=
  ('a' ≤ c && c ≤ 'z') || ('A' ≤ c && c ≤ 'Z')

/-- Whether a character is an ASCII letter or digit. -/
def isLetterOrDigit (c : Char) : Bool :=
  isLetter c || isDecimal c

/-- Whether a character is a quote. -/
def isQuote (c : Char) : Bool :=
  c == '\'' || c == '"'

/-- Whether a character belongs to the name of a tag. -/
def isTagNamePart (c : Char) : Bool :=
  !(c == '\t' || c == '\n' || c == '\r' || c == '\x0c' || c == ' ' || c == '/' || c == '>' ||
    c == '\x00')

/-- Whether a character may start the name of an attribute. -/
def startsAttribute (c : Char) : Bool :=
  !(Text.isBlank c || c == '/' || c == '>')

/-- Whether a character may continue the name of an attribute. -/
def continuesAttribute (c : Char) : Bool :=
  startsAttribute c && c != '='

/-- Whether an attribute may start after a character. -/
def separates (c : Char) : Bool :=
  Text.isBlank c || isQuote c || c == '/'

/-- Whether a character belongs to a value without quotes. -/
def isBareValuePart (c : Char) : Bool :=
  !(Text.isBlank c || c == '>')

/-- Splits off blanks, and slashes that do not end the tag. -/
def splitGap : List Char → List Char × List Char
  | [] => ([], [])
  | c :: rest =>
    if Text.isBlank c || (c == '/' && rest.head? != some '>') then
      let (gap, rest) := splitGap rest
      (c :: gap, rest)
    else ([], c :: rest)

/-- The value of an attribute with its source. -/
structure ValuePart where
  source : List Char
  value : List Char
  rest : List Char

/-- Splits an equals sign with a value off. Of an unclosed quote only a value before it can be had:
an empty one after blanks, or the last of several equals signs with what follows. -/
def valuePart? (cs : List Char) : Option ValuePart :=
  let indent := cs.takeWhile Text.isBlank
  let cs := cs.dropWhile Text.isBlank
  let equals := cs.takeWhile (· == '=')
  let cs := cs.dropWhile (· == '=')
  let blanks := cs.takeWhile Text.isBlank
  let cs := cs.dropWhile Text.isBlank
  let lead := indent ++ equals ++ blanks
  let bare := cs.takeWhile isBareValuePart
  match equals with
  | [] => none
  | _ :: more =>
    match cs with
    | [] => some { source := lead, value := [], rest := [] }
    | quote :: body =>
      if isQuote quote then
        match body.dropWhile (· != quote) with
        | _ :: rest =>
          let value := body.takeWhile (· != quote)
          some { source := lead ++ quote :: value ++ [quote], value, rest }
        | [] =>
          if !blanks.isEmpty then some { source := lead, value := [], rest := cs }
          else if !more.isEmpty then
            some { source := lead ++ bare, value := '=' :: bare, rest := cs.dropWhile isBareValuePart }
          else none
      else
        some { source := lead ++ bare, value := bare, rest := cs.dropWhile isBareValuePart }

/-- An attribute as it is written; without an equals sign it has no value. -/
structure AttributePart where
  source : List Char
  name : List Char
  value : Option (List Char)

/-- Splits an attribute with the gap after it off, if one may start after a character. -/
def attributePart? (previous : Char) (cs : List Char) : Option (AttributePart × List Char) :=
  match cs with
  | [] => none
  | c :: body =>
    if separates previous && startsAttribute c then
      let name := c :: body.takeWhile continuesAttribute
      let rest := body.dropWhile continuesAttribute
      match valuePart? rest with
      | some part =>
        let (gap, rest) := splitGap part.rest
        some ({ source := name ++ part.source ++ gap, name, value := some part.value }, rest)
      | none =>
        let (gap, rest) := splitGap rest
        some ({ source := name ++ gap, name, value := none }, rest)
    else none

/-- Splits as many attributes off as there are. -/
def attributeParts (previous : Char) (cs : List Char) :
    (fuel : Nat) → List AttributePart × List Char
  | 0 => ([], cs)
  | fuel + 1 =>
    match attributePart? previous cs with
    | none => ([], cs)
    | some (part, rest) =>
      let (parts, rest) := attributeParts (part.source.getLast?.getD previous) rest fuel
      (part :: parts, rest)

/-- The name and the value that an attribute has; a missing value is kept apart from an empty one.
-/
def AttributePart.entry (part : AttributePart) : String × Option String :=
  (Text.lower (String.ofList part.name), part.value.map decodeAttribute)

/-- What starts at a less-than sign with a letter after it. -/
inductive StartTagScan where
  /-- The input ends too early. -/
  | unfinished
  /-- No tag after all, but text. -/
  | text (source rest : List Char)
  /-- An attribute value has a reference by a number with this many digits, which is too many. -/
  | refused (digits : Nat)
  | tag (name : String) (attributes : List (String × Option String)) (selfClosed : Bool)
      (source rest : List Char)

/-- The number of digits of the first reference with too many in the values of some attributes. -/
def longValue? (parts : List AttributePart) : Option Nat :=
  parts.findSome? fun part => longReference? (part.value.getD [])

/-- Takes a start tag apart, given what follows the less-than sign. -/
def scanStartTag (fuel : Nat) (cs : List Char) : StartTagScan :=
  let name := cs.takeWhile isTagNamePart
  let cs := cs.dropWhile isTagNamePart
  let gap := cs.takeWhile fun c => Text.isBlank c || c == '/'
  let cs := cs.dropWhile fun c => Text.isBlank c || c == '/'
  let before := '<' :: name ++ gap
  let (parts, rest) := attributeParts (before.getLast?.getD '<') cs fuel
  let source := before ++ parts.flatMap AttributePart.source
  let entries := Dictionary.ofList (parts.map AttributePart.entry)
  let lowered := Text.lower (String.ofList name)
  let found : StartTagScan :=
    match rest with
    | [] => .unfinished
    | '>' :: rest =>
      .tag lowered entries (parts.isEmpty && gap.getLast? == some '/') (source ++ ['>']) rest
    | '/' :: '>' :: rest => .tag lowered entries true (source ++ ['/', '>']) rest
    | c :: _ => if isLetter c || c == '=' || c == '/' then .unfinished else .text source rest
  match found, longValue? parts with
  | .unfinished, _ => .unfinished
  | _, some digits => .refused digits
  | found, none => found

end HtmlNesting.Markup
