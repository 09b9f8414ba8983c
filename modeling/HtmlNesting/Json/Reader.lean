import HtmlNesting.Json.Value

/-!
# Reading JSON

A strict reader, except that it also takes the three words for doubles that are not finite. Of equal
keys in a dictionary the last value counts, in the place of the first. Lists and dictionaries may
not be nested more levels deep than the reader can go.

Escapes can spell half a character. A text cannot hold one, so reading stops at a half without its
other half.

The reader works on the characters that remain. A failure tells what is wrong and how many
characters remained where it was found; `Misread.message` makes a line and a column of that.
-/

namespace HtmlNesting.Json

/-- What is wrong at a point of a JSON text. -/
inductive Mistake where
  | expectedValue | expectedName | expectedColon | expectedComma
  | unterminated | control | badEscape | badNumberedEscape
  | extraData | byteOrderMark
  deriving DecidableEq, Repr

/-- The words for a mistake. -/
def Mistake.message : Mistake → String
  | expectedValue => "Expecting value"
  | expectedName => "Expecting property name enclosed in double quotes"
  | expectedColon => "Expecting ':' delimiter"
  | expectedComma => "Expecting ',' delimiter"
  | unterminated => "Unterminated string starting at"
  | control => "Invalid control character at"
  | badEscape => "Invalid \\escape"
  | badNumberedEscape => "Invalid \\uXXXX escape"
  | extraData => "Extra data"
  | byteOrderMark => "Unexpected UTF-8 BOM (decode using utf-8-sig)"

/-- Why reading stopped. -/
inductive Stop where
  /-- A mistake, and the number of characters that remained there. -/
  | mistake (found : Mistake) (remaining : Nat)
  /-- An integer with too many digits. -/
  | longInteger
  /-- A list or a dictionary inside too many others. -/
  | tooDeep
  /-- Half a character without the other half. -/
  | unpaired
  deriving DecidableEq, Repr

/-- What reading gives: a result and the characters after it. -/
abbrev Reading (α : Type) := Except Stop (α × List Char)

/-- White space between the parts of a text. -/
def isGap (c : Char) : Bool :=
  c == ' ' || c == '\t' || c == '\n' || c == '\r'

/-- Drops white space. -/
def skipGap (cs : List Char) : List Char :=
  cs.dropWhile isGap

/-- The value of a hexadecimal digit. -/
def hexValue? (c : Char) : Option Nat :=
  if '0' ≤ c ∧ c ≤ '9' then some (c.toNat - '0'.toNat)
  else if 'a' ≤ c ∧ c ≤ 'f' then some (c.toNat - 'a'.toNat + 10)
  else if 'A' ≤ c ∧ c ≤ 'F' then some (c.toNat - 'A'.toNat + 10)
  else none

/-- The value of four hexadecimal digits. -/
def fourHex? (a b c d : Char) : Option Nat := do
  let a ← hexValue? a
  let b ← hexValue? b
  let c ← hexValue? c
  let d ← hexValue? d
  return 4096 * a + 256 * b + 16 * c + d

/-- The character of a single-letter escape. -/
def escaped? : Char → Option Char
  | '"' => some '"'
  | '\\' => some '\\'
  | '/' => some '/'
  | 'b' => some '\x08'
  | 'f' => some '\x0c'
  | 'n' => some '\n'
  | 'r' => some '\r'
  | 't' => some '\t'
  | _ => none

/-- Whether a code unit is the first half of a pair. -/
def isHighHalf (unit : Nat) : Bool :=
  0xd800 ≤ unit && unit < 0xdc00

/-- Whether a code unit is the second half of a pair. -/
def isLowHalf (unit : Nat) : Bool :=
  0xdc00 ≤ unit && unit < 0xe000

/-- The character of a code unit by itself, with what remains after it. -/
def wholeUnit (unit : Nat) (rest : List Char) : Reading Char :=
  if isHighHalf unit || isLowHalf unit then .error .unpaired else .ok (Char.ofNat unit, rest)

/-- Reads the four digits after the start of a numbered escape and, after a first half, the second
one. There must be a character after the digits. -/
def numberedEscape (cs : List Char) : Reading Char :=
  match cs with
  | a :: b :: c :: d :: next :: rest =>
    match fourHex? a b c d with
    | none => .error (.mistake .badNumberedEscape (cs.length + 1))
    | some unit =>
      match isHighHalf unit, next, rest with
      | true, '\\', 'u' :: e :: f :: g :: h :: after :: rest =>
        match fourHex? e f g h with
        | none => .error (.mistake .badNumberedEscape (rest.length + 6))
        | some second =>
          if isLowHalf second then
            .ok (Char.ofNat (0x10000 + (unit - 0xd800) * 0x400 + (second - 0xdc00)), after :: rest)
          else
            wholeUnit unit ('\\' :: 'u' :: e :: f :: g :: h :: after :: rest)
      | _, _, _ => wholeUnit unit (next :: rest)
  | _ => .error (.mistake .badNumberedEscape (cs.length + 1))

/-- Reads the rest of a string after its opening quote. `opened` is the number of characters that
remained at the quote, and `read` the characters so far, latest first. -/
def stringRest (opened : Nat) (read : List Char) : (fuel : Nat) → List Char → Reading String
  | 0, _ => .error (.mistake .unterminated opened)
  | _ + 1, [] => .error (.mistake .unterminated opened)
  | fuel + 1, c :: rest =>
    if c = '"' then .ok (String.ofList read.reverse, rest)
    else if c = '\\' then
      match rest with
      | [] => .error (.mistake .unterminated opened)
      | 'u' :: rest =>
        match numberedEscape rest with
        | .error stop => .error stop
        | .ok (c, rest) => stringRest opened (c :: read) fuel rest
      | letter :: rest =>
        match escaped? letter with
        | none => .error (.mistake .badEscape (rest.length + 2))
        | some c => stringRest opened (c :: read) fuel rest
    else if c.toNat < 0x20 then .error (.mistake .control (rest.length + 1))
    else stringRest opened (c :: read) fuel rest

/-- Reads a string whose opening quote has been passed. -/
def string (cs : List Char) : Reading String :=
  stringRest (cs.length + 1) [] (cs.length + 1) cs

/-- Whether a character is an ASCII digit. -/
def isDigit (c : Char) : Bool :=
  '0' ≤ c && c ≤ '9'

/-- The values of ASCII digits. -/
def digitValues (cs : List Char) : List Nat :=
  cs.map fun c => c.toNat - '0'.toNat

/-- Splits the whole digits off: a zero alone, or digits that do not start with one. -/
def wholeDigits : List Char → Option (List Char × List Char)
  | '0' :: rest => some (['0'], rest)
  | cs =>
    match cs.takeWhile isDigit with
    | [] => none
    | digits => some (digits, cs.dropWhile isDigit)

/-- Splits a point with digits after it off, if there is one. -/
def fractionDigits : List Char → List Char × List Char
  | '.' :: rest =>
    match rest.takeWhile isDigit with
    | [] => ([], '.' :: rest)
    | digits => (digits, rest.dropWhile isDigit)
  | cs => ([], cs)

/-- Splits a sign off. -/
def signOf : List Char → Bool × List Char
  | '-' :: rest => (true, rest)
  | '+' :: rest => (false, rest)
  | cs => (false, cs)

/-- Splits an exponent off, if there is one. -/
def exponentOf (cs : List Char) : Option Int × List Char :=
  match cs with
  | mark :: rest =>
    if mark = 'e' ∨ mark = 'E' then
      let (negative, rest) := signOf rest
      match rest.takeWhile isDigit with
      | [] => (none, cs)
      | digits =>
        let value : Int := Decimal.ofDigits (digitValues digits)
        (some (if negative then -value else value), rest.dropWhile isDigit)
    else (none, cs)
  | [] => (none, [])

/-- Splits a minus off. -/
def minusOf : List Char → Bool × List Char
  | '-' :: rest => (true, rest)
  | cs => (false, cs)

/-- Reads a number. -/
def number (cs : List Char) : Reading Json :=
  let (negative, unsigned) := minusOf cs
  match wholeDigits unsigned with
  | none => .error (.mistake .expectedValue cs.length)
  | some (whole, rest) =>
    let (fraction, rest) := fractionDigits rest
    let (exponent, rest) := exponentOf rest
    if fraction.isEmpty && exponent.isNone then
      if Decimal.maxDigits < whole.length then .error .longInteger
      else
        let value : Int := Decimal.ofDigits (digitValues whole)
        .ok (.integer (if negative then -value else value), rest)
    else
      let decimal : Decimal := {
        negative
        digits := Decimal.ofDigits (digitValues (whole ++ fraction))
        exponent := exponent.getD 0 - (fraction.length : Int) }
      .ok (.decimal decimal.toFloat, rest)

/-- The words that are values. -/
def words : List (List Char × Json) := [
  ("null".toList, .null),
  ("true".toList, .bool true),
  ("false".toList, .bool false),
  ("NaN".toList, .decimal Decimal.notANumber),
  ("Infinity".toList, .decimal Decimal.infinity),
  ("-Infinity".toList, .decimal (-Decimal.infinity))]

/-- Reads a word or a number. -/
def scalar (cs : List Char) : Reading Json :=
  match words.find? fun word => word.1.isPrefixOf cs with
  | some (word, value) => .ok (value, cs.drop word.length)
  | none => number cs

mutual

/-- Reads a value inside which lists and dictionaries may be nested `depth` levels deep. -/
def value (depth : Nat) : (fuel : Nat) → List Char → Reading Json
  | 0, cs => .error (.mistake .expectedValue cs.length)
  | _ + 1, [] => .error (.mistake .expectedValue 0)
  | fuel + 1, c :: rest =>
    if c = '"' then (string rest).map fun (read, rest) => (.text read, rest)
    else if c = '[' then
      match depth, skipGap rest with
      | 0, _ => .error .tooDeep
      | _ + 1, ']' :: rest => .ok (.list [], rest)
      | depth + 1, rest => items depth fuel [] rest
    else if c = '\x7b' then
      match depth, skipGap rest with
      | 0, _ => .error .tooDeep
      | _ + 1, '\x7d' :: rest => .ok (.dictionary [], rest)
      | depth + 1, rest => entries depth fuel [] rest
    else scalar (c :: rest)

/-- Reads the items of a list up to its end; `read` holds the earlier ones, latest first. -/
def items (depth : Nat) : (fuel : Nat) → List Json → List Char → Reading Json
  | 0, _, cs => .error (.mistake .expectedValue cs.length)
  | fuel + 1, read, cs =>
    match value depth fuel cs with
    | .error stop => .error stop
    | .ok (item, rest) =>
      match skipGap rest with
      | ']' :: rest => .ok (.list (item :: read).reverse, rest)
      | ',' :: rest => items depth fuel (item :: read) (skipGap rest)
      | rest => .error (.mistake .expectedComma rest.length)

/-- Reads the entries of a dictionary up to its end; `read` holds the earlier ones, latest first. -/
def entries (depth : Nat) : (fuel : Nat) → List (Scalar × Json) → List Char → Reading Json
  | 0, _, cs => .error (.mistake .expectedName cs.length)
  | fuel + 1, read, cs =>
    match cs with
    | '"' :: rest =>
      match string rest with
      | .error stop => .error stop
      | .ok (key, rest) =>
        match skipGap rest with
        | ':' :: rest =>
          match value depth fuel (skipGap rest) with
          | .error stop => .error stop
          | .ok (item, rest) =>
            match skipGap rest with
            | '\x7d' :: rest =>
              .ok (.dictionary (Dictionary.ofList ((.text key, item) :: read).reverse), rest)
            | ',' :: rest => entries depth fuel ((.text key, item) :: read) (skipGap rest)
            | rest => .error (.mistake .expectedComma rest.length)
        | rest => .error (.mistake .expectedColon rest.length)
    | cs => .error (.mistake .expectedName cs.length)

end

/-- Reads a whole text with values nested no deeper than some levels. -/
def document (depth : Nat) (cs : List Char) : Except Stop Json :=
  match cs with
  | '﻿' :: _ => .error (.mistake .byteOrderMark cs.length)
  | _ =>
    match value depth (2 * cs.length + 2) (skipGap cs) with
    | .error stop => .error stop
    | .ok (value, rest) =>
      match skipGap rest with
      | [] => .ok value
      | rest => .error (.mistake .extraData rest.length)

/-- Why a text cannot be read: a mistake and its place, an integer too long, values nested too
deeply, or half a character. Lines and columns count from one, the index from zero. -/
inductive Misread where
  | mistake (found : Mistake) (line column index : Nat)
  | longInteger
  | tooDeep
  | unpaired
  deriving DecidableEq, Repr

/-- The place of a stop in a text. -/
def Stop.locate (cs : List Char) : Stop → Misread
  | .longInteger => .longInteger
  | .tooDeep => .tooDeep
  | .unpaired => .unpaired
  | .mistake found remaining =>
    let before := cs.take (cs.length - remaining)
    .mistake found (before.count '\n' + 1)
      ((before.reverse.takeWhile (· != '\n')).length + 1) before.length

/-- The words for a text that cannot be read. -/
def Misread.message : Misread → String
  | mistake found line column index =>
    found.message ++ ": line " ++ Decimal.toText line ++ " column " ++ Decimal.toText column ++
      " (char " ++ Decimal.toText index ++ ")"
  | longInteger => "Exceeds the limit (4300 digits) for integer string conversion"
  | tooDeep => "maximum recursion depth exceeded"
  | unpaired => "half a character"

/-- Reads a JSON text with values nested no deeper than some levels. -/
def parse (depth : Nat) (text : String) : Except Misread Json :=
  match document depth text.toList with
  | .error stop => .error (stop.locate text.toList)
  | .ok value => .ok value

end HtmlNesting.Json
