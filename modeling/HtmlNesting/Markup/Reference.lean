import HtmlNesting.Markup.NamedTable
import HtmlNesting.Number.Decimal

/-!
# Character references

A reference stands for a character by number or by name. In text a name counts as a whole, and an
unknown one stays as it is without its semicolon. In attribute values the longest legacy name at the
start of a reference counts too, and numbers of characters that must not occur stand for nothing.
-/

namespace HtmlNesting.Markup

/-- The characters that the numbers from 0x80 to 0x9f are taken for. -/
def windowsCharacters : List Nat := [
  0x20ac, 0x81, 0x201a, 0x192, 0x201e, 0x2026, 0x2020, 0x2021, 0x2c6, 0x2030, 0x160, 0x2039, 0x152,
  0x8d, 0x17d, 0x8f, 0x90, 0x2018, 0x2019, 0x201c, 0x201d, 0x2022, 0x2013, 0x2014, 0x2dc, 0x2122,
  0x161, 0x203a, 0x153, 0x9d, 0x17e, 0x178]

/-- The character of a number. Zero and numbers that are no character are replaced. -/
def numbered (number : Nat) : Char :=
  if number = 0 ∨ 0x10ffff < number ∨ (0xd800 ≤ number ∧ number ≤ 0xdfff) then '�'
  else if 0x80 ≤ number ∧ number ≤ 0x9f then
    Char.ofNat (windowsCharacters.getD (number - 0x80) number)
  else Char.ofNat number

/-- Whether a number is that of a control or of no character, which attribute values drop. -/
def isDropped (number : Nat) : Bool :=
  (1 ≤ number && number ≤ 8) || number == 0xb || (0xe ≤ number && number ≤ 0x1f) ||
    number == 0x7f || (0xfdd0 ≤ number && number ≤ 0xfdef) ||
    (number ≤ 0x10ffff && 0xfffe ≤ number % 0x10000)

/-- The characters of a name. -/
def named? (name : List Char) : Option (List Char) :=
  (namedCharacters.lookup (String.ofList name)).map fun numbers => numbers.map Char.ofNat

/-- The value of a digit in a base up to sixteen. -/
def digitValue? (c : Char) : Option Nat :=
  if '0' ≤ c ∧ c ≤ '9' then some (c.toNat - '0'.toNat)
  else if 'a' ≤ c ∧ c ≤ 'f' then some (c.toNat - 'a'.toNat + 10)
  else if 'A' ≤ c ∧ c ≤ 'F' then some (c.toNat - 'A'.toNat + 10)
  else none

/-- Whether a character is a decimal digit. -/
def isDecimal (c : Char) : Bool :=
  '0' ≤ c && c ≤ '9'

/-- Whether a character is a hexadecimal digit. -/
def isHexadecimal (c : Char) : Bool :=
  (digitValue? c).isSome

/-- The number that digits of a base spell. -/
def spelled (base : Nat) (digits : List Char) : Nat :=
  digits.foldl (fun value c => base * value + (digitValue? c).getD 0) 0

/-- A number as a reference writes it. -/
structure Numeral where
  source : List Char
  number : Nat
  rest : List Char

/-- Splits the numeral of a reference off, after its number sign. -/
def numeral? (cs : List Char) : Option Numeral :=
  match cs with
  | mark :: body =>
    if mark = 'x' ∨ mark = 'X' then
      match body.takeWhile isHexadecimal with
      | [] => none
      | digits =>
        some { source := mark :: digits, number := spelled 16 digits
               rest := body.dropWhile isHexadecimal }
    else
      match cs.takeWhile isDecimal with
      | [] => none
      | digits =>
        some { source := digits, number := spelled 10 digits, rest := cs.dropWhile isDecimal }
  | [] => none

/-- The most digits of a decimal number in a reference. -/
def maxReferenceDigits : Nat := 4300

/-- The number of decimal digits that come next, if there are too many for a reference. -/
def tooManyDigits? (cs : List Char) : Option Nat :=
  let count := (cs.takeWhile isDecimal).length
  if maxReferenceDigits < count then some count else none

/-- The number of digits of the first decimal reference with too many among some characters. -/
def longReference? : List Char → Option Nat
  | [] => none
  | c :: rest =>
    match c, rest with
    | '&', '#' :: body =>
      match tooManyDigits? body with
      | some count => some count
      | none => longReference? rest
    | _, _ => longReference? rest

/-- The characters of a name in text. -/
def textReference (name : List Char) : List Char :=
  (named? name).getD ('&' :: name)

/-- Whether a character may be part of a name in an attribute value. -/
def isNamePart (c : Char) : Bool :=
  !(c == '\t' || c == '\n' || c == '\x0c' || c == ' ' || c == '<' || c == '&' || c == '#' ||
    c == ';')

/-- The characters of the longest legacy name that some characters start with, of at most a length,
and what remains of them. Legacy names have two letters or more. -/
def legacy? (cs : List Char) : Nat → Option (List Char × List Char)
  | 0 => none
  | length + 1 =>
    let name := cs.take (length + 1)
    if 2 ≤ length + 1 ∧ legacyNames.contains (String.ofList name) then
      (named? name).map fun characters => (characters, cs.drop (length + 1))
    else legacy? cs length

/-- What a named reference in an attribute value stands for, given the characters of its name and
whether a semicolon follows. -/
def attributeNamed (name : List Char) (closed : Bool) : List Char :=
  let whole := name ++ (if closed then [';'] else [])
  match (if closed then named? name else none) with
  | some characters => characters
  | none =>
    match legacy? name name.length with
    | some (characters, rest) => characters ++ rest ++ (if closed then [';'] else [])
    | none => '&' :: whole

/-- The reference after an ampersand in an attribute value: what it stands for and how many
characters it takes. -/
def attributeReference? (cs : List Char) : Option (List Char × Nat) :=
  match cs with
  | '#' :: body =>
    match numeral? body with
    | none => none
    | some numeral =>
      let closed := numeral.rest.head? == some ';'
      let characters := if isDropped numeral.number then [] else [numbered numeral.number]
      some (characters, 1 + numeral.source.length + (if closed then 1 else 0))
  | _ =>
    match (cs.takeWhile isNamePart).take 32 with
    | [] => none
    | name =>
      let closed := (cs.drop name.length).head? == some ';'
      some (attributeNamed name closed, name.length + (if closed then 1 else 0))

/-- Replaces the references in the characters of an attribute value, of which the first `skip` have
been dealt with. -/
def decodeAfter (skip : Nat) : List Char → List Char
  | [] => []
  | c :: rest =>
    match skip with
    | skip + 1 => decodeAfter skip rest
    | 0 =>
      if c = '&' then
        match attributeReference? rest with
        | some (characters, used) => characters ++ decodeAfter used rest
        | none => '&' :: decodeAfter 0 rest
      else c :: decodeAfter 0 rest

/-- The text of an attribute value with its references replaced. -/
def decodeAttribute (cs : List Char) : String :=
  String.ofList (decodeAfter 0 cs)

end HtmlNesting.Markup
