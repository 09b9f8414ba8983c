import HtmlNesting.Number.Decimal
import HtmlNesting.Text.Blank
import HtmlNesting.Text.Digit

/-!
# Numbers written by people

How settings given as text are read as numbers: blanks around, a sign, digits of any script, single
underscores between digits. Decimals may have a point and an exponent, or be a word for infinity or
for no number at all.
-/

namespace HtmlNesting

namespace Written

/-- Blanks that may surround a number. The separators of records are not among them. -/
def isMargin (c : Char) : Bool :=
  Text.isBlank c && !(0x1c ≤ c.toNat && c.toNat ≤ 0x1f)

/-- A character with its value if it is a digit of any script. -/
inductive Symbol where
  | digit (value : Nat)
  | other (c : Char)
  deriving DecidableEq, Repr

/-- The symbol of a character. -/
def Symbol.ofChar (c : Char) : Symbol :=
  match Text.digit? c with
  | some value => .digit value
  | none => .other c

/-- The characters of a number without its margins. -/
def core (text : String) : List Char :=
  ((text.toList.dropWhile isMargin).reverse.dropWhile isMargin).reverse

/-- Reads a sign: whether it is a minus, and what follows. -/
def sign : List Symbol → Bool × List Symbol
  | .other '-' :: rest => (true, rest)
  | .other '+' :: rest => (false, rest)
  | symbols => (false, symbols)

/-- Drops underscores between two digits. One that stands elsewhere makes the number unreadable;
`afterDigit` tells whether a digit came last. -/
def joinDigits? (afterDigit : Bool) : List Symbol → Option (List Symbol)
  | [] => some []
  | .digit value :: rest => (joinDigits? true rest).map (.digit value :: ·)
  | .other '_' :: .digit value :: rest =>
    if afterDigit then (joinDigits? true rest).map (.digit value :: ·) else none
  | .other c :: rest => if c = '_' then none else (joinDigits? false rest).map (.other c :: ·)

/-- Reads digits: their values, and what follows. -/
def digits : List Symbol → List Nat × List Symbol
  | .digit value :: rest =>
    let (values, rest) := digits rest
    (value :: values, rest)
  | symbols => ([], symbols)

/-- Reads an integer. -/
def integer? (text : String) : Option Int :=
  let (negative, symbols) := sign ((core text).map Symbol.ofChar)
  match joinDigits? false symbols with
  | none => none
  | some symbols =>
    match digits symbols with
    | ([], _) => none
    | (values, []) =>
      if Decimal.maxDigits < values.length then none
      else
        let value : Int := Decimal.ofDigits values
        some (if negative then -value else value)
    | (_, _ :: _) => none

/-- Reads the exponent of a decimal, which may be missing. -/
def exponent? : List Symbol → Option Int
  | [] => some 0
  | .other c :: rest =>
    if c = 'e' ∨ c = 'E' then
      let (negative, rest) := sign rest
      match digits rest with
      | ([], _) => none
      | (values, []) =>
        let value : Int := Decimal.ofDigits values
        some (if negative then -value else value)
      | (_, _ :: _) => none
    else none
  | .digit _ :: _ => none

/-- Reads the digits after the point, if there is one. -/
def fraction : List Symbol → List Nat × List Symbol
  | .other '.' :: rest => digits rest
  | symbols => ([], symbols)

/-- The words for infinity and for no number, in any case. -/
def word? (symbols : List Symbol) : Option Float :=
  let letters := symbols.map fun
    | .digit _ => '0'
    | .other c => c.toLower
  if letters = "inf".toList ∨ letters = "infinity".toList then some Decimal.infinity
  else if letters = "nan".toList then some Decimal.notANumber
  else none

/-- Reads a decimal without its sign. -/
def unsigned? (negative : Bool) (symbols : List Symbol) : Option Float :=
  let (whole, rest) := digits symbols
  let (part, rest) := fraction rest
  if whole.isEmpty && part.isEmpty then none
  else
    (exponent? rest).map fun exponent =>
      { negative, digits := Decimal.ofDigits (whole ++ part)
        exponent := exponent - (part.length : Int) : Decimal }.toFloat

/-- Reads a decimal as the double nearest to it. -/
def float? (text : String) : Option Float :=
  match joinDigits? false ((core text).map Symbol.ofChar) with
  | none => none
  | some symbols =>
    let (negative, symbols) := sign symbols
    match word? symbols with
    | some value => some (if negative then -value else value)
    | none => unsigned? negative symbols

end Written

end HtmlNesting
