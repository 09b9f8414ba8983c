import HtmlNesting.Number.Decimal

/-!
# The fewest digits that read back

A double stands for all real numbers that round to it. `shortest?` finds the decimal with the fewest
digits among them and, of several, the one nearest to the double. It works in exact integers: the
double is `significand * 2 ^ exponent`, and the ends of its interval are written in quarters of that
unit, since below a power of two the next double is only half as far.

`floatText` lays the digits out: in place while the power of ten is at least -4 and below 16, and
with an exponent of two digits or more otherwise.
-/

namespace HtmlNesting

/-- A power of two. -/
def twoTo (exponent : Nat) : Nat :=
  Nat.pow 2 exponent

/-- A power of ten. -/
def tenTo (exponent : Nat) : Nat :=
  Nat.pow 10 exponent

/-- A positive number as an integer times a power of two. -/
structure Binary where
  significand : Nat
  exponent : Int
  deriving DecidableEq, Repr

namespace Binary

/-- The magnitude of a finite double. -/
def ofFloat (value : Float) : Binary :=
  let bits := value.toBits.toNat % twoTo 63
  let fraction := bits % twoTo 52
  match bits / twoTo 52 with
  | 0 => { significand := fraction, exponent := -1074 }
  | raised + 1 => { significand := fraction + twoTo 52, exponent := (raised : Int) - 1074 }

/-- A number of quarters of the unit in the last place, as a fraction. -/
def quarters (binary : Binary) (count : Nat) : Nat × Nat :=
  let exponent := binary.exponent - 2
  (count * twoTo exponent.toNat, twoTo (-exponent).toNat)

/-- The lower end of the numbers that round to a double, in quarters. -/
def low (binary : Binary) : Nat :=
  if binary.significand = twoTo 52 ∧ binary.exponent ≠ -1074 then 4 * binary.significand - 1
  else 4 * binary.significand - 2

/-- The upper end of the numbers that round to a double, in quarters. -/
def high (binary : Binary) : Nat :=
  4 * binary.significand + 2

/-- Compares `digits * 10 ^ power` with a fraction. -/
def compareDecimal (digits : Nat) (power : Int) (fraction : Nat × Nat) : Ordering :=
  compare (digits * tenTo power.toNat * fraction.2) (fraction.1 * tenTo (-power).toNat)

/-- Whether `digits * 10 ^ power` rounds to the double. The ends themselves do if the significand
is even. -/
def reads (binary : Binary) (digits : Nat) (power : Int) : Bool :=
  let below := compareDecimal digits power (binary.quarters binary.low)
  let above := compareDecimal digits power (binary.quarters binary.high)
  let even := binary.significand % 2 == 0
  (below == .gt || (even && below == .eq)) && (above == .lt || (even && above == .eq))

/-- The power of ten of the leading digit of a fraction below one, tried from `power` downwards. -/
def leadingBelow (fraction : Nat × Nat) (power : Nat) : Nat → Int
  | 0 => -(power : Int)
  | fuel + 1 =>
    if fraction.2 ≤ fraction.1 * tenTo power then -(power : Int)
    else leadingBelow fraction (power + 1) fuel

/-- The power of ten of the leading digit of a positive double. -/
def leading (binary : Binary) : Int :=
  let fraction := binary.quarters (4 * binary.significand)
  if fraction.2 ≤ fraction.1 then
    ((Nat.toDigits 10 (fraction.1 / fraction.2)).length : Int) - 1
  else leadingBelow fraction 1 400

/-- The decimals of a number of digits next to a double, the nearer one first. -/
def neighbours (binary : Binary) (count : Nat) : List (Nat × Int) :=
  let power := binary.leading - ((count : Int) - 1)
  let fraction := binary.quarters (4 * binary.significand)
  let floor := fraction.1 * tenTo (-power).toNat / (fraction.2 * tenTo power.toNat)
  let middle := compareDecimal (2 * floor + 1) power (2 * fraction.1, fraction.2)
  if middle == .lt || (middle == .eq && floor % 2 == 1) then [(floor + 1, power), (floor, power)]
  else [(floor, power), (floor + 1, power)]

/-- The decimal with the fewest digits that rounds to a double, from a number of digits upwards. -/
def shortestFrom (binary : Binary) (count : Nat) : Nat → Option (Nat × Int)
  | 0 => none
  | fuel + 1 =>
    match (binary.neighbours count).find? fun candidate => binary.reads candidate.1 candidate.2 with
    | some found => some found
    | none => shortestFrom binary (count + 1) fuel

/-- The decimal with the fewest digits that rounds to a positive double. Seventeen always suffice.
-/
def shortest? (binary : Binary) : Option (Nat × Int) :=
  binary.shortestFrom 1 17

end Binary

namespace Decimal

/-- Digits without the zeros at their end, and the power of ten these stand for. -/
def dropZeros (digits : List Char) (power : Int) : List Char × Int :=
  let kept := (digits.reverse.dropWhile (· == '0')).reverse
  (kept, power + ((digits.length : Int) - (kept.length : Int)))

/-- A power of ten as an exponent: a sign and at least two digits. -/
def exponentText (power : Int) : String :=
  let digits := toText power.natAbs
  (if power < 0 then "e-" else "e+") ++ (if digits.length < 2 then "0" ++ digits else digits)

/-- Lays out digits that are followed by a power of ten. -/
def layOut (digits : List Char) (power : Int) : String :=
  let scientific := power + (digits.length : Int) - 1
  if -4 ≤ scientific ∧ scientific < 16 then
    if 0 ≤ power then
      String.ofList (digits ++ List.replicate power.toNat '0') ++ ".0"
    else if 0 ≤ scientific then
      String.ofList (digits.take (scientific.toNat + 1)) ++ "." ++
        String.ofList (digits.drop (scientific.toNat + 1))
    else
      "0." ++ String.ofList (List.replicate ((-scientific).toNat - 1) '0' ++ digits)
  else
    match digits with
    | [] => ""
    | [digit] => String.singleton digit ++ exponentText scientific
    | digit :: rest => String.ofList (digit :: '.' :: rest) ++ exponentText scientific

end Decimal

/-- The text of a finite double that is not negative. -/
def magnitudeText (value : Float) : String :=
  let binary := Binary.ofFloat value
  if binary.significand = 0 then "0.0"
  else
    match binary.shortest? with
    | none => "0.0"
    | some (digits, power) =>
      let (kept, power) := Decimal.dropZeros (Nat.toDigits 10 digits) power
      Decimal.layOut kept power

/-- The text of a double: the fewest digits that read back. -/
def floatText (value : Float) : String :=
  if value.isNaN then "nan"
  else
    let negative := value.toBits.toNat / twoTo 63 == 1
    let magnitude := if value.isInf then "inf" else magnitudeText value
    if negative then "-" ++ magnitude else magnitude

end HtmlNesting
