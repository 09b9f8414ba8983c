import HtmlNesting.Number.Shortest

/-!
# Doubles with a number of places

How a double is written when the number of digits is given: with places after the point, with an
exponent, or in the shorter of the two ways. The double is taken exactly and rounded once, a half to
the even neighbour. Unless a point is asked for, it stands only before digits.
-/

namespace HtmlNesting

/-- A quotient rounded to the nearest integer; a half goes to the even neighbour. -/
def roundedQuotient (numerator denominator : Nat) : Nat :=
  let whole := numerator / denominator
  let twice := 2 * (numerator % denominator)
  if denominator < twice ∨ (twice = denominator ∧ whole % 2 = 1) then whole + 1 else whole

namespace Binary

/-- The number of units of a power of ten in a double, rounded. -/
def roundedTo (binary : Binary) (power : Int) : Nat :=
  let fraction := binary.quarters (4 * binary.significand)
  roundedQuotient (fraction.1 * tenTo (-power).toNat) (fraction.2 * tenTo power.toNat)

/-- The first digits of a double, one and some more, and the power of ten of the first. -/
def leadingDigits (binary : Binary) (more : Nat) : Nat × Int :=
  if binary.significand = 0 then (0, 0)
  else
    let power := binary.leading
    let digits := binary.roundedTo (power - (more : Int))
    if digits = tenTo (more + 1) then (tenTo more, power + 1) else (digits, power)

end Binary

/-- The ways to write a double with a number of places. -/
inductive PlacesStyle where
  /-- With places after the point. -/
  | fixed
  /-- With an exponent, and places after the first digit. -/
  | scientific
  /-- With as many digits in all, in either of the other ways, without zeros at the end. -/
  | general
  deriving DecidableEq, Repr

namespace Decimal

/-- The digits of a number, filled up with zeros in front to a width. -/
def filled (width value : Nat) : List Char :=
  let digits := Nat.toDigits 10 value
  List.replicate (width - digits.length) '0' ++ digits

/-- Digits before and after a point. -/
def pointed (whole fraction : List Char) (point : Bool) : String :=
  String.ofList (whole ++ (if fraction.isEmpty && !point then [] else '.' :: fraction))

/-- A double with places after the point. -/
def fixedText (binary : Binary) (places : Nat) (point : Bool) : String :=
  let digits := filled (places + 1) (binary.roundedTo (-(places : Int)))
  pointed (digits.take (digits.length - places)) (digits.drop (digits.length - places)) point

/-- Digits with an exponent for the first of them. -/
def withExponent (digits : List Char) (power : Int) (point : Bool) : String :=
  pointed (digits.take 1) (digits.drop 1) point ++ exponentText power

/-- A double with an exponent. -/
def scientificText (binary : Binary) (places : Nat) (point : Bool) : String :=
  let (digits, power) := binary.leadingDigits places
  withExponent (filled (places + 1) digits) power point

/-- Digits in place, given the power of ten of the first of them. -/
def inPlace (digits : List Char) (power : Int) (point : Bool) : String :=
  if power < 0 then pointed ['0'] (List.replicate ((-power).toNat - 1) '0' ++ digits) point
  else
    let count := power.toNat + 1
    pointed (digits.take count ++ List.replicate (count - digits.length) '0') (digits.drop count)
      point

/-- A double with a number of digits in all, at least one. Zeros at the end are dropped unless a
point is asked for. -/
def generalText (binary : Binary) (count : Nat) (point : Bool) : String :=
  let count := max count 1
  let (digits, power) := binary.leadingDigits (count - 1)
  let all := filled count digits
  let kept := if point then all else (all.reverse.dropWhile (· == '0')).reverse
  let shown := if kept.isEmpty then ['0'] else kept
  if -4 ≤ power ∧ power < (count : Int) then inPlace shown power point
  else withExponent shown power point

/-- The text of a double in a style, with its sign. -/
def placesText (value : Float) (style : PlacesStyle) (places : Nat) (point : Bool) : String :=
  if value.isNaN then "nan"
  else
    let negative := value.toBits.toNat / twoTo 63 == 1
    let binary := Binary.ofFloat value
    let magnitude :=
      if value.isInf then "inf"
      else
        match style with
        | .fixed => fixedText binary places point
        | .scientific => scientificText binary places point
        | .general => generalText binary places point
    if negative then "-" ++ magnitude else magnitude

end Decimal

end HtmlNesting
