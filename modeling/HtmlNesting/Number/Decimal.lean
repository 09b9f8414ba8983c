/-!
# Decimal numbers

A decimal number is a sign, digits and a power of ten. `toFloat` is the double nearest to it.
Numbers far outside the range of doubles are answered without forming the power.
-/

namespace HtmlNesting

/-- A decimal number: digits times a power of ten. -/
structure Decimal where
  negative : Bool
  digits : Nat
  exponent : Int
  deriving DecidableEq, Repr

namespace Decimal

/-- The number that a list of digit values spells. -/
def ofDigits (digits : List Nat) : Nat :=
  digits.foldl (fun value digit => 10 * value + digit) 0

/-- The decimal digits of a number, which is zero for none. -/
def toText (value : Nat) : String :=
  String.ofList (Nat.toDigits 10 value)

/-- The decimal digits of a number with its sign. -/
def signedText (value : Int) : String :=
  if value < 0 then "-" ++ toText value.natAbs else toText value.natAbs

/-- The most digits that an integer is read from or written with. -/
def maxDigits : Nat := 4300

/-- The double without a finite value. -/
def infinity : Float := 1.0 / 0.0

/-- The double that is not a number. -/
def notANumber : Float := 0.0 / 0.0

/-- The nearest double without regard to the sign. -/
def magnitude (decimal : Decimal) : Float :=
  let size := (Nat.toDigits 10 decimal.digits).length + decimal.exponent
  if decimal.digits = 0 ∨ size < -330 then 0.0
  else if 310 < size then infinity
  else Float.ofScientific decimal.digits (decimal.exponent < 0) decimal.exponent.natAbs

/-- The nearest double; beyond the largest one it is infinite. -/
def toFloat (decimal : Decimal) : Float :=
  if decimal.negative then -decimal.magnitude else decimal.magnitude

end Decimal

end HtmlNesting
