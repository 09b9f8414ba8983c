import HtmlNesting.Number.Shortest
import HtmlNesting.Text.Quoted

/-!
# Values without parts

Null, truths, numbers and texts. They can be members of a set and keys of a dictionary, where
numbers of one value count as one, whatever their form; truths are numbers then.
-/

namespace HtmlNesting

/-- A value without parts. -/
inductive Scalar where
  | null
  | bool (value : Bool)
  | integer (value : Int)
  | decimal (value : Float)
  | text (value : String)
  deriving DecidableEq, Inhabited

instance : Coe String Scalar := ⟨.text⟩

namespace Scalar

/-- The text of a value inside another one. -/
def shown : Scalar → String
  | null => "None"
  | bool true => "True"
  | bool false => "False"
  | integer value => Decimal.signedText value
  | decimal value => floatText value
  | text value => Text.quoted value

/-- The text of a value by itself. -/
def asText : Scalar → String
  | text value => value
  | value => value.shown

/-- Whether a value counts as true: all do but null, false, zero and the empty text. -/
def truth : Scalar → Bool
  | null => false
  | bool value => value
  | integer value => value != 0
  | decimal value => !(value == 0.0)
  | text value => !value.isEmpty

/-- Whether a value is a number; truths count as one. -/
def isNumber : Scalar → Bool
  | bool _ => true
  | integer _ => true
  | decimal _ => true
  | _ => false

/-- A truth as a number. -/
def bit (value : Bool) : Int :=
  if value then 1 else 0

/-- The integer that a whole number is, if it is no decimal. -/
def whole? : Scalar → Option Int
  | bool value => some (bit value)
  | integer value => some value
  | _ => none

/-- A finite number as an integer times a power of two. -/
def scaled : Scalar → Int × Int
  | decimal value =>
    let binary := Binary.ofFloat value
    (if value < 0 then -(binary.significand : Int) else binary.significand, binary.exponent)
  | value => (value.whole?.getD 0, 0)

/-- Whether an integer times a power of two is no greater than another, compared exactly. -/
def scaledLe (first second : Int × Int) : Bool :=
  let least := min first.2 second.2
  decide (first.1 * twoTo (first.2 - least).toNat ≤ second.1 * twoTo (second.2 - least).toNat)

/-- Whether a number is no greater than another. Integers and decimals are compared exactly, by
their values. -/
def numberLe (first second : Scalar) : Bool :=
  match first, second with
  | decimal x, decimal y => x ≤ y
  | decimal x, other => if x.isFinite then scaledLe first.scaled other.scaled else x < 0
  | other, decimal y => if y.isFinite then scaledLe other.scaled second.scaled else 0 < y
  | _, _ => scaledLe first.scaled second.scaled

/-- Whether two values count as one member of a set. -/
def sameMember (first second : Scalar) : Bool :=
  first == second ||
    first.isNumber && second.isNumber && numberLe first second && numberLe second first

end Scalar

end HtmlNesting
