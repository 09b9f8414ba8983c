import HtmlNesting.Json.Reader
import HtmlNesting.Limits
import HtmlNesting.Number.Written
import HtmlNesting.Text.Blank
import HtmlNesting.Text.Case
import HtmlNesting.Text.Split

/-!
# Casts between kinds of settings

A new value for a setting takes the kind of the one it replaces. Most new values are texts from
outside, and a text is read the way its kind is written: a truth by a word, a list between commas, a
dictionary as JSON. Other values go over by the conversion between the two kinds, if there is one.

A text for a dictionary may hold any JSON value, so that cast alone can end in another kind.

A cast needs no more of a value than what is seen of it through a `View`: its outermost part, and
that of the values inside. So the casts are the same for values as such and for values that are kept
elsewhere and only pointed to. What is cast to a list or a dictionary has the values inside as they
were.
-/

namespace HtmlNesting

/-- Why a value cannot be cast. -/
inductive Json.CastFault where
  /-- The value is of a suitable kind but is not well formed. -/
  | malformed
  /-- The text is no JSON. -/
  | misread
  /-- No value of this kind can be cast. -/
  | unsuitable
  /-- The number is too large. -/
  | tooLarge
  /-- The values are nested too deeply to be read or shown. -/
  | tooDeep
  /-- The text holds half a character. -/
  | unpaired
  deriving DecidableEq, Repr

open Json (CastFault)

namespace Scalar

/-- The whole part of a decimal. -/
def truncated (value : Float) : Except CastFault Int :=
  if value.isNaN then .error .malformed
  else if value.isInf then .error .tooLarge
  else
    let binary := Binary.ofFloat value
    let magnitude :=
      binary.significand * twoTo binary.exponent.toNat / twoTo (-binary.exponent).toNat
    .ok (if value < 0 then -(magnitude : Int) else magnitude)

/-- An integer as the nearest decimal. -/
def widened (value : Int) : Except CastFault Float :=
  let decimal : Decimal :=
    { negative := value < 0, digits := value.natAbs, exponent := 0 }
  let nearest := decimal.toFloat
  if nearest.isInf then .error .tooLarge else .ok nearest

/-- A value as an integer. -/
def toInteger : Scalar → Except CastFault Int
  | bool value => .ok (bit value)
  | integer value => .ok value
  | decimal value => truncated value
  | text value =>
    match Written.integer? value with
    | some number => .ok number
    | none => .error .malformed
  | null => .error .unsuitable

/-- A value as a decimal. -/
def toDecimal : Scalar → Except CastFault Float
  | bool value => widened (bit value)
  | integer value => widened value
  | decimal value => .ok value
  | text value =>
    match Written.float? value with
    | some number => .ok number
    | none => .error .malformed
  | null => .error .unsuitable

/-- The characters of a text as texts. -/
def singles (value : String) : List Scalar :=
  value.toList.map fun c => text (String.singleton c)

/-- The text of a value inside another one. An integer with too many digits has none. -/
def shownIn : Scalar → Except CastFault String
  | integer value =>
    if tenTo Decimal.maxDigits ≤ value.natAbs then .error .malformed
    else .ok (integer value).shown
  | value => .ok value.shown

end Scalar

/-- How values of some type are seen. -/
structure View (ν : Type) where
  /-- The outermost part of a value. -/
  shape : ν → Shape ν
  /-- A value without parts. -/
  single : Scalar → ν
  /-- Where a value is kept, if two of them can be the same one. -/
  place? : ν → Option Nat

namespace View

variable {ν : Type} (view : View ν)

/-- The members of a value: the items of a list, the keys of a dictionary, the characters of a
text. -/
def members : Shape ν → Except CastFault (List ν)
  | .list items => .ok items
  | .dictionary entries => .ok (entries.map fun entry => view.single entry.1)
  | .scalar (.text value) => .ok ((Scalar.singles value).map view.single)
  | .scalar _ => .error .unsuitable

/-- A value as a pair: a list of two, a text of two characters or a dictionary of two keys. -/
def asPair (shape : Shape ν) : Except CastFault (ν × ν) :=
  match view.members shape with
  | .ok [first, second] => .ok (first, second)
  | .ok _ => .error .malformed
  | .error fault => .error fault

/-- A value as a key with its value. -/
def asEntry (value : ν) : Except CastFault (Scalar × ν) :=
  match view.asPair (view.shape value) with
  | .error fault => .error fault
  | .ok (key, inner) =>
    match view.shape key with
    | .scalar key => .ok (key, inner)
    | _ => .error .unsuitable

/-- The key of a dictionary that counts as one with a key, if there is one, and else the key. -/
def memberKey (entries : Dictionary Scalar ν) (key : Scalar) : Scalar :=
  (entries.keys.find? fun other => other.sameMember key).getD key

/-- The dictionary of some keys with their values. Of keys that count as one the first stays, with
the last value. -/
def ofPairs (pairs : List (Scalar × ν)) : Dictionary Scalar ν :=
  pairs.foldl (fun entries pair => Dictionary.set (memberKey entries pair.1) pair.2 entries) []

/-- A value as a dictionary: itself, or what its members make if they are pairs. -/
def toDictionary : Shape ν → Except CastFault (Dictionary Scalar ν)
  | .dictionary entries => .ok entries
  | shape => do return ofPairs (← (← view.members shape).mapM view.asEntry)

/-- The text of a value inside others, of which `around` are kept somewhere. A value inside itself
is not shown again. -/
def shownIn : (levels : Nat) → (around : List Nat) → ν → Except CastFault String
  | 0, _, _ => .error .tooDeep
  | levels + 1, around, value =>
    let here := (view.place? value).toList
    let again := here.any around.contains
    match view.shape value with
    | .scalar value => value.shownIn
    | .list items =>
      if again then .ok "[...]"
      else do
        let texts ← items.mapM (shownIn levels (here ++ around))
        return "[" ++ String.intercalate ", " texts ++ "]"
    | .dictionary entries =>
      if again then .ok "\x7b...\x7d"
      else do
        let texts ← entries.mapM fun entry => do
          let key ← shownIn levels (here ++ around) (view.single entry.1)
          let inner ← shownIn levels (here ++ around) entry.2
          return key ++ ": " ++ inner
        return "\x7b" ++ String.intercalate ", " texts ++ "\x7d"

/-- The text of a value by itself. -/
def textOf (levels : Nat) (value : ν) : Except CastFault String :=
  match view.shape value with
  | .scalar (.text value) => .ok value
  | _ => view.shownIn levels [] value

end View

/-- What a value is cast to. -/
inductive Cast (ν : Type) where
  /-- The value itself. -/
  | kept (value : ν)
  /-- A new value with this outermost part. -/
  | made (shape : Shape ν)
  /-- A value that was read. -/
  | read (value : Json)

/-- The words that stand for true. -/
def trueWords : List String := ["1", "true", "yes", "on"]

/-- The parts of a text between commas, trimmed, without the empty ones. -/
def commaParts (value : String) : List String :=
  ((Text.pieces ',' value).map Text.trim).filter fun part => !part.isEmpty

/-- The JSON value that a text holds. -/
def Json.ofText (nesting : Nat) (value : String) : Except CastFault Json :=
  match parse nesting value with
  | .ok read => .ok read
  | .error (.mistake ..) => .error .misread
  | .error .longInteger => .error .malformed
  | .error .tooDeep => .error .tooDeep
  | .error .unpaired => .error .unpaired

namespace View

variable {ν : Type} (view : View ν)

/-- A value cast to a kind. -/
def castTo (limits : Limits) (goal : Json.Kind) (value : ν) : Except CastFault (Cast ν) :=
  match goal, view.shape value with
  | .null, _ => .error .unsuitable
  | .bool, .scalar (.text words) =>
    .ok (.made (.scalar (.bool (trueWords.contains (Text.lower (Text.trim words))))))
  | .bool, shape => .ok (.made (.scalar (.bool shape.truth)))
  | .integer, .scalar value => return .made (.scalar (.integer (← value.toInteger)))
  | .integer, _ => .error .unsuitable
  | .decimal, .scalar value => return .made (.scalar (.decimal (← value.toDecimal)))
  | .decimal, _ => .error .unsuitable
  | .text, _ => return .made (.scalar (.text (← view.textOf limits.showing value)))
  | .list, .scalar (.text words) =>
    .ok (.made (.list ((commaParts words).map fun part => view.single (.text part))))
  | .list, shape => return .made (.list (← view.members shape))
  | .dictionary, .scalar (.text words) => return .read (← Json.ofText limits.nesting words)
  | .dictionary, shape => return .made (.dictionary (← view.toDictionary shape))

/-- What is stored where an older value stands, if any, and the kind to which the new value could
not be cast. A number that is too large, and values nested too deeply, end the assignment. -/
def castOver (limits : Limits) (older : Option ν) (value : ν) :
    Except CastFault (Cast ν × Option Json.Kind) :=
  match older.map fun present => (view.shape present).kind with
  | none => .ok (.kept value, none)
  | some .null => .ok (.kept value, none)
  | some kind =>
    match view.castTo limits kind value with
    | .ok cast => .ok (cast, none)
    | .error .tooLarge => .error .tooLarge
    | .error .tooDeep => .error .tooDeep
    | .error .unpaired => .error .unpaired
    | .error _ => .ok (.kept value, some kind)

end View

namespace Json

/-- Values seen as they are. None of them is kept anywhere else. -/
def view : View Json where
  shape := shape
  single := Scalar.json
  place? := fun _ => none

/-- The value that a cast gives. -/
def ofCast : Cast Json → Json
  | .kept value => value
  | .made shape => ofShape shape
  | .read value => value

/-- A value cast to a kind. -/
def castTo (limits : Limits) (goal : Kind) (value : Json) : Except CastFault Json :=
  (view.castTo limits goal value).map ofCast

/-- The members of a value. -/
def members (value : Json) : Except CastFault (List Json) :=
  view.members value.shape

/-- A value as a dictionary. -/
def toDictionary (value : Json) : Except CastFault (Dictionary Scalar Json) :=
  view.toDictionary value.shape

end Json

end HtmlNesting
