import HtmlNesting.Dictionary
import HtmlNesting.Json.Scalar

/-!
# Settings values

The values that a configuration is made of. Integers have no bound and are not the same as decimals.
The keys of a dictionary are values without parts. In a file they are texts; others come from lists
of pairs that are made a dictionary.

`shape` is a value by its outermost part, with the values inside as they are. `shown` is the text of
a value inside another one, `asText` the text of a value by itself: a text by itself is not quoted.
-/

namespace HtmlNesting

/-- A value of a configuration. -/
inductive Json where
  | null
  | bool (value : Bool)
  | integer (value : Int)
  | decimal (value : Float)
  | text (value : String)
  | list (items : List Json)
  | dictionary (entries : List (Scalar × Json))
  deriving Inhabited

/-- A value without parts as a value. -/
def Scalar.json : Scalar → Json
  | null => .null
  | bool value => .bool value
  | integer value => .integer value
  | decimal value => .decimal value
  | text value => .text value

/-- The kinds of values. -/
inductive Json.Kind where
  | null | bool | integer | decimal | text | list | dictionary
  deriving DecidableEq, Repr

/-- The word for a kind in messages. -/
def Json.Kind.name : Json.Kind → String
  | null => "NoneType"
  | bool => "bool"
  | integer => "int"
  | decimal => "float"
  | text => "str"
  | list => "list"
  | dictionary => "dict"

/-- A value by its outermost part, with values of some type inside. -/
inductive Shape (ν : Type) where
  | scalar (value : Scalar)
  | list (items : List ν)
  | dictionary (entries : Dictionary Scalar ν)

namespace Shape

variable {ν : Type}

/-- The kind of a value. -/
def kind : Shape ν → Json.Kind
  | scalar .null => .null
  | scalar (.bool _) => .bool
  | scalar (.integer _) => .integer
  | scalar (.decimal _) => .decimal
  | scalar (.text _) => .text
  | list _ => .list
  | dictionary _ => .dictionary

/-- Whether a value counts as true: all do but null, false, zero and what is empty. -/
def truth : Shape ν → Bool
  | scalar value => value.truth
  | list items => !items.isEmpty
  | dictionary entries => !entries.isEmpty

/-- The value without parts that a value is, if it is one. -/
def scalar? : Shape ν → Option Scalar
  | scalar value => some value
  | _ => none

end Shape

namespace Json

/-- The outermost part of a value. -/
def shape : Json → Shape Json
  | null => .scalar .null
  | bool value => .scalar (.bool value)
  | integer value => .scalar (.integer value)
  | decimal value => .scalar (.decimal value)
  | text value => .scalar (.text value)
  | list items => .list items
  | dictionary entries => .dictionary entries

/-- The value with an outermost part. -/
def ofShape : Shape Json → Json
  | .scalar value => value.json
  | .list items => list items
  | .dictionary entries => dictionary entries

theorem shape_json (value : Scalar) : value.json.shape = .scalar value := by
  cases value <;> rfl

@[simp] theorem shape_ofShape (shape : Shape Json) : (ofShape shape).shape = shape := by
  cases shape with
  | scalar value => exact shape_json value
  | _ => rfl

/-- The kind of a value. -/
def kind (value : Json) : Kind :=
  value.shape.kind

/-- Whether a value is a dictionary. -/
def isDictionary : Json → Bool
  | dictionary _ => true
  | _ => false

/-- Whether a value is a null. -/
def isNull : Json → Bool
  | null => true
  | _ => false

/-- Whether a value counts as true. -/
def truth (value : Json) : Bool :=
  value.shape.truth

mutual

/-- The text of a value inside another one. -/
def shown : Json → String
  | null => Scalar.null.shown
  | bool value => (Scalar.bool value).shown
  | integer value => (Scalar.integer value).shown
  | decimal value => (Scalar.decimal value).shown
  | text value => (Scalar.text value).shown
  | list items => "[" ++ String.intercalate ", " (shownItems items) ++ "]"
  | dictionary entries => "\x7b" ++ String.intercalate ", " (shownEntries entries) ++ "\x7d"

/-- The texts of the items of a list. -/
def shownItems : List Json → List String
  | [] => []
  | item :: rest => item.shown :: shownItems rest

/-- The texts of the entries of a dictionary. -/
def shownEntries : List (Scalar × Json) → List String
  | [] => []
  | (key, value) :: rest => (key.shown ++ ": " ++ value.shown) :: shownEntries rest

end

/-- The text of a value by itself. -/
def asText : Json → String
  | text value => value
  | value => value.shown

end Json

end HtmlNesting
