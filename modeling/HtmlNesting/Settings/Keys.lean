import HtmlNesting.Settings.Cast

/-!
# Settings by dotted keys

A dotted key leads from dictionary to dictionary, by keys that are texts. `find?` follows one;
`lookup` gives a default where nothing, or a null, is found.

`assign` goes down the same way, making the dictionaries that are missing, and stores a value at the
end. It returns the dictionary as it is afterwards whether or not it reaches the end.
-/

namespace HtmlNesting.Settings

/-- The keys of a dotted key. -/
def keysOf (path : String) : List String :=
  Text.pieces '.' path

/-- The value that some keys lead to. -/
def find? (value : Json) : List String → Option Json
  | [] => some value
  | key :: rest =>
    match value with
    | .dictionary entries =>
      match Dictionary.get? entries (.text key) with
      | some inner => find? inner rest
      | none => none
    | _ => none

/-- The value at a dotted key, or the default if there is none or it is null. -/
def lookup (settings : Json) (path : String) (default : Json) : Json :=
  match find? settings (keysOf path) with
  | none => default
  | some .null => default
  | some value => value

/-- How an assignment ended. -/
inductive Assignment where
  /-- The value was stored, as it came if it could not be cast to the kind given. -/
  | stored (uncast : Option Json.Kind)
  /-- The value at a key on the way is no dictionary. -/
  | blocked (key : String)
  /-- The cast failed in a way that ends the assignment. -/
  | failed (fault : Json.CastFault)
  deriving DecidableEq, Repr

/-- The value to store where an older one stands, if any, and the kind to which it could not be
cast. -/
def casted (limits : Limits) (older : Option Json) (value : Json) :
    Except Json.CastFault (Json × Option Json.Kind) :=
  match Json.view.castOver limits older value with
  | .ok (cast, uncast) => .ok (Json.ofCast cast, uncast)
  | .error fault => .error fault

/-- Stores a value where some keys lead. -/
def assign (limits : Limits) (value : Json) : List String → Dictionary Scalar Json →
    Dictionary Scalar Json × Assignment
  | [], entries => (entries, .stored none)
  | [key], entries =>
    match casted limits (Dictionary.get? entries (.text key)) value with
    | .ok (cast, uncast) => (Dictionary.set (.text key) cast entries, .stored uncast)
    | .error fault => (entries, .failed fault)
  | key :: next :: rest, entries =>
    match (Dictionary.get? entries (.text key)).getD (.dictionary []) with
    | .dictionary inner =>
      let below := assign limits value (next :: rest) inner
      (Dictionary.set (.text key) (.dictionary below.1) entries, below.2)
    | _ => (entries, .blocked key)

end HtmlNesting.Settings
