import HtmlNesting.Settings.Load

/-!
# Settings in place

Lists and dictionaries are objects that stay where they are. Settings are what can be reached from
the place of their outermost dictionary. Setting a value changes a dictionary in place, so whoever
has it sees the change. A value from outside is stored as it is, or as a copy of its outermost part
if it is cast, so what it holds may become part of the settings and be part of something else
besides.

`assign` goes down from place to place, putting a new dictionary where one is missing, and stores
the value at the end. All it does on the way is done even if it fails later.
-/

namespace HtmlNesting

/-- A value as it is held: by itself if it has no parts, and else by the place of a list or a
dictionary. -/
inductive Held where
  | scalar (value : Scalar)
  | object (place : Nat)
  deriving DecidableEq

/-- Lists and dictionaries by their places. -/
structure Store where
  objects : List (Shape Held) := []

namespace Store

/-- The list or dictionary at a place. Where there is none, there is nothing to see but a null. -/
def objectAt (store : Store) (place : Nat) : Shape Held :=
  store.objects[place]?.getD (.scalar .null)

/-- The outermost part of a value. -/
def shape (store : Store) : Held → Shape Held
  | .scalar value => .scalar value
  | .object place => store.objectAt place

/-- Values as they are seen in a store. -/
def view (store : Store) : View Held where
  shape := store.shape
  single := .scalar
  place?
    | .scalar _ => none
    | .object place => some place

/-- A new list or dictionary. -/
def add (store : Store) (object : Shape Held) : Store × Held :=
  ({ objects := store.objects ++ [object] }, .object store.objects.length)

/-- A new value with an outermost part. -/
def addShape (store : Store) : Shape Held → Store × Held
  | .scalar value => (store, .scalar value)
  | .list items => store.add (.list items)
  | .dictionary entries => store.add (.dictionary entries)

mutual

/-- A value, with a new list or dictionary for each that is in it. -/
def addJson (store : Store) : Json → Store × Held
  | .null => (store, .scalar .null)
  | .bool value => (store, .scalar (.bool value))
  | .integer value => (store, .scalar (.integer value))
  | .decimal value => (store, .scalar (.decimal value))
  | .text value => (store, .scalar (.text value))
  | .list items =>
    let inside := store.addItems items
    inside.1.add (.list inside.2)
  | .dictionary entries =>
    let inside := store.addEntries entries
    inside.1.add (.dictionary inside.2)

/-- Some values in order. -/
def addItems (store : Store) : List Json → Store × List Held
  | [] => (store, [])
  | item :: rest =>
    let first := store.addJson item
    let others := first.1.addItems rest
    (others.1, first.2 :: others.2)

/-- Some entries in order. -/
def addEntries (store : Store) : List (Scalar × Json) → Store × Dictionary Scalar Held
  | [] => (store, [])
  | (key, value) :: rest =>
    let first := store.addJson value
    let others := first.1.addEntries rest
    (others.1, (key, first.2) :: others.2)

end

/-- The value that a cast gives. -/
def addCast (store : Store) : Cast Held → Store × Held
  | .kept value => (store, value)
  | .made shape => store.addShape shape
  | .read value => store.addJson value

/-- The entries of the dictionary at a place. -/
def entriesAt (store : Store) (place : Nat) : Dictionary Scalar Held :=
  match store.objectAt place with
  | .dictionary entries => entries
  | _ => []

/-- Gives a key of the dictionary at a place a value. -/
def setKey (store : Store) (place : Nat) (key : Scalar) (value : Held) : Store where
  objects := store.objects.set place (.dictionary (Dictionary.set key value (store.entriesAt place)))

/-- The value that some keys lead to. -/
def find? (store : Store) (held : Held) : List String → Option Held
  | [] => some held
  | key :: rest =>
    match store.shape held with
    | .dictionary entries =>
      match Dictionary.get? entries (.text key) with
      | some inner => find? store inner rest
      | none => none
    | _ => none

/-- The value at a dotted key, or the default if there is none or it is null. -/
def lookup (store : Store) (root : Held) (path : String) (default : Held) : Held :=
  match store.find? root (Settings.keysOf path) with
  | none => default
  | some (.scalar .null) => default
  | some held => held

/-- Stores a value where some keys lead from the dictionary at a place. -/
def assign (limits : Limits) (value : Held) :
    List String → Store → (place : Nat) → Store × Settings.Assignment
  | [], store, _ => (store, .stored none)
  | [key], store, place =>
    match store.view.castOver limits (Dictionary.get? (store.entriesAt place) (.text key)) value with
    | .ok (cast, uncast) =>
      let added := store.addCast cast
      (added.1.setKey place (.text key) added.2, .stored uncast)
    | .error fault => (store, .failed fault)
  | key :: next :: rest, store, place =>
    match Dictionary.get? (store.entriesAt place) (.text key) with
    | none =>
      let added := store.add (.dictionary [])
      assign limits value (next :: rest) (added.1.setKey place (.text key) added.2)
        store.objects.length
    | some (.scalar _) => (store, .blocked key)
    | some (.object inner) =>
      match store.objectAt inner with
      | .dictionary _ => assign limits value (next :: rest) store inner
      | _ => (store, .blocked key)

/-- What became of a store. -/
structure Change where
  store : Store
  /-- Whether the change was made, or the fault that ended it. -/
  made : Except SettingsFault Bool
  notices : List SettingsNotice := []

/-- Sets the value at a dotted key of the settings that are held. -/
def set (limits : Limits) (store : Store) (root : Held) (path : String) (value : Held) : Change :=
  match root with
  | .scalar _ => { store, made := .error .notDictionary }
  | .object place =>
    match store.objectAt place with
    | .dictionary _ =>
      let assigned := store.assign limits value (Settings.keysOf path) place
      { store := assigned.1, made := assigned.2.made, notices := assigned.2.notices path }
    | _ => { store, made := .error .notDictionary }

end Store

end HtmlNesting
