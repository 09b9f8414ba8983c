import HtmlNesting.Files.Tree
import HtmlNesting.Settings.Keys
import HtmlNesting.Settings.Merge

/-!
# Changing settings

Settings start from defaults, files are merged over them, and single values are set by dotted keys.
Each of these ends in a `Change`: the settings afterwards, whether the change was made or what fault
ended it, and what there is to tell about it.
-/

namespace HtmlNesting

/-- Something to tell about a change of settings. -/
inductive SettingsNotice where
  /-- The value of a key on the way to a setting is no dictionary. -/
  | blocked (key : String)
  /-- A value could not be cast to the kind of the one it replaces. -/
  | uncast (path : String) (kind : Json.Kind)
  /-- A file could not be read. -/
  | unread (path reason : String)
  /-- A file holds something other than a dictionary. -/
  | notDictionary (path : String)
  /-- There are no defaults. -/
  | noDefaults (path : String)
  /-- The defaults could not be read. -/
  | unreadDefaults (reason : String)
  deriving DecidableEq, Repr

namespace SettingsNotice

/-- Whether a notice is about something that was not done at all. -/
def isError : SettingsNotice → Bool
  | blocked _ => true
  | uncast _ _ => false
  | unread _ _ => true
  | notDictionary _ => true
  | noDefaults _ => false
  | unreadDefaults _ => true

/-- The words of a notice. -/
def message : SettingsNotice → String
  | blocked key => "Cannot set value: '" ++ key ++ "' is not a dictionary."
  | uncast path kind =>
    "Could not cast new value for '" ++ path ++ "' to type " ++ kind.name ++
      ". Storing as string."
  | unread path reason => "Failed to load " ++ path ++ ": " ++ reason
  | notDictionary path => "Ignoring " ++ path ++ ": expected a JSON object at the top level."
  | noDefaults path => "settings.json not found at " ++ path ++ ". Using empty config."
  | unreadDefaults reason => "Failed to load settings.json: " ++ reason

end SettingsNotice

/-- What ends a change of settings. -/
inductive SettingsFault where
  /-- The settings are no dictionary. -/
  | notDictionary
  | cast (fault : Json.CastFault)
  /-- The bytes of a file are no text. -/
  | undecodable (fault : Text.Utf8Fault)
  /-- A file holds an integer with too many digits. -/
  | longInteger
  /-- A file holds values nested too deeply. -/
  | tooDeep
  /-- A file holds half a character. -/
  | unpaired
  /-- The path of a file has a null byte in it. -/
  | nullByte
  deriving DecidableEq, Repr

/-- What became of the settings. -/
structure Change where
  settings : Json
  /-- Whether the change was made, or the fault that ended it. -/
  made : Except SettingsFault Bool
  notices : List SettingsNotice := []

namespace Settings

/-- The settings in force where nothing else is said. -/
def defaults : Json :=
  .dictionary [
    ("debug", .dictionary [("level", .text "WARNING"), ("modules", .dictionary [])]),
    ("lint", .dictionary [
      ("workers", .integer 4), ("progress", .bool true), ("disabled_codes", .list []),
      ("severity_overrides", .dictionary [])])]

/-- Whether an assignment made a change, or the fault that ended it. -/
def Assignment.made : Assignment → Except SettingsFault Bool
  | stored _ => .ok true
  | blocked _ => .ok false
  | failed fault => .error (.cast fault)

/-- What there is to tell about an assignment to a dotted key. -/
def Assignment.notices (path : String) : Assignment → List SettingsNotice
  | stored none => []
  | stored (some kind) => [.uncast path kind]
  | blocked key => [.blocked key]
  | failed _ => []

/-- Sets the value at a dotted key. -/
def set (limits : Limits) (settings : Json) (path : String) (value : Json) : Change :=
  match settings with
  | .dictionary entries =>
    let assigned := assign limits value (keysOf path) entries
    { settings := .dictionary assigned.1, made := assigned.2.made
      notices := assigned.2.notices path }
  | other => { settings := other, made := .error .notDictionary }

/-- Why the JSON value in a file cannot be had. -/
inductive FileFault where
  /-- A fault that is told and passed over, with its reason. -/
  | told (reason : String)
  /-- A fault that ends the change. -/
  | ending (fault : SettingsFault)

/-- The JSON value in a file, with values nested no deeper than some levels. -/
def readFile (nesting : Nat) (files : FileSystem) (path : Path) : Except FileFault Json :=
  match files.readText path with
  | .error (.access .nullByte) => .error (.ending .nullByte)
  | .error (.access fault) => .error (.told (fault.message path))
  | .error (.bytes fault _) => .error (.ending (.undecodable fault))
  | .ok content =>
    match Json.parse nesting content with
    | .ok value => .ok value
    | .error .longInteger => .error (.ending .longInteger)
    | .error .tooDeep => .error (.ending .tooDeep)
    | .error .unpaired => .error (.ending .unpaired)
    | .error misread => .error (.told misread.message)

/-- Merges the dictionary in a file over the settings. -/
def load (nesting : Nat) (files : FileSystem) (path : Path) (settings : Json) : Change :=
  match readFile nesting files path with
  | .error (.told reason) =>
    { settings, made := .ok false, notices := [.unread path.toText reason] }
  | .error (.ending fault) => { settings, made := .error fault }
  | .ok (.dictionary newer) =>
    match settings.toDictionary with
    | .ok older => { settings := .dictionary (Json.mergeEntries older newer), made := .ok true }
    | .error fault => { settings, made := .error (.cast fault) }
  | .ok _ => { settings, made := .ok false, notices := [.notDictionary path.toText] }

/-- Starts the settings again from a file with defaults. If there is none, or it cannot be read,
there are no settings. -/
def reset (nesting : Nat) (files : FileSystem) (path : Path) (settings : Json) : Change :=
  match files.asks path fun _ => true with
  | .error fault =>
    { settings := .dictionary [], made := .ok true
      notices := [.unreadDefaults (fault.message path)] }
  | .ok false =>
    { settings := .dictionary [], made := .ok true, notices := [.noDefaults path.toText] }
  | .ok true =>
    match readFile nesting files path with
    | .ok value => { settings := value, made := .ok true }
    | .error (.told reason) =>
      { settings := .dictionary [], made := .ok true, notices := [.unreadDefaults reason] }
    | .error (.ending fault) => { settings, made := .error fault }

end Settings

end HtmlNesting
