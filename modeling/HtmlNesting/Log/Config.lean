import HtmlNesting.Log.Level

/-!
# Which records are written

Loggers have dotted names. A logger with no level of its own takes that of the nearest one above it
that has one, and at last that of the root. A record is written if its level is at least that of its
logger; one at level zero or below never is.
-/

namespace HtmlNesting.Log

/-- The levels in force. -/
structure Config where
  root : Level
  /-- The levels of single loggers, by name. -/
  loggers : Dictionary String Level := []

namespace Config

/-- Whether a name is that of the root. -/
def isRootName (name : String) : Bool :=
  name == "" || name == "root"

/-- Gives a logger a level. -/
def setLevel (config : Config) (name : String) (level : Level) : Config :=
  if isRootName name then { config with root := level }
  else { config with loggers := Dictionary.set name level config.loggers }

/-- The name that a key of a dictionary is. One that counts as false is the name of the root, and
any other that is no text is no name. -/
def nameOf (key : Scalar) : Except ConfigFault String :=
  match key with
  | .text name => .ok name
  | other => if other.truth then .error .unsuitable else .ok ""

/-- Gives levels to the loggers named in the entries of a dictionary. -/
def setLevels (config : Config) : List (Scalar × Json) → Except ConfigFault Config
  | [] => .ok config
  | (key, value) :: rest => do
    let name ← nameOf key
    let level ← Level.ofSetting value
    setLevels (config.setLevel name level) rest

/-- The levels that two settings values give: one for the root, one for single loggers. -/
def ofSettings (level loggers : Json) : Except ConfigFault Config :=
  match Level.ofSetting level with
  | .error fault => .error fault
  | .ok root =>
    match loggers with
    | .dictionary entries => setLevels { root } entries
    | other => if other.truth then .error .notDictionary else .ok { root }

/-- The level set for a logger, zero if none is. -/
def levelOf (config : Config) (name : String) : Level :=
  if isRootName name then config.root else (Dictionary.get? config.loggers name).getD 0

/-- The names of the loggers above one, nearest first: what stands before each dot, the last dot
first. The name is given reversed. A dot right before another does not count, so `skip` passes over
the character next to a dot. -/
def above (skip : Bool) : List Char → List String
  | [] => []
  | c :: rest =>
    if skip || c != '.' then above false rest
    else if rest.isEmpty then []
    else String.ofList rest.reverse :: above true rest

/-- The level that counts for a logger. -/
def effective (config : Config) (name : String) : Level :=
  if isRootName name then config.root
  else
    match (name :: above false name.toList.reverse).find? fun logger => config.levelOf logger != 0 with
    | some logger => config.levelOf logger
    | none => config.root

/-- Whether records of a logger at a level are written. -/
def enabled (config : Config) (name : String) (level : Level) : Bool :=
  decide (0 < level) && decide (config.effective name ≤ level)

end Config

end HtmlNesting.Log
