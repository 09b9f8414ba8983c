import HtmlNesting.Json.Value
import HtmlNesting.Text.Case

/-!
# Levels of log records

A level is a number; the higher, the more pressing. Some levels have names. A settings value gives a
level as a number or as a name in any case; a name that is not known counts as a warning.
-/

namespace HtmlNesting.Log

/-- How pressing a record is. -/
abbrev Level := Int

namespace Level

def notSet : Level := 0
def debug : Level := 10
def info : Level := 20
def warning : Level := 30
def error : Level := 40
def critical : Level := 50

/-- The name of a level. -/
def name (level : Level) : String :=
  if level = notSet then "NOTSET"
  else if level = debug then "DEBUG"
  else if level = info then "INFO"
  else if level = warning then "WARNING"
  else if level = error then "ERROR"
  else if level = critical then "CRITICAL"
  else "Level " ++ Decimal.signedText level

/-- The names that may stand for a level. -/
def named : List (String × Level) := [
  ("CRITICAL", critical), ("FATAL", critical), ("ERROR", error), ("WARNING", warning),
  ("WARN", warning), ("INFO", info), ("DEBUG", debug), ("NOTSET", notSet)]

/-- A name that is known but stands for a text instead of a level. -/
def formatName : String := "BASIC_FORMAT"

/-- A name that is known but stands for a dictionary instead of a level. -/
def stylesName : String := "_STYLES"

end Level

/-- Why a settings value does not configure the log. -/
inductive ConfigFault where
  /-- A name that stands for something other than a level. -/
  | notLevel
  /-- A value of a kind that gives no level. -/
  | unsuitable
  /-- The levels of single loggers are given by something other than a dictionary. -/
  | notDictionary
  deriving DecidableEq, Repr

/-- The level that a settings value gives. -/
def Level.ofSetting : Json → Except ConfigFault Level
  | .text value =>
    let name := Text.upper value
    if name == formatName then .error .notLevel
    else if name == stylesName then .error .unsuitable
    else .ok ((Dictionary.get? named name).getD warning)
  | .integer value => .ok value
  | .bool value => .ok (if value then 1 else 0)
  | _ => .error .unsuitable

end HtmlNesting.Log
