import HtmlNesting.Log.Config
import HtmlNesting.Log.Template

/-!
# Log records

A record is written like a compiler's message: the program, the level and the message. One for
debugging also tells which logger wrote it and where. The message may be a template to be filled.
-/

namespace HtmlNesting.Log

/-- The name of the program in messages. -/
def program : String := "nestlint"

/-- Something to be logged. -/
structure Record where
  logger : String
  level : Level
  message : String
  /-- The line that logs it. -/
  line : Int := 0
  /-- The text of a fault to be shown with it. -/
  fault : Option String := none

/-- A record with values filled into its message. -/
def Record.filled (record : Record) (values : List Json) : Except TemplateFault Record :=
  (fill record.message values).map fun message => { record with message }

/-- The text of a fault. -/
def faultText (text : String) : String :=
  if text == "" then "ValueError" else "ValueError: " ++ text

/-- A record as it is written, under the name of a program. -/
def Record.written (record : Record) (program : String) : String :=
  let heading := program ++ ": " ++ Text.lower record.level.name ++ ": " ++ record.message
  let origin :=
    if record.level ≤ Level.debug then
      " [" ++ record.logger ++ ":" ++ Decimal.signedText record.line ++ "]"
    else ""
  let fault :=
    match record.fault with
    | some text => "\n" ++ faultText text
    | none => ""
  heading ++ origin ++ fault

/-- What is written for a record, if anything is. -/
def Config.output (config : Config) (record : Record) : String :=
  if config.enabled record.logger record.level then record.written program ++ "\n" else ""

/-- What is written for a record before anything is configured. -/
def bareOutput (record : Record) : String :=
  if Level.warning ≤ record.level then record.message ++ "\n" else ""

end HtmlNesting.Log
