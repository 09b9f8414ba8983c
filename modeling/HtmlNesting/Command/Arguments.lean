import HtmlNesting.Number.Written
import HtmlNesting.Text.Digit
import HtmlNesting.Text.Quoted

/-!
# Command-line arguments

The arguments are sorted into tokens first: plain texts, options and the mark that ends the options.
A long option may be cut short as long as only one fits, and may have its value attached with an
equals sign. Then the tokens are read from left to right. The first run of plain texts gives the
paths; plain texts that come later, after an option, are not recognized.

`read` ends in the choices made, in a call for help or in a misuse.
-/

namespace HtmlNesting.Command

/-- The options of the command. -/
inductive Switch where
  | help | workers | settings | disable | table | listCodes | logLevel
  deriving DecidableEq, Repr

namespace Switch

/-- The spellings of the options. -/
def spellings : List (String × Switch) := [
  ("-h", help), ("--help", help), ("--workers", workers), ("--config", settings),
  ("--disable", disable), ("--export", table), ("--list-codes", listCodes),
  ("--log-level", logLevel)]

/-- The option with this spelling. -/
def spelled? (s : String) : Option Switch :=
  List.lookup s spellings

/-- Whether an option has a value. -/
def hasValue : Switch → Bool
  | help => false
  | listCodes => false
  | _ => true

/-- All spellings of an option, for messages. -/
def title (switch : Switch) : String :=
  String.intercalate "/" ((spellings.filter fun entry => entry.2 = switch).map Prod.fst)

end Switch

/-- What is wrong with the arguments. -/
inductive Misuse where
  /-- Several options fit an argument. -/
  | ambiguous (argument : String) (fitting : List String)
  | noValue (switch : Switch)
  | badInteger (switch : Switch) (value : String)
  /-- A value attached to an option that has none. -/
  | valueIgnored (switch : Switch) (value : String)
  | unrecognized (arguments : List String)
  deriving DecidableEq, Repr

/-- The words for a misuse. -/
def Misuse.message : Misuse → String
  | ambiguous argument fitting =>
    "ambiguous option: " ++ argument ++ " could match " ++ String.intercalate ", " fitting
  | noValue switch => "argument " ++ switch.title ++ ": expected one argument"
  | badInteger switch value =>
    "argument " ++ switch.title ++ ": invalid int value: " ++ Text.quoted value
  | valueIgnored switch value =>
    "argument " ++ switch.title ++ ": ignored explicit argument " ++ Text.quoted value
  | unrecognized arguments => "unrecognized arguments: " ++ String.intercalate " " arguments

/-- An argument by its form. -/
inductive Token where
  | plain (text : String)
  /-- The mark after which all arguments are plain. -/
  | separator
  /-- An option as it is spelled in full, with the value attached to it. -/
  | switch (switch : Switch) (spelling : String) (attached : Option String)
  /-- An argument in the form of an option that does not exist. -/
  | unknown (text : String)
  deriving DecidableEq, Repr

/-- An argument up to its first equals sign, and what follows that. -/
def cutAtEquals (cs : List Char) : List Char × Option (List Char) :=
  match cs.dropWhile (· != '=') with
  | [] => (cs, none)
  | _ :: value => (cs.takeWhile (· != '='), some value)

/-- The options that fit an argument, with their spellings and the value attached. With two dashes
every option that begins so fits; with one, the first letter may be an option by itself with the
rest attached to it. -/
def fitting (cs : List Char) : List (Switch × String × Option String) :=
  match cs with
  | '-' :: '-' :: _ =>
    let (start, value) := cutAtEquals cs
    (Switch.spellings.filter fun entry => start.isPrefixOf entry.1.toList).map fun entry =>
      (entry.2, entry.1, value.map String.ofList)
  | _ =>
    Switch.spellings.filterMap fun (spelling, switch) =>
      if spelling.toList == cs.take 2 then
        some (switch, spelling, some (String.ofList (cs.drop 2)))
      else if cs.isPrefixOf spelling.toList then some (switch, spelling, none)
      else none

/-- Whether there are digits and nothing else. -/
def allDigits (cs : List Char) : Bool :=
  !cs.isEmpty && cs.all fun c => (Text.digit? c).isSome

/-- Characters without a line feed at the end. -/
def withoutLineFeed (cs : List Char) : List Char :=
  if cs.getLast? == some '\n' then cs.dropLast else cs

/-- Whether what follows a dash makes it a negative number, a line feed at the end aside. -/
def isNumber (cs : List Char) : Bool :=
  let written := withoutLineFeed cs
  allDigits written ||
    match written.dropWhile fun c => (Text.digit? c).isSome with
    | '.' :: rest => allDigits rest
    | _ => false

/-- The form of an argument before the separator. -/
def Token.ofArgument (argument : String) : Except Misuse Token :=
  match argument.toList with
  | '-' :: rest =>
    match Switch.spelled? argument with
    | some found => .ok (.switch found argument none)
    | none =>
      if rest.isEmpty then .ok (.plain argument)
      else
        let (start, value) := cutAtEquals argument.toList
        match Switch.spelled? (String.ofList start), value with
        | some found, some value =>
          .ok (.switch found (String.ofList start) (some (String.ofList value)))
        | _, _ =>
          match fitting argument.toList with
          | [(found, spelling, attached)] => .ok (.switch found spelling attached)
          | [] =>
            if isNumber rest || rest.contains ' ' then .ok (.plain argument)
            else .ok (.unknown argument)
          | several => .error (.ambiguous argument (several.map fun found => found.2.1))
  | _ => .ok (.plain argument)

/-- The arguments as tokens. -/
def tokens : List String → Except Misuse (List Token)
  | [] => .ok []
  | argument :: rest =>
    if argument == "--" then .ok (.separator :: rest.map .plain)
    else
      match Token.ofArgument argument with
      | .error misuse => .error misuse
      | .ok token =>
        match tokens rest with
        | .error misuse => .error misuse
        | .ok others => .ok (token :: others)

/-- What the arguments choose. -/
structure Choices where
  paths : List String := []
  workers : Option Int := none
  /-- The file with settings. -/
  settings : Option String := none
  /-- The codes that are not reported; a code may be missing where one is asked for. -/
  disable : List (Option String) := []
  /-- The file to write the table of findings to. -/
  table : Option String := none
  listCodes : Bool := false
  logLevel : Option String := none
  deriving DecidableEq, Repr

/-- How far the run of plain texts that gives the paths has come. -/
inductive PathStage where
  | before | within | after
  deriving DecidableEq, Repr

/-- The choices made so far. -/
structure Reading where
  choices : Choices := {}
  stage : PathStage := .before
  /-- The arguments that were not recognized. -/
  extras : List String := []

/-- Why reading ends early. -/
inductive Halt where
  | help
  | misuse (found : Misuse)
  deriving DecidableEq, Repr

namespace Reading

/-- Reads a plain text. -/
def plain (reading : Reading) (text : String) : Reading :=
  if reading.stage = .after then { reading with extras := reading.extras ++ [text] }
  else
    { reading with
      choices := { reading.choices with paths := reading.choices.paths ++ [text] }
      stage := .within }

/-- Reads the separator. It belongs to the paths without being one. -/
def separator (reading : Reading) : Reading :=
  if reading.stage = .after then { reading with extras := reading.extras ++ ["--"] }
  else { reading with stage := .within }

/-- Ends the run of plain texts, if it has begun. -/
def interrupt (reading : Reading) : Reading :=
  if reading.stage = .within then { reading with stage := .after } else reading

/-- Reads an option that does not exist. -/
def unknown (reading : Reading) (argument : String) : Reading :=
  let interrupted := reading.interrupt
  { interrupted with extras := interrupted.extras ++ [argument] }

/-- Reads an option with its value. -/
def choose (reading : Reading) (switch : Switch) (value : String) : Except Halt Reading :=
  let choices := reading.choices
  match switch with
  | .workers =>
    match Written.integer? value with
    | some count => .ok { reading with choices := { choices with workers := some count } }
    | none => .error (.misuse (.badInteger switch value))
  | .settings => .ok { reading with choices := { choices with settings := some value } }
  | .disable =>
    .ok { reading with choices := { choices with disable := choices.disable ++ [some value] } }
  | .table => .ok { reading with choices := { choices with table := some value } }
  | .logLevel => .ok { reading with choices := { choices with logLevel := some value } }
  | .listCodes => .ok reading
  | .help => .ok reading

/-- Reads an option whose value is missing. What was chosen before is forgotten. -/
def chooseNone (reading : Reading) (switch : Switch) : Reading :=
  let choices := reading.choices
  match switch with
  | .workers => { reading with choices := { choices with workers := none } }
  | .settings => { reading with choices := { choices with settings := none } }
  | .disable => { reading with choices := { choices with disable := choices.disable ++ [none] } }
  | .table => { reading with choices := { choices with table := none } }
  | .logLevel => { reading with choices := { choices with logLevel := none } }
  | .listCodes => reading
  | .help => reading

/-- Reads an option with the value attached to it. The separator is never a value, so an option
that has it attached has none. -/
def chooseAttached (reading : Reading) (switch : Switch) (value : String) : Except Halt Reading :=
  if value == "--" then .ok (reading.chooseNone switch) else reading.choose switch value

/-- How reading ends at a short option for help, given what is attached to it. Short options may be
written together after one dash; what is attached and is no option is refused. -/
def shortHelp : List Char → Halt
  | [] => .misuse (.valueIgnored .help "")
  | c :: rest =>
    match Switch.spelled? (String.ofList ['-', c]), rest with
    | none, _ => .misuse (.valueIgnored .help (String.ofList (c :: rest)))
    | some _, [] => .help
    | some _, next :: others => shortHelp (next :: others)

/-- Reads an option that has no value, with what is attached to it. -/
def flag (reading : Reading) (switch : Switch) (spelling : String) :
    Option String → Except Halt Reading
  | none =>
    match switch with
    | .help => .error .help
    | _ => .ok { reading with choices := { reading.choices with listCodes := true } }
  | some attached =>
    if "--".toList.isPrefixOf spelling.toList then
      .error (.misuse (.valueIgnored switch attached))
    else .error (shortHelp attached.toList)

/-- Reads tokens from left to right. An option that still has no value takes the next token, which
has to be a plain text. -/
def tokens (reading : Reading) (awaiting : Option Switch) : List Token → Except Halt Reading
  | [] =>
    match awaiting with
    | some asked => .error (.misuse (.noValue asked))
    | none => .ok reading
  | token :: rest =>
    match awaiting, token with
    | some asked, .plain value =>
      match reading.choose asked value with
      | .error halt => .error halt
      | .ok after => tokens after none rest
    | some asked, _ => .error (.misuse (.noValue asked))
    | none, .plain value => tokens (reading.plain value) none rest
    | none, .separator => tokens reading.separator none rest
    | none, .unknown argument => tokens (reading.unknown argument) none rest
    | none, .switch asked spelling attached =>
      let interrupted := reading.interrupt
      if asked.hasValue then
        match attached with
        | none => tokens interrupted (some asked) rest
        | some given =>
          match interrupted.chooseAttached asked given with
          | .error halt => .error halt
          | .ok after => tokens after none rest
      else
        match interrupted.flag asked spelling attached with
        | .error halt => .error halt
        | .ok after => tokens after none rest

end Reading

/-- The choices that some arguments make. -/
def read (arguments : List String) : Except Halt Choices :=
  match tokens arguments with
  | .error misuse => .error (.misuse misuse)
  | .ok found =>
    match Reading.tokens {} none found with
    | .error halt => .error halt
    | .ok reading =>
      if reading.extras.isEmpty then .ok reading.choices
      else .error (.misuse (.unrecognized reading.extras))

end HtmlNesting.Command
