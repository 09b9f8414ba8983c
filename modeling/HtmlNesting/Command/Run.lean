import HtmlNesting.Command.Arguments
import HtmlNesting.Command.Help
import HtmlNesting.Files.Search
import HtmlNesting.Limits
import HtmlNesting.Log.Record
import HtmlNesting.Session.Basic
import HtmlNesting.Settings.Load

/-!
# The command

A run takes the arguments and the files and ends in an `Outcome`: the lines it prints, what it tells
besides, how it ends and the files as they are then. In order it reads the arguments, the settings
and the levels of the log, expands the paths, lints the files, prints what was found and writes the
table if one is wanted.

How markup is parsed and a table written is left to `Tools`, and how far down a run can go to
`Limits`. Apart from these, the only thing a run tells that does not follow from arguments and files
is how long it took, so that stands as a blank in what it tells.
-/

namespace HtmlNesting.Command

/-- A piece of what a run tells besides its results. -/
inductive Told where
  | text (words : String)
  /-- The line with the time that linting took. -/
  | duration

/-- The text of a piece, given the seconds that linting took. -/
def Told.render (seconds : String) : Told → String
  | text words => words
  | duration => "Duration:            " ++ seconds ++ " seconds\n"

/-- What breaks a run off. -/
inductive Breakdown where
  /-- The settings cannot be looked for. -/
  | search (fault : AccessFault)
  | settings (fault : SettingsFault)
  | log (fault : Log.ConfigFault)
  /-- The paths cannot be expanded. -/
  | paths (fault : AccessFault)
  | preference (fault : PreferenceFault)
  /-- What a worker hands over cannot be taken. -/
  | result (fault : ResultFault)
  /-- The table is to be sent to an address instead of a file. -/
  | address
  /-- The table is to be written where there is no directory. -/
  | noDirectory
  /-- The table is to be packed in a way that is not at hand. -/
  | noPacker
  | table (fault : AccessFault)
  deriving DecidableEq, Repr

/-- The words for what breaks a run off. -/
def Breakdown.message : Breakdown → String
  | search fault => fault.words
  | settings .notDictionary => "the settings are no dictionary"
  | settings (.cast _) => "the settings cannot be merged"
  | settings (.undecodable fault) => fault.message
  | settings .longInteger => "a number in the settings has too many digits"
  | settings .tooDeep => "the settings are nested too deeply"
  | settings .unpaired => "the settings hold half a character"
  | settings .nullByte => "embedded null byte"
  | log .notLevel => "a log level is no level"
  | log .unsuitable => "a log level is neither a number nor a name"
  | log .notDictionary => "debug.modules is no dictionary"
  | paths fault => fault.words
  | preference .unsuitable => "a lint setting is of the wrong kind"
  | preference .notDictionary => "lint.severity_overrides is no dictionary"
  | preference .tooLarge => "there are too many workers"
  | result _ => "a file was linted without a result"
  | address => "the table cannot be sent to an address"
  | noDirectory => "there is no directory for the table"
  | noPacker => "the table cannot be packed"
  | table fault => fault.words

/-- How a run ends. -/
inductive Ending where
  | exit (status : Nat)
  | broken (cause : Breakdown)
  deriving DecidableEq, Repr

/-- What a run comes to. -/
structure Outcome where
  /-- The lines printed as results. -/
  printed : List String := []
  told : List Told := []
  ending : Ending
  files : FileSystem
  /-- The file the table was written to, if it was. -/
  table : Option Path := none
  /-- The session, if the run came to lint files. -/
  session : Option Session := none

/-- The names of the loggers. -/
def logger : String := "nestlint.cli"
def sessionLogger : String := "nestlint.controllers.lint_controller"
def settingsLogger : String := "nestlint.core.managers.config_manager"

/-- Lines as told. -/
def toldLines (lines : List String) : Told :=
  .text (String.join (lines.map (· ++ "\n")))

/-- A record as told under the levels in force. -/
def told (config : Log.Config) (logger : String) (level : Log.Level) (message : String) : Told :=
  .text (config.output { logger, level, message })

/-- A notice about settings as told before the log is configured. -/
def toldNotice (notice : SettingsNotice) : Told :=
  .text (Log.bareOutput {
    logger := settingsLogger, message := notice.message
    level := if notice.isError then Log.Level.error else Log.Level.warning })

/-- A text, if there is one and it is not empty. -/
def given (s : Option String) : Option String :=
  s.filter fun text => !text.isEmpty

/-- The settings for a run: the defaults with the file over them that the arguments name, or else
the nearest one found on the way up from the first path. -/
def loadSettings (limits : Limits) (files : FileSystem) (choices : Choices) :
    Except AccessFault Change :=
  match given choices.settings with
  | some path => .ok (Settings.load limits.nesting files (.ofText path) Settings.defaults)
  | none =>
    match files.findSettings? (.ofText (choices.paths.headD "")) with
    | .error fault => .error fault
    | .ok (some path) => .ok (Settings.load limits.nesting files path Settings.defaults)
    | .ok none => .ok { settings := Settings.defaults, made := .ok true }

/-- The levels of the log for a run. -/
def logConfig (choices : Choices) (settings : Json) : Except Log.ConfigFault Log.Config :=
  let level :=
    match given choices.logLevel with
    | some name => Json.text name
    | none => Settings.lookup settings "debug.level" (.text "WARNING")
  Log.Config.ofSettings level (Settings.lookup settings "debug.modules" (.dictionary []))

/-- The codes that are not reported, by settings and by arguments. All of them are texts, and none
is missing. -/
def disabledCodes (choices : Choices) (settings : Json) :
    Except PreferenceFault (List String) := do
  let members ← Preferences.membersOf (Settings.lookup settings "lint.disabled_codes" (.list []))
  match members.mapM Json.text?, choices.disable.mapM id with
  | some codes, some others => return codes ++ others
  | _, _ => throw .unsuitable

/-- The codes among some that no rule reports, in order. -/
def unknownCodes (codes : List String) : List String :=
  Text.sortedTexts (codes.filter fun code => !Registry.builtin.codeNames.contains code)

/-- The number of workers for a run. -/
def workers (choices : Choices) (settings : Json) : Json :=
  match choices.workers with
  | some count =>
    if count = 0 then Settings.lookup settings "lint.workers" (.integer 1) else .integer count
  | none => Settings.lookup settings "lint.workers" (.integer 1)

/-- Whether a run over some files tells its totals. -/
def tellsTotals (settings : Json) (paths : List Path) : Bool :=
  decide (1 < paths.length) && (Settings.lookup settings "lint.progress" (.bool true)).truth

/-- A text filled up with blanks at the end. -/
def padRight (width : Nat) (s : String) : String :=
  s ++ String.ofList (List.replicate (width - s.length) ' ')

/-- A text filled up with blanks at the start. -/
def padLeft (width : Nat) (s : String) : String :=
  String.ofList (List.replicate (width - s.length) ' ') ++ s

/-- A line of one character. -/
def rule (c : Char) : String :=
  String.ofList (List.replicate 60 c)

/-- A line of the table of codes. -/
def countLine (code count : String) : String :=
  padRight 40 code ++ " | " ++ padLeft 5 count

/-- The codes found, the most frequent first and those of one frequency in order. -/
def byFrequency (stats : CodeCounts) : CodeCounts :=
  stats.mergeSort fun first second =>
    if first.2 = second.2 then Text.textLe first.1 second.1 else decide (second.2 < first.2)

/-- The totals of a session as told. -/
def toldTotals (summary : Summary) : List Told :=
  let counts :=
    if summary.stats.isEmpty then []
    else [rule '-', countLine "CODE" "COUNT", rule '-'] ++
      (byFrequency summary.stats).map fun (code, count) => countLine code (toString count)
  [toldLines [
      "", rule '=', "NEST LINT SUMMARY", rule '=',
      "Files Linted:        " ++ toString summary.filesLinted,
      "Files Failed:        " ++ toString summary.filesFailed,
      "Total Diagnostics:   " ++ toString summary.totalDiagnostics],
    .duration, toldLines (counts ++ [rule '=', ""])]

/-- The schemes of addresses. -/
def schemes : List String := [
  "file", "ftp", "git", "git+ssh", "gopher", "hdl", "http", "https", "imap", "mms", "nfs", "nntp",
  "prospero", "rsync", "rtsp", "rtspu", "sftp", "shttp", "sip", "sips", "snews", "svn", "svn+ssh",
  "tel", "telnet", "wais", "ws", "wss"]

/-- Whether a path reads as an address: a scheme, in any case, stands before the first colon. -/
def isAddress (path : Path) : Bool :=
  let cs := path.toText.toList
  cs.contains ':' && schemes.contains (Text.lower (String.ofList (cs.takeWhile (· != ':'))))

/-- The file for a table: packed if its name says so. -/
def tableFile (path : Path) (bytes : List UInt8) :
    Except Breakdown { tree : FileTree // tree.isSound } :=
  match Packing.ofName? path.toText with
  | none => .ok ⟨.file bytes, rfl⟩
  | some .zstandard => .error .noPacker
  | some packing => .ok ⟨.packed packing bytes, rfl⟩

/-- Writes the text of a table to a path: the files with it, or why it cannot be written. -/
def writeTable (files : FileSystem) (path : Path) (table : String) :
    Except Breakdown FileSystem :=
  if isAddress path then .error .address
  else match files.isDirectory path.around with
  | .error fault => .error (.table fault)
  | .ok false => .error .noDirectory
  | .ok true =>
    match tableFile path (Text.encode table) with
    | .error cause => .error cause
    | .ok ⟨new, newSound⟩ =>
      match files.write path new newSound with
      | .ok after => .ok after
      | .error fault => .error (.table fault)

/-- The end of a run that has linted files: results are printed, totals told and the table
written. -/
def finish (tools : Tools) (files : FileSystem) (choices : Choices) (settings : Json)
    (config : Log.Config) (paths : List Path) (before : List Told) (session : Session) : Outcome :=
  let summary := session.summary
  let failed := session.failures.map fun (source, reason) =>
    source ++ ": could not be linted: " ++ reason
  let totals := if tellsTotals settings paths then toldTotals summary else []
  let outcome : Outcome := {
    printed := session.printedRows.map Row.printed
    told := before ++ [toldLines failed] ++ totals
    ending := .exit (if summary.errors = 0 ∧ session.failures = [] then 0 else 1)
    files
    session := some session }
  match given choices.table with
  | none => outcome
  | some target =>
    let path := Path.ofText target
    let place := files.fromHome path
    match writeTable files place (session.table tools) with
    | .error cause => { outcome with ending := .broken cause }
    | .ok after =>
      { outcome with
        files := after
        table := some place
        told := outcome.told ++ [told config sessionLogger Log.Level.info
          ("Exported " ++ toString session.rows.length ++ " diagnostic(s) to " ++ path.toText)] }

/-- Lints some files with the preferences that arguments and settings give. -/
def lint (tools : Tools) (files : FileSystem) (choices : Choices) (settings : Json)
    (config : Log.Config) (paths : List Path) (before : List Told) : Outcome :=
  match disabledCodes choices settings with
  | .error fault => { told := before, ending := .broken (.preference fault), files }
  | .ok codes =>
    let unknown := unknownCodes codes
    let aboutCodes :=
      if unknown.isEmpty then []
      else [told config logger Log.Level.warning
        ("Unknown diagnostic code(s) disabled: " ++ String.intercalate ", " unknown)]
    match Overrides.ofSetting
        (Settings.lookup settings "lint.severity_overrides" (.dictionary [])) with
    | .error fault =>
      { told := before ++ aboutCodes, ending := .broken (.preference fault), files }
    | .ok (overrides, notices) =>
      let aboutOverrides := notices.map fun notice =>
        told config sessionLogger Log.Level.warning notice.message
      let ready := before ++ aboutCodes ++ aboutOverrides
      match checkWorkers (workers choices settings) paths.length with
      | .error fault => { told := ready, ending := .broken (.preference fault), files }
      | .ok () =>
        let session : Session :=
          { preferences := { disabled := Text.sortedTexts codes, overrides } }
        let run := session.lintFiles tools files paths
        let aboutFiles := run.notices.map fun notice =>
          told config sessionLogger Log.Level.error notice.message
        match run.broken with
        | some fault =>
          { told := ready ++ aboutFiles, ending := .broken (.result fault), files }
        | none =>
          let aboutRun :=
            [told config sessionLogger Log.Level.info run.session.summary.message]
          finish tools files choices settings config paths (ready ++ aboutFiles ++ aboutRun)
            run.session

/-- A run over the paths that the arguments name, with the settings loaded. -/
def runOver (tools : Tools) (limits : Limits) (files : FileSystem) (choices : Choices)
    (settings : Json) (config : Log.Config) (before : List Told) : Outcome :=
  match files.expand limits.searching choices.paths with
  | .error fault => { told := before, ending := .broken (.paths fault), files }
  | .ok [] =>
    { told := before ++ [told config logger Log.Level.warning "No HTML files found."]
      ending := .exit 0, files }
  | .ok (path :: others) => lint tools files choices settings config (path :: others) before

/-- A run with the settings that a change ended in. -/
def runWith (tools : Tools) (limits : Limits) (files : FileSystem) (choices : Choices)
    (change : Change) : Outcome :=
  let before := change.notices.map toldNotice
  match change.made with
  | .error fault => { told := before, ending := .broken (.settings fault), files }
  | .ok made =>
    match logConfig choices change.settings with
    | .error fault => { told := before, ending := .broken (.log fault), files }
    | .ok config =>
      if !made then { told := before, ending := .exit 1, files }
      else if choices.listCodes then
        { printed := Registry.builtin.codeNames, told := before, ending := .exit 0, files }
      else if choices.paths.isEmpty then
        { told := before ++ [toldLines usage], ending := .exit 1, files }
      else runOver tools limits files choices change.settings config before

/-- A run of the command. -/
def run (tools : Tools) (limits : Limits) (files : FileSystem) (arguments : List String) :
    Outcome :=
  match read arguments with
  | .error .help => { printed := helpLines, ending := .exit 0, files }
  | .error (.misuse found) =>
    { told := [toldLines usage, toldLines [Log.program ++ ": error: " ++ found.message]]
      ending := .exit 2, files }
  | .ok choices =>
    match loadSettings limits files choices with
    | .error fault => { ending := .broken (.search fault), files }
    | .ok change => runWith tools limits files choices change

end HtmlNesting.Command
