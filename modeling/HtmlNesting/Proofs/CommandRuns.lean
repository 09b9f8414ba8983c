import Mathlib.Data.List.Nodup
import HtmlNesting.Command.Run
import HtmlNesting.Proofs.Expansion
import HtmlNesting.Proofs.FileRuns

/-!
# What a run of the command shows

A run that comes to lint files ends in `finish` with a session over the files that its paths stand
for (`Command.exists_of_session`). These are different files, so the findings that are printed, the
rows of the table and the totals are about the same findings, and the exit status follows from them.
-/

namespace HtmlNesting

namespace Row

/-- The line of a row tells where a finding is, how severe it is, its code and its message. -/
theorem printed_eq (row : Row) : row.printed =
    row.source.getD "" ++ ":" ++ Decimal.signedText row.finding.position.line ++ ":" ++
      Decimal.signedText row.finding.position.column ++ " " ++ row.finding.severity.name ++ " " ++
      row.finding.code ++ " " ++ row.finding.message :=
  rfl

/-- The fields of a row are what there is to tell about a finding, in the order of the columns. -/
theorem fields_eq (row : Row) : row.fields = [
    row.source.getD "", Decimal.signedText row.finding.position.line,
    Decimal.signedText row.finding.position.column, row.finding.severity.name,
    row.finding.code, row.finding.tag, row.finding.message, row.finding.rule] :=
  rfl

end Row

namespace Session

/-- There are no errors exactly if none is printed. -/
theorem errorCount_eq_zero_iff (session : Session) :
    session.errorCount = 0 ↔ ∀ row ∈ session.printedRows, row.finding.severity ≠ .error := by
  rw [errorCount, List.countP_eq_zero]
  simp only [decide_eq_true_eq]
  constructor
  · intro noErrors row member
    obtain ⟨entry, listed, found⟩ := List.mem_flatMap.mp member
    obtain ⟨finding, findingIn, rfl⟩ := List.mem_map.mp found
    exact noErrors finding (List.mem_flatMap.mpr ⟨entry, listed, findingIn⟩)
  · intro noErrors finding member
    obtain ⟨⟨source, findings⟩, listed, findingIn⟩ := List.mem_flatMap.mp member
    exact noErrors { source, finding }
      (List.mem_flatMap.mpr ⟨_, listed, List.mem_map.mpr ⟨finding, findingIn, rfl⟩⟩)

end Session

namespace Command

/-! ## The stages of a run -/

variable {tools : Tools} {limits : Limits} {files : FileSystem} {choices : Choices}
  {settings : Json} {config : Log.Config} {paths : List Path} {before : List Told}
  {session : Session}

theorem session_finish :
    (finish tools files choices settings config paths before session).session = some session := by
  simp only [finish]
  split
  · rfl
  · split <;> rfl

theorem printed_finish :
    (finish tools files choices settings config paths before session).printed =
      session.printedRows.map Row.printed := by
  simp only [finish]
  split
  · rfl
  · split <;> rfl

/-- A run that has linted files ends with a status, unless the table it is to write breaks it
off. -/
theorem ending_finish :
    (finish tools files choices settings config paths before session).ending =
        .exit (if session.errorCount = 0 ∧ session.failures = [] then 0 else 1) ∨
      given choices.table ≠ none ∧ ∃ cause,
        (finish tools files choices settings config paths before session).ending = .broken cause := by
  simp only [finish]
  split
  · exact .inl rfl
  next isGiven =>
    split
    next cause _ => exact .inr ⟨by simp [isGiven], cause, rfl⟩
    next => exact .inl rfl

/-- A run that ends with a status has 1 exactly if it prints an error or a file fails. -/
theorem status_of_finish {status : Nat}
    (ended : (finish tools files choices settings config paths before session).ending = .exit status) :
    status = if (∃ row ∈ session.printedRows, row.finding.severity = .error) ∨
      0 < session.summary.filesFailed then 1 else 0 := by
  have decided : status = if session.errorCount = 0 ∧ session.failures = [] then 0 else 1 := by
    rcases @ending_finish tools files choices settings config paths before session with
      returned | ⟨-, cause, broken⟩
    · rw [returned] at ended
      exact (Ending.exit.inj ended).symm
    · rw [broken] at ended
      cases ended
  rw [decided]
  by_cases quiet : session.errorCount = 0 ∧ session.failures = []
  · rw [if_pos quiet, if_neg]
    rintro (⟨row, member, isError⟩ | failed)
    · exact session.errorCount_eq_zero_iff.mp quiet.1 row member isError
    · simp [Session.summary, quiet.2] at failed
  · rw [if_neg quiet, if_pos]
    by_contra silent
    rw [not_or, not_exists] at silent
    apply quiet
    constructor
    · apply session.errorCount_eq_zero_iff.mpr
      intro row member isError
      exact silent.1 row ⟨member, isError⟩
    · simpa [Session.summary] using silent.2

/-- If linting comes to a session, that is one over the files. -/
theorem exists_of_session_lint
    (linted : (lint tools files choices settings config paths before).session = some session) :
    ∃ (start : Session) (told : List Told), session = (start.lintFiles tools files paths).session ∧
      lint tools files choices settings config paths before =
        finish tools files choices settings config paths told session := by
  simp only [lint, Session.broken_lintFiles] at linted ⊢
  split at linted
  · cases linted
  · split at linted
    · cases linted
    · split at linted
      · cases linted
      · rw [session_finish] at linted
        exact ⟨_, _, (Option.some.inj linted).symm, by rw [Option.some.inj linted]⟩

/-- A run over paths comes to a session by linting the files they stand for. -/
theorem exists_of_session_runOver
    (linted : (runOver tools limits files choices settings config before).session = some session) :
    ∃ (paths : List Path) (start : Session) (told : List Told),
      files.expand limits.searching choices.paths = .ok paths ∧
      session = (start.lintFiles tools files paths).session ∧
      runOver tools limits files choices settings config before =
        finish tools files choices settings config paths told session := by
  rw [runOver] at linted ⊢
  cases expanded : files.expand limits.searching choices.paths with
  | error fault => simp [expanded] at linted
  | ok found =>
    cases found with
    | nil => simp [expanded] at linted
    | cons path others =>
      simp only [expanded] at linted ⊢
      obtain ⟨start, told, same, ends⟩ := exists_of_session_lint linted
      exact ⟨path :: others, start, told, rfl, same, ends⟩

/-- A run with settings comes to a session only over its paths. -/
theorem exists_of_session_runWith {change : Change}
    (linted : (runWith tools limits files choices change).session = some session) :
    ∃ (config : Log.Config) (told : List Told), runWith tools limits files choices change =
      runOver tools limits files choices change.settings config told := by
  simp only [runWith] at linted ⊢
  cases made : change.made with
  | error fault => simp [made] at linted
  | ok isMade =>
    cases configured : logConfig choices change.settings with
    | error fault => simp [made, configured] at linted
    | ok config =>
      simp only [made, configured] at linted ⊢
      by_cases failed : isMade = false
      · simp [failed] at linted
      · by_cases lists : choices.listCodes
        · simp [failed, lists] at linted
        · by_cases nowhere : choices.paths.isEmpty
          · simp [failed, lists, nowhere] at linted
          · exact ⟨config, change.notices.map toldNotice, by simp [failed, lists, nowhere]⟩

/-- A run comes to a session by linting the files that the paths among its arguments stand for. -/
theorem exists_of_session {arguments : List String}
    (linted : (run tools limits files arguments).session = some session) :
    ∃ (choices : Choices) (settings : Json) (config : Log.Config) (paths : List Path)
      (start : Session) (told : List Told),
      read arguments = .ok choices ∧ files.expand limits.searching choices.paths = .ok paths ∧
      session = (start.lintFiles tools files paths).session ∧
      run tools limits files arguments =
        finish tools files choices settings config paths told session := by
  rw [run] at linted ⊢
  cases given : read arguments with
  | error stop => cases stop <;> simp [given] at linted
  | ok choices =>
    cases loaded : loadSettings limits files choices with
    | error fault => simp [given, loaded] at linted
    | ok change =>
      simp only [given, loaded] at linted ⊢
      obtain ⟨config, before, overPaths⟩ := exists_of_session_runWith linted
      rw [overPaths] at linted ⊢
      obtain ⟨paths, start, told, expanded, same, ends⟩ := exists_of_session_runOver linted
      exact ⟨choices, change.settings, config, paths, start, told, rfl, expanded, same, ends⟩

/-- A run that lints files and returns shows the same in all its outputs, whatever parser and table
writer it uses and however far down it can go. It prints a line for each row of the table, in order,
with the row's source, line, column, severity, code and message, and the totals count these rows.
Each of the files that the paths stand for is linted or fails, and counts once. The status is 1
exactly if a row is an error or a file fails. -/
theorem run_outputs_agree {tools : Tools} {limits : Limits} {files : FileSystem}
    {arguments : List String} {session : Session} {status : Nat}
    (linted : (run tools limits files arguments).session = some session)
    (ended : (run tools limits files arguments).ending = .exit status) :
    (run tools limits files arguments).printed = session.rows.map (fun row =>
      row.source.getD "" ++ ":" ++ Decimal.signedText row.finding.position.line ++ ":" ++
        Decimal.signedText row.finding.position.column ++ " " ++ row.finding.severity.name ++ " " ++
        row.finding.code ++ " " ++ row.finding.message) ∧
    (∀ row ∈ session.rows, row.fields = [
      row.source.getD "", Decimal.signedText row.finding.position.line,
      Decimal.signedText row.finding.position.column, row.finding.severity.name,
      row.finding.code, row.finding.tag, row.finding.message, row.finding.rule]) ∧
    session.summary.totalDiagnostics = (run tools limits files arguments).printed.length ∧
    session.summary.stats.total = (run tools limits files arguments).printed.length ∧
    (∃ choices paths, read arguments = .ok choices ∧
      files.expand limits.searching choices.paths = .ok paths ∧ paths.Nodup ∧
      (∀ path ∈ paths, Xor (some path.toText ∈ Dictionary.keys session.results)
        (path.toText ∈ Dictionary.keys session.failures)) ∧
      session.summary.filesLinted + session.summary.filesFailed = paths.length) ∧
    status = if (∃ row ∈ session.rows, row.finding.severity = .error) ∨
      0 < session.summary.filesFailed then 1 else 0 := by
  obtain ⟨choices, settings, config, paths, start, told, given, expanded, rfl, ends⟩ :=
    exists_of_session linted
  have apart := FileSystem.nodup_toText_of_expand expanded
  have proper := FileSystem.isProper_of_mem_expand expanded
  have keeps := Session.keeps_lintFiles tools files start paths
  have sameRows := Session.printedRows_lintFiles_of_nodup start tools files apart
  have printed : (run tools limits files arguments).printed =
      (start.lintFiles tools files paths).session.rows.map Row.printed := by
    rw [ends, printed_finish, sameRows]
  have counted : (start.lintFiles tools files paths).session.summary.totalDiagnostics =
      (run tools limits files arguments).printed.length := by
    rw [printed, List.length_map, keeps.total]
  refine ⟨?_, fun row _ => row.fields_eq, counted, counted,
    ⟨choices, paths, given, expanded, List.Nodup.of_map _ apart, ?_, ?_⟩, ?_⟩
  · rw [printed]
    exact List.map_congr_left fun row _ => row.printed_eq
  · intro path member
    have findings := start.mem_keys_results_iff tools files member (proper path member)
    have failure := start.mem_keys_failures_iff tools files member (proper path member)
    by_cases lintable : files.Lintable tools path
    · exact .inl ⟨findings.mpr lintable, fun failed => failure.mp failed lintable⟩
    · exact .inr ⟨failure.mpr lintable, fun found => lintable (findings.mp found)⟩
  · exact Session.length_results_add_length_failures start tools files apart
  · rw [ends] at ended
    rw [← sameRows]
    exact status_of_finish ended

end Command

/-- A directory with a list that has a word in it and a file that may not be opened. -/
def sharedSite : FileSystem where
  root := .directory [("list.html", .file (Text.encode "<ul>x")), ("shut.html", .locked)]
  workingDirectory := []

/-- The arguments name the second file twice, by itself and with its directory. -/
def sharedChoices : Command.Choices where
  paths := [".", "shut.html"]

def listFile : Path where
  start := .workingDirectory
  parts := ["list.html"]

def shutFile : Path where
  start := .workingDirectory
  parts := ["shut.html"]

def sharedSession : Session :=
  (Session.lintFiles { preferences := {} } .standard sharedSite [listFile, shutFile]).session

/-- How far down the run can go. -/
def sharedLimits : Limits where
  nesting := 1
  showing := 1
  searching := 1

theorem sharedSite_expanded : sharedSite.expand sharedLimits.searching sharedChoices.paths =
    .ok [listFile, shutFile] := by
  have found : gather (sharedSite.filesOf sharedLimits.searching)
      (sharedChoices.paths.map Path.ofText) = .ok [listFile, shutFile, shutFile] := rfl
  have sorted : [listFile, shutFile, shutFile].Pairwise
      fun first second => first.le second = true := by decide
  have once : Text.dropRepeats [listFile, shutFile, shutFile] = [listFile, shutFile] := by decide
  simp only [FileSystem.expand, found, Text.distinctSorted, List.mergeSort_of_pairwise sorted, once]

theorem sharedSite_settings : Command.loadSettings sharedLimits sharedSite sharedChoices =
    .ok { settings := Settings.defaults, made := .ok true } := by
  have absent : sharedSite.isFile (Path.child { start := .root, parts := [] }
      FileSystem.settingsName) = .ok false := rfl
  have nowhere : sharedSite.settingsAbove? { start := .root, parts := [] } = .ok none := by
    rw [FileSystem.settingsAbove?, absent]
    rfl
  have unsettled : sharedSite.findSettings? (.ofText ".") = .ok none := nowhere
  simp only [Command.loadSettings, Command.given, sharedChoices, Option.filter_none,
    List.headD_cons, unsettled]

/-- The run comes to lint both files. -/
theorem sharedSite_run : ∃ config told,
    Command.run .standard sharedLimits sharedSite [".", "shut.html"] =
      Command.finish .standard sharedSite sharedChoices Settings.defaults config
        [listFile, shutFile] told sharedSession := by
  have given : Command.read [".", "shut.html"] = .ok sharedChoices := rfl
  obtain ⟨config, configured⟩ : ∃ config,
      Command.logConfig sharedChoices Settings.defaults = .ok config := ⟨_, rfl⟩
  have overPaths : ∃ told, Command.run .standard sharedLimits sharedSite [".", "shut.html"] =
      Command.lint .standard sharedSite sharedChoices Settings.defaults config
        [listFile, shutFile] told := by
    simp only [Command.run, given, sharedSite_settings, Command.runWith, configured,
      Command.runOver, sharedSite_expanded]
    exact ⟨_, rfl⟩
  obtain ⟨told, linted⟩ := overPaths
  have noCodes : Command.disabledCodes sharedChoices Settings.defaults = .ok [] := rfl
  have noOverrides : Overrides.ofSetting (Settings.lookup Settings.defaults
      "lint.severity_overrides" (.dictionary [])) = .ok ([], []) := rfl
  have enough : checkWorkers (Command.workers sharedChoices Settings.defaults)
      [listFile, shutFile].length = .ok () := rfl
  have unsorted : Text.sortedTexts [] = [] := by
    simp [Text.sortedTexts, Text.distinctSorted, Text.dropRepeats]
  rw [linted]
  simp only [Command.lint, Session.broken_lintFiles, noCodes, noOverrides, enough, unsorted]
  exact ⟨config, _, rfl⟩

/-- The word is found. -/
theorem sharedSession_rows : sharedSession.rows ≠ [] := by
  have holds : sharedSite.Holds listFile "<ul>x" := rfl
  have oneLine : Text.translated "<ul>x" = "<ul>x" := rfl
  obtain ⟨findings, found, returned⟩ := wordInList_reported (some listFile.toText)
  rw [sharedSession, (Session.keeps_lintFiles .standard sharedSite _ _).rows, List.map_cons,
    Session.filesLedger, List.flatMap_cons, Preferences.lintFile_of_holds (by decide) holds, oneLine,
    returned]
  simp [Ledger.entered, Ledger.rowsOf, found]

/-- The other file fails. -/
theorem sharedSession_failures : sharedSession.failures ≠ [] := by
  have shut : ¬ sharedSite.Lintable .standard shutFile := by
    rintro ⟨text, document, holds, -⟩
    have locked : sharedSite.read shutFile = .error .locked := rfl
    rw [FileSystem.Holds, locked] at holds
    cases holds
  have failed := (Session.mem_keys_failures_iff { preferences := {} } .standard sharedSite
    (by simp : shutFile ∈ [listFile, shutFile]) (by decide)).mpr shut
  intro none
  rw [← sharedSession, none] at failed
  simp [Dictionary.keys] at failed

theorem sharedSite_ending :
    (Command.run .standard sharedLimits sharedSite [".", "shut.html"]).ending = .exit 1 := by
  obtain ⟨config, told, ends⟩ := sharedSite_run
  rw [ends]
  rcases Command.ending_finish with returned | ⟨table, -⟩
  · rw [returned, if_neg]
    exact fun quiet => sharedSession_failures quiet.2
  · exact absurd rfl table

/-- A finding is printed and counted, a file fails and the status is 1. -/
theorem run_outputs_agree_sharedSite :
    let outcome := Command.run .standard sharedLimits sharedSite [".", "shut.html"]
    outcome.session = some sharedSession ∧ outcome.ending = .exit 1 ∧ outcome.printed ≠ [] ∧
    sharedSession.summary.totalDiagnostics = outcome.printed.length ∧
    ∃ paths, sharedSite.expand 1 [".", "shut.html"] = .ok paths ∧
      sharedSession.summary.filesLinted + sharedSession.summary.filesFailed = paths.length := by
  intro outcome
  have linted : outcome.session = some sharedSession := by
    obtain ⟨config, told, ends⟩ := sharedSite_run
    rw [show outcome = _ from ends, Command.session_finish]
  obtain ⟨printed, -, total, -, ⟨choices, paths, given, expanded, -, -, counted⟩, -⟩ :=
    Command.run_outputs_agree linted sharedSite_ending
  cases given
  refine ⟨linted, sharedSite_ending, ?_, total, paths, expanded, counted⟩
  rw [show outcome.printed = _ from printed]
  simpa using sharedSession_rows

end HtmlNesting
