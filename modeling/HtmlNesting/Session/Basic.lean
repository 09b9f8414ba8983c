import HtmlNesting.Session.Worker

/-!
# Sessions

A session lints sources one after another and keeps what was found: the findings of each source, the
sources that could not be linted and why, a row for each finding and how often each code occurred.
Linting a list of files starts these records anew; linting a single text adds to them.

A run over files takes what the workers hand over one after another, and each time reports first how
far it is.
-/

namespace HtmlNesting

/-- What a session has found. -/
structure Session where
  preferences : Preferences
  /-- The findings of each source, by its name; a source may have none. -/
  results : Dictionary (Option String) (List Diagnostic) := []
  /-- Why sources could not be linted, by their names. -/
  failures : Dictionary String String := []
  rows : List Row := []
  stats : CodeCounts := []

/-- Totals of a session. -/
structure Summary where
  filesLinted : Nat
  filesWithDiagnostics : Nat
  filesFailed : Nat
  totalDiagnostics : Nat
  errors : Nat
  stats : CodeCounts

/-- Why what a worker hands over cannot be taken. -/
inductive ResultFault where
  /-- A key that must be there is not, or has a value of another kind. -/
  | missing (key : String)
  | finding (fault : FieldFault)
  deriving DecidableEq, Repr

/-- A session after a list of files, how its progress was reported, which files failed, and what
broke the run off, if anything did. -/
structure FilesRun where
  session : Session
  progress : List (Nat × Nat) := []
  notices : List FailureNotice := []
  broken : Option ResultFault := none

namespace WorkerResult

/-- The text under a key. -/
def textAt (result : WorkerResult) (key : String) : Except ResultFault String :=
  match Dictionary.get? result key with
  | some (.text value) => .ok value
  | _ => .error (.missing key)

/-- The findings that are handed over, made again of their fields. -/
def findings (result : WorkerResult) : Except ResultFault (List Diagnostic) :=
  match Dictionary.get? result "diagnostics" with
  | some (.findings records) => (records.mapM Fields.toFinding).mapError .finding
  | _ => .error (.missing "diagnostics")

end WorkerResult

namespace Session

/-- Keeps the findings of a source. -/
def collect (session : Session) (source : Option String) (findings : List Diagnostic) : Session :=
  { session with
    results := Dictionary.set source findings session.results
    rows := session.rows ++ findings.map fun finding => { source, finding }
    stats := findings.foldl CodeCounts.add session.stats }

/-- The session without what it has found. -/
def cleared (session : Session) : Session :=
  { preferences := session.preferences }

/-- The name of a text for which none is given. -/
def unnamed : String := "<string>"

/-- Lints a text and keeps what is found. -/
def lintSource (session : Session) (tools : Tools) (markup : String) (source : Option String) :
    Except LintFault (Session × List Diagnostic) :=
  match session.preferences.lintMarkup tools markup source with
  | .error fault => .error fault
  | .ok findings => .ok (session.collect source findings, findings)

/-- Keeps what a worker hands over for a file: under the source an error, if there is one, and else
the findings. -/
def take (session : Session) (result : WorkerResult) : Except ResultFault Session :=
  if Dictionary.has result "error" then do
    let error ← result.textAt "error"
    let source ← result.textAt "source"
    return { session with failures := Dictionary.set source error session.failures }
  else do
    let findings ← result.findings
    let source ← result.textAt "source"
    return session.collect (some source) findings

end Session

/-- The run after one more file, given its outcome and how many files there are in all. Progress is
reported first. A run that was broken off takes no more. -/
def FilesRun.next (run : FilesRun) (total : Nat) (source : String)
    (outcome : Except LintFault (List Diagnostic)) : FilesRun :=
  if run.broken.isSome then run
  else
    let told : FilesRun :=
      { run with
        progress := run.progress ++ [(run.progress.length + 1, total)]
        notices := run.notices ++ FailureNotice.ofOutcome source outcome }
    match run.session.take (.ofOutcome source outcome) with
    | .ok session => { told with session }
    | .error fault => { told with broken := some fault }

namespace Session

/-- Lints a list of files, each by a worker. What was found before is forgotten. -/
def lintFiles (session : Session) (tools : Tools) (files : FileSystem) (paths : List Path) :
    FilesRun :=
  (paths.map Path.toText).foldl (fun run source =>
    run.next paths.length source (session.preferences.lintFile tools files source))
    { session := session.cleared }

/-- The number of findings that are errors. -/
def errorCount (session : Session) : Nat :=
  (session.results.flatMap Prod.snd).countP fun finding => finding.severity = .error

/-- The totals of a session. -/
def summary (session : Session) : Summary where
  filesLinted := session.results.length
  filesWithDiagnostics := (session.results.filter fun (_, findings) => !findings.isEmpty).length
  filesFailed := session.failures.length
  totalDiagnostics := session.stats.total
  errors := session.errorCount
  stats := session.stats

/-- The table of all findings. -/
def table (session : Session) (tools : Tools) : String :=
  tools.table session.rows

/-- The findings of all sources in order, as rows. -/
def printedRows (session : Session) : List Row :=
  session.results.flatMap fun (source, findings) =>
    findings.map fun finding => { source, finding }

end Session

/-- The words about a list of files that was linted. -/
def Summary.message (summary : Summary) : String :=
  "Linted " ++ toString summary.filesLinted ++ " file(s): " ++
    toString summary.totalDiagnostics ++ " diagnostic(s), " ++ toString summary.filesFailed ++
    " failure(s)"

/-- The greatest number of workers. -/
def maxWorkers : Int := 2147483646

/-- Whether a settings value can be the number of workers for some files. It does not change what is
found, but must be a number and, if there is work to share, a whole one. -/
def checkWorkers (workers : Json) (total : Nat) : Except PreferenceFault Unit :=
  match workers.shape.scalar? with
  | none => .error .unsuitable
  | some number =>
    if !number.isNumber then .error .unsuitable
    else if number.numberLe (.integer 1) || total ≤ 1 then .ok ()
    else
      match number.whole? with
      | none => .error .unsuitable
      | some count => if count ≤ maxWorkers then .ok () else .error .tooLarge

end HtmlNesting
