import HtmlNesting.Session.Basic

/-!
# What workers hand over

A worker hands a file's findings over as dictionaries of their fields, and a fault under a key of
its own. Nothing is lost on the way: findings are made again of their fields
(`Fields.toFinding_ofFinding`), the key tells the two kinds of results apart
(`WorkerResult.has_error_ofOutcome`), and so a session takes every result and keeps the outcome that
it came of (`Session.take_ofOutcome`). Hence no run is broken off (`Session.broken_lintFiles`).
-/

namespace HtmlNesting

/-! ## Findings and their fields -/

/-- Findings are made again of their fields. -/
@[simp] theorem Fields.toFinding_ofFinding (finding : Diagnostic) :
    (ofFinding finding).toFinding = .ok finding := by
  obtain ⟨code, severity, ⟨line, column⟩, tag, message, rule⟩ := finding
  rfl

theorem Fields.mapM_toFinding_ofFinding (findings : List Diagnostic) :
    (findings.map ofFinding).mapM toFinding = .ok findings := by
  induction findings with
  | nil => rfl
  | cons finding rest ih =>
    simp only [List.map_cons, List.mapM_cons, toFinding_ofFinding, ih, bind, Except.bind, pure,
      Except.pure]

/-! ## Results -/

namespace WorkerResult

/-- The findings that are handed over are those that were made. -/
theorem findings_ofFindings (source : String) (findings : List Diagnostic) :
    (ofFindings source findings).findings = .ok findings := by
  have handedOver : Dictionary.get? (ofFindings source findings) "diagnostics" =
      some (.findings (findings.map Fields.ofFinding)) := rfl
  rw [WorkerResult.findings, handedOver]
  dsimp only
  rw [Fields.mapM_toFinding_ofFinding]
  rfl

/-- A result has an error exactly if the file could not be linted. -/
theorem has_error_ofOutcome (source : String) (outcome : Except LintFault (List Diagnostic)) :
    Dictionary.has (ofOutcome source outcome) "error" = !outcome.isOk := by
  cases outcome <;> rfl

end WorkerResult

/-! ## Sessions -/

namespace Session

/-- The session with the outcome of a file. -/
def kept (session : Session) (source : String) : Except LintFault (List Diagnostic) → Session
  | .ok findings => session.collect (some source) findings
  | .error fault =>
    { session with
      failures := Dictionary.set source (fault.reason (.ofText source)) session.failures }

/-- What a worker hands over is taken, and the session keeps the outcome that it came of. -/
theorem take_ofOutcome (session : Session) (source : String)
    (outcome : Except LintFault (List Diagnostic)) :
    session.take (.ofOutcome source outcome) = .ok (session.kept source outcome) := by
  rw [take, WorkerResult.has_error_ofOutcome]
  cases outcome with
  | error fault => rfl
  | ok findings =>
    have rebuilt := WorkerResult.findings_ofFindings source findings
    have named : (WorkerResult.ofFindings source findings).textAt "source" = .ok source := rfl
    simp only [Except.isOk, Except.toBool, Bool.not_true, Bool.false_eq_true, if_false,
      WorkerResult.ofOutcome, rebuilt, named, bind, Except.bind, pure, Except.pure, kept]

end Session

/-! ## Runs -/

namespace FilesRun

/-- One step of a run: progress is reported, and the outcome of the file is kept. -/
theorem next_of_unbroken {run : FilesRun} (unbroken : run.broken = none) (total : Nat)
    (source : String) (outcome : Except LintFault (List Diagnostic)) :
    run.next total source outcome =
      { session := run.session.kept source outcome
        progress := run.progress ++ [(run.progress.length + 1, total)]
        notices := run.notices ++ FailureNotice.ofOutcome source outcome
        broken := none } := by
  simp [next, unbroken, Session.take_ofOutcome]

/-- The run over files with given outcomes, of which there are `total` in all. -/
def taken (run : FilesRun) (total : Nat)
    (outcome : String → Except LintFault (List Diagnostic)) (sources : List String) : FilesRun :=
  sources.foldl (fun run source => run.next total source (outcome source)) run

/-- A run that was not broken off goes on to its end: the outcomes are kept one after another, and
progress is reported file by file. -/
theorem taken_of_unbroken {run : FilesRun} (unbroken : run.broken = none)
    (total : Nat) (outcome : String → Except LintFault (List Diagnostic)) (sources : List String) :
    run.taken total outcome sources =
      { session := sources.foldl (fun session source => session.kept source (outcome source))
          run.session
        progress := run.progress ++ (List.range sources.length).map fun index =>
          (run.progress.length + index + 1, total)
        notices := run.notices ++ sources.flatMap fun source =>
          FailureNotice.ofOutcome source (outcome source)
        broken := none } := by
  induction sources generalizing run with
  | nil =>
    obtain ⟨session, progress, notices, broken⟩ := run
    simpa [taken] using unbroken
  | cons source rest ih =>
    have step := next_of_unbroken unbroken total source (outcome source)
    rw [taken, List.foldl_cons, step]
    change taken _ total outcome rest = _
    have shifted (index : Nat) : run.progress.length + 1 + index + 1 =
        run.progress.length + (index + 1) + 1 := by omega
    rw [ih rfl]
    simp [List.range_succ_eq_map, Function.comp_def, shifted]

end FilesRun

namespace Session

variable (session : Session) (tools : Tools) (files : FileSystem) (paths : List Path)

theorem lintFiles_eq_taken : session.lintFiles tools files paths =
    FilesRun.taken { session := session.cleared } paths.length
      (session.preferences.lintFile tools files) (paths.map Path.toText) :=
  rfl

/-- No run over files is broken off. -/
theorem broken_lintFiles : (session.lintFiles tools files paths).broken = none := by
  rw [lintFiles_eq_taken, FilesRun.taken_of_unbroken rfl]

/-- A run over files keeps their outcomes one after another. -/
theorem session_lintFiles : (session.lintFiles tools files paths).session =
    (paths.map Path.toText).foldl (fun kept source =>
      kept.kept source (session.preferences.lintFile tools files source)) session.cleared := by
  rw [lintFiles_eq_taken, FilesRun.taken_of_unbroken rfl]

/-- It reports its progress file by file. -/
theorem progress_lintFiles : (session.lintFiles tools files paths).progress =
    (List.range paths.length).map fun index => (index + 1, paths.length) := by
  rw [lintFiles_eq_taken, FilesRun.taken_of_unbroken rfl]
  simp

end Session

end HtmlNesting
