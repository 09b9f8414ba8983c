import Mathlib.Data.List.Induction
import HtmlNesting.Proofs.Validation
import HtmlNesting.Proofs.WorkerResults

/-!
# What a session adds up

A session keeps its findings in three ways: by source, where a later list takes the place of an
earlier one; as rows, where all are added; and as numbers of codes, which only grow. A `Ledger`
lists what was collected since the records were last started anew. All three follow from it
(`Session.Keeps`), so they can be compared: rows and numbers always agree, and they agree with the
findings by source exactly if no findings were replaced (`Session.Keeps.agrees_iff`).
-/

namespace HtmlNesting

/-! ## Setting keys one after another -/

namespace Dictionary

variable {κ α β : Type} [BEq κ]

/-- What the entries make after a key was set, with what its old value made, is what they made
before with what its new value makes. -/
theorem flatMap_set_perm [LawfulBEq κ] (make : κ × α → List β) (entries : Dictionary κ α) (key : κ)
    (value : α) :
    ((set key value entries).flatMap make ++
        (get? entries key).toList.flatMap fun old => make (key, old)).Perm
      (entries.flatMap make ++ make (key, value)) := by
  induction entries with
  | nil => simp [set, get?]
  | cons entry rest ih =>
    obtain ⟨other, held⟩ := entry
    by_cases same : (other == key) = true
    · rw [set, get?, if_pos same, if_pos same, eq_of_beq same, List.flatMap_cons,
        List.flatMap_cons, Option.toList_some, List.flatMap_singleton, List.append_assoc]
      -- The old list comes first and the new one last.
      refine List.perm_append_comm.trans (.append_right _ ?_)
      exact List.perm_append_comm
    · rw [set, get?, if_neg same, if_neg same, List.flatMap_cons, List.flatMap_cons,
        List.append_assoc, List.append_assoc]
      exact ih.append_left _

end Dictionary

namespace CodeCounts

theorem total_cons (code : String) (count : Nat) (rest : CodeCounts) :
    total ((code, count) :: rest) = count + rest.total := by
  rw [total, List.map_cons, List.sum_cons, total]

/-- The total after a count was set. -/
theorem total_set (counts : CodeCounts) (code : String) (count : Nat) :
    total (Dictionary.set code count counts) + (Dictionary.get? counts code).getD 0 =
      counts.total + count := by
  induction counts with
  | nil => rw [Dictionary.set, total_cons, Dictionary.get?, Option.getD_none, Nat.add_comm count,
      Nat.add_zero]
  | cons entry rest ih =>
    obtain ⟨other, held⟩ := entry
    by_cases same : (other == code) = true
    · rw [Dictionary.set, Dictionary.get?, if_pos same, if_pos same, total_cons, total_cons,
        Option.getD_some]
      omega
    · rw [Dictionary.set, Dictionary.get?, if_neg same, if_neg same, total_cons, total_cons]
      omega

end CodeCounts

/-! ## Ledgers -/

/-- The lists of findings that were collected, each with its source, in order. -/
abbrev Ledger := List (Option String × List Diagnostic)

namespace Ledger

/-- The rows of a list of findings. -/
def rowsOf (entry : Option String × List Diagnostic) : List Row :=
  entry.2.map fun finding => { source := entry.1, finding }

@[simp] theorem length_rowsOf (entry : Option String × List Diagnostic) :
    (rowsOf entry).length = entry.2.length :=
  List.length_map _

/-- What a source that was linted with some outcome adds. -/
def entered (source : Option String) : Except LintFault (List Diagnostic) → Ledger
  | .ok findings => [(source, findings)]
  | .error _ => []

/-- No findings of a source were followed by others of the same source. -/
def Unreplaced (ledger : Ledger) : Prop :=
  ledger.Pairwise fun earlier later => earlier.1 = later.1 → earlier.2 = []

theorem unreplaced_concat (ledger : Ledger) (entry : Option String × List Diagnostic) :
    Unreplaced (ledger ++ [entry]) ↔
      Unreplaced ledger ∧ ∀ earlier ∈ ledger, earlier.1 = entry.1 → earlier.2 = [] := by
  simp [Unreplaced, List.pairwise_append]

/-- Where nothing was replaced, what is not under its source is empty. -/
theorem Unreplaced.get?_ofList {ledger : Ledger} (unreplaced : ledger.Unreplaced)
    {entry : Option String × List Diagnostic} (member : entry ∈ ledger) :
    entry.2 = [] ∨ Dictionary.get? (Dictionary.ofList ledger) entry.1 = some entry.2 := by
  induction ledger using List.reverseRecOn with
  | nil => simp at member
  | append_singleton ledger last ih =>
    rw [unreplaced_concat] at unreplaced
    rw [Dictionary.ofList_concat]
    rcases List.mem_append.mp member with before | isLast
    · by_cases same : entry.1 = last.1
      · exact .inl (unreplaced.2 entry before same)
      · rw [Dictionary.get?_set_of_ne _ _ _ _ same]
        exact ih unreplaced.1 before
    · rw [List.mem_singleton.mp isLast]
      exact .inr (Dictionary.get?_set_self _ _ _)

/-- The findings under their sources, with those that the last list replaced, are those that were
there before with the last list. -/
theorem rows_concat_perm (ledger : Ledger) (entry : Option String × List Diagnostic) :
    ((Dictionary.ofList (ledger ++ [entry])).flatMap rowsOf ++
        (Dictionary.get? (Dictionary.ofList ledger) entry.1).toList.flatMap fun old =>
          rowsOf (entry.1, old)).Perm
      ((Dictionary.ofList ledger).flatMap rowsOf ++ rowsOf entry) := by
  rw [Dictionary.ofList_concat]
  exact Dictionary.flatMap_set_perm rowsOf _ entry.1 entry.2

/-- Where nothing was replaced, the findings under their sources are all there were. -/
theorem Unreplaced.rows_perm {ledger : Ledger} (unreplaced : ledger.Unreplaced) :
    ((Dictionary.ofList ledger).flatMap rowsOf).Perm (ledger.flatMap rowsOf) := by
  induction ledger using List.reverseRecOn with
  | nil => exact .refl _
  | append_singleton ledger last ih =>
    rw [unreplaced_concat] at unreplaced
    have replaced : ((Dictionary.get? (Dictionary.ofList ledger) last.1).toList.flatMap fun old =>
        rowsOf (last.1, old)) = [] := by
      cases held : Dictionary.get? (Dictionary.ofList ledger) last.1 with
      | none => rfl
      | some old =>
        have listed : (last.1, old) ∈ ledger :=
          Dictionary.mem_of_mem_ofList (Dictionary.mem_of_get? held)
        have isEmpty : old = [] := unreplaced.2 _ listed rfl
        simp [isEmpty, rowsOf]
    have step := rows_concat_perm ledger last
    rw [replaced, List.append_nil] at step
    rw [List.flatMap_append, List.flatMap_singleton]
    exact step.trans ((ih unreplaced.1).append_right _)

/-- There are no more findings under their sources than there were in all, and as many only if
nothing was replaced. -/
theorem length_rows_le (ledger : Ledger) :
    ((Dictionary.ofList ledger).flatMap rowsOf).length ≤ (ledger.flatMap rowsOf).length ∧
      (((Dictionary.ofList ledger).flatMap rowsOf).length = (ledger.flatMap rowsOf).length →
        ledger.Unreplaced) := by
  induction ledger using List.reverseRecOn with
  | nil => exact ⟨Nat.le_refl _, fun _ => List.Pairwise.nil⟩
  | append_singleton ledger last ih =>
    have step := (rows_concat_perm ledger last).length_eq
    simp only [List.length_append, List.flatMap_append, List.flatMap_singleton,
      length_rowsOf] at step ⊢
    refine ⟨by omega, fun equal => ?_⟩
    have unreplaced : Unreplaced ledger := ih.2 (by omega)
    rw [unreplaced_concat]
    refine ⟨unreplaced, fun earlier member same => ?_⟩
    rcases unreplaced.get?_ofList member with isEmpty | held
    · exact isEmpty
    · -- The earlier list is the one that was replaced, so it counts for nothing.
      rw [same] at held
      simp only [held, Option.toList_some, List.flatMap_singleton, length_rowsOf] at step
      exact List.eq_nil_of_length_eq_zero (by omega)

end Ledger

/-! ## Sessions -/

namespace Session

/-- The records of a session are those of a ledger: under every source the last findings, all
findings as rows, and the numbers of these by code. -/
structure Keeps (session : Session) (ledger : Ledger) : Prop where
  results : session.results = Dictionary.ofList ledger
  rows : session.rows = ledger.flatMap Ledger.rowsOf
  stats : ∀ code, (Dictionary.get? session.stats code).getD 0 =
    session.rows.countP fun row => row.finding.code == code
  total : session.summary.totalDiagnostics = session.rows.length

/-- The numbers, the total and the rows of a session agree with its findings by source. -/
structure Agrees (session : Session) : Prop where
  stats : ∀ code, (Dictionary.get? session.stats code).getD 0 =
    (session.results.flatMap Prod.snd).countP fun finding => finding.code == code
  total : session.summary.totalDiagnostics = (session.results.flatMap Prod.snd).length
  rows : session.rows.Perm session.printedRows

/-- The number of a code after more findings. -/
theorem get?_foldl_add (findings : List Diagnostic) (stats : CodeCounts)
    (code : String) :
    (Dictionary.get? (findings.foldl CodeCounts.add stats) code).getD 0 =
      (Dictionary.get? stats code).getD 0 +
        findings.countP fun finding => finding.code == code := by
  induction findings generalizing stats with
  | nil => rfl
  | cons finding rest ih =>
    rw [List.foldl_cons, ih, CodeCounts.add, List.countP_cons]
    by_cases same : code = finding.code
    · subst same
      rw [Dictionary.get?_set_self, Option.getD_some, if_pos (by simp)]
      omega
    · rw [Dictionary.get?_set_of_ne _ _ _ _ same, if_neg (by simpa using Ne.symm same),
        Nat.add_zero]

/-- The total after more findings. -/
theorem total_foldl_add (findings : List Diagnostic) (stats : CodeCounts) :
    (findings.foldl CodeCounts.add stats).total = stats.total + findings.length := by
  induction findings generalizing stats with
  | nil => rfl
  | cons finding rest ih =>
    have step := stats.total_set finding.code ((Dictionary.get? stats finding.code).getD 0 + 1)
    rw [List.foldl_cons, ih, CodeCounts.add, List.length_cons]
    omega

/-- The findings by source as rows. -/
theorem printedRows_eq (session : Session) :
    session.printedRows = session.results.flatMap Ledger.rowsOf :=
  rfl

/-- The findings of the rows are the findings by source. -/
theorem map_finding_printedRows (session : Session) :
    session.printedRows.map Row.finding = session.results.flatMap Prod.snd := by
  rw [printedRows_eq, List.map_flatMap]
  congr 1
  funext entry
  simp [Ledger.rowsOf, Function.comp_def]

namespace Keeps

variable {session : Session} {ledger : Ledger}

/-- A session that has found nothing keeps an empty ledger. -/
theorem of_cleared (session : Session) : session.cleared.Keeps [] where
  results := rfl
  rows := rfl
  stats := fun _ => rfl
  total := rfl

/-- Collecting findings adds them to the ledger. -/
theorem collect (keeps : session.Keeps ledger) (source : Option String)
    (findings : List Diagnostic) :
    (session.collect source findings).Keeps (ledger ++ [(source, findings)]) where
  results := by
    rw [Dictionary.ofList_concat, ← keeps.results]
    rfl
  rows := by
    rw [List.flatMap_append, ← keeps.rows, List.flatMap_singleton]
    rfl
  stats := by
    intro code
    simp only [Session.collect, List.countP_append, List.countP_map]
    rw [get?_foldl_add, keeps.stats]
    rfl
  total := by
    have before := keeps.total
    simp only [summary] at before
    simp only [Session.collect, summary, List.length_append, List.length_map]
    rw [total_foldl_add, before]

/-- A file adds its findings to the ledger, or nothing if it cannot be linted. -/
theorem kept (keeps : session.Keeps ledger) (source : String)
    (outcome : Except LintFault (List Diagnostic)) :
    (session.kept source outcome).Keeps (ledger ++ Ledger.entered (some source) outcome) := by
  cases outcome with
  | error fault =>
    rw [Ledger.entered, List.append_nil]
    exact ⟨keeps.results, keeps.rows, keeps.stats, keeps.total⟩
  | ok findings => exact keeps.collect (some source) findings

/-- The records of a session agree exactly if no findings were replaced. -/
theorem agrees_iff (keeps : session.Keeps ledger) : session.Agrees ↔ ledger.Unreplaced := by
  have byResult : session.printedRows = (Dictionary.ofList ledger).flatMap Ledger.rowsOf := by
    rw [printedRows_eq, keeps.results]
  constructor
  · intro agrees
    apply (Ledger.length_rows_le ledger).2
    rw [← byResult, ← keeps.rows]
    exact agrees.rows.length_eq.symm
  · intro unreplaced
    have perm : session.rows.Perm session.printedRows := by
      rw [keeps.rows, byResult]
      exact unreplaced.rows_perm.symm
    refine ⟨fun code => ?_, ?_, perm⟩
    · rw [keeps.stats, perm.countP_eq, ← map_finding_printedRows, List.countP_map]
      rfl
    · rw [keeps.total, perm.length_eq, ← map_finding_printedRows, List.length_map]

end Keeps

/-! ## Lists of files -/

variable (tools : Tools) (files : FileSystem)

/-- What files enter into a ledger, given the texts of their paths. -/
def filesLedger (preferences : Preferences) (sources : List String) : Ledger :=
  sources.flatMap fun source =>
    Ledger.entered (some source) (preferences.lintFile tools files source)

theorem keeps_foldl_kept (preferences : Preferences) (sources : List String) {session : Session}
    {ledger : Ledger} (keeps : session.Keeps ledger) :
    (sources.foldl (fun session source =>
        session.kept source (preferences.lintFile tools files source)) session).Keeps
      (ledger ++ filesLedger tools files preferences sources) := by
  induction sources generalizing session ledger with
  | nil => simpa [filesLedger] using keeps
  | cons source rest ih =>
    rw [List.foldl_cons, filesLedger, List.flatMap_cons, ← List.append_assoc]
    exact ih (keeps.kept source _)

/-- After a list of files a session keeps what they entered, and nothing from before. -/
theorem keeps_lintFiles (session : Session) (paths : List Path) :
    (session.lintFiles tools files paths).session.Keeps
      (filesLedger tools files session.preferences (paths.map Path.toText)) := by
  rw [session_lintFiles]
  exact keeps_foldl_kept tools files session.preferences _ (Keeps.of_cleared session)

theorem preferences_kept (session : Session) (source : String)
    (outcome : Except LintFault (List Diagnostic)) :
    (session.kept source outcome).preferences = session.preferences := by
  cases outcome <;> rfl

theorem preferences_lintFiles (session : Session) (paths : List Path) :
    (session.lintFiles tools files paths).session.preferences = session.preferences := by
  rw [session_lintFiles]
  change _ = session.cleared.preferences
  generalize session.preferences.lintFile tools files = outcome
  generalize session.cleared = start
  induction paths.map Path.toText generalizing start with
  | nil => rfl
  | cons source rest ih => rw [List.foldl_cons, ih, preferences_kept]

end Session

/-! ## Calls -/

/-- What a session can be asked to lint. -/
inductive Call where
  | source (markup : String) (name : Option String)
  | files (files : FileSystem) (paths : List Path)

/-- The session after a call. A text that cannot be linted leaves it as it was. -/
def Session.after (tools : Tools) (session : Session) : Call → Session
  | .source markup name =>
    match session.lintSource tools markup name with
    | .ok (next, _) => next
    | .error _ => session
  | .files files paths => (session.lintFiles tools files paths).session

/-- The ledger after a call. -/
def Ledger.after (tools : Tools) (preferences : Preferences) (ledger : Ledger) : Call → Ledger
  | .source markup name => ledger ++ entered name (preferences.lintMarkup tools markup name)
  | .files files paths => Session.filesLedger tools files preferences (paths.map Path.toText)

namespace Session

variable (tools : Tools)

theorem preferences_after (session : Session) (call : Call) :
    (session.after tools call).preferences = session.preferences := by
  cases call with
  | source markup name =>
    rw [after, lintSource]
    cases session.preferences.lintMarkup tools markup name <;> rfl
  | files files paths => exact preferences_lintFiles tools files session paths

/-- A call keeps the records of a session in step with its ledger. -/
theorem Keeps.after {session : Session} {ledger : Ledger} (keeps : session.Keeps ledger)
    (call : Call) : (session.after tools call).Keeps (ledger.after tools session.preferences call) := by
  cases call with
  | source markup name =>
    rw [Session.after, lintSource, Ledger.after]
    cases session.preferences.lintMarkup tools markup name with
    | error fault => simpa [Ledger.entered] using keeps
    | ok findings => exact keeps.collect name findings
  | files files paths => exact keeps_lintFiles tools files session paths

/-- So do any number of calls. -/
theorem Keeps.afterAll (calls : List Call) {session : Session} {ledger : Ledger}
    (keeps : session.Keeps ledger) :
    (calls.foldl (Session.after tools) session).Keeps
      (calls.foldl (Ledger.after tools session.preferences) ledger) := by
  induction calls generalizing session ledger with
  | nil => exact keeps
  | cons call rest ih =>
    have later := ih (keeps.after tools call)
    rwa [preferences_after] at later

end Session

/-- After any calls the records of a session are those of its ledger: the numbers, the total and the
rows count all that was collected since the records were last started anew. They agree with the
findings by source exactly if no findings were replaced by later ones of the same source. -/
theorem records_agree_iff_unreplaced (tools : Tools) (preferences : Preferences)
    (calls : List Call) :
    (calls.foldl (Session.after tools) { preferences }).Keeps
        (calls.foldl (Ledger.after tools preferences) []) ∧
      ((calls.foldl (Session.after tools) { preferences }).Agrees ↔
        Ledger.Unreplaced (calls.foldl (Ledger.after tools preferences) [])) := by
  have keeps : (calls.foldl (Session.after tools) { preferences }).Keeps
      (calls.foldl (Ledger.after tools preferences) []) :=
    Session.Keeps.afterAll tools calls (Session.Keeps.of_cleared { preferences })
  exact ⟨keeps, keeps.agrees_iff⟩

/-- Two texts with one name both enter the ledger. -/
theorem Ledger.after_two_sources {tools : Tools} {preferences : Preferences} {source : Option String}
    {markup other : String} {findings later : List Diagnostic}
    (first : preferences.lintMarkup tools markup source = .ok findings)
    (second : preferences.lintMarkup tools other source = .ok later) :
    [Call.source markup source, .source other source].foldl (Ledger.after tools preferences) [] =
      [(source, findings), (source, later)] := by
  simp [Ledger.after, first, second, Ledger.entered]

namespace Preferences

/-- Without preferences findings are reported as they are. -/
theorem adjust_default (findings : List Diagnostic) : adjust {} findings = findings := by
  have same : regrade {} = id := rfl
  simp [adjust, same]

/-- The findings about markup are those about its tree. -/
theorem lintMarkup_of_parsed {tools : Tools} {markup : String} {source : Option String}
    {document : Markup.Document} {findings : List Diagnostic} (preferences : Preferences)
    (parsed : tools.document markup source = .ok document)
    (validated : Registry.builtin.validate document.tree = .ok findings) :
    preferences.lintMarkup tools markup source = .ok (preferences.adjust findings) := by
  simp only [lintMarkup, parsed, validate, validated]

/-- Nothing is found in an empty text. -/
theorem lintMarkup_empty (tools : Tools) (preferences : Preferences) (source : Option String) :
    preferences.lintMarkup tools "" source = .ok [] := by
  have parsed : tools.document "" source = .ok { source } := rfl
  have nowhere : Tree.visited (.document []) = [] := Tree.visited_eq_places _
  have validated : Registry.builtin.validate (.document []) = .ok [] := by
    simp [Registry.validate, nowhere, gather]
  exact preferences.lintMarkup_of_parsed parsed validated

end Preferences

/-- A list with a word in it. -/
def wordInList : Place where
  start := { name := "ul" }
  before := []
  after := []
  children := [.text "x" {}]
  above := []

theorem wordInList_parsed (source : Option String) : Tools.standard.document "<ul>x" source =
    .ok { source, nodes := [wordInList.node] } := by
  with_unfolding_all rfl

/-- The word is reported. -/
theorem wordInList_reported (source : Option String) : ∃ findings, findings ≠ [] ∧
    Preferences.lintMarkup {} .standard "<ul>x" source = .ok findings := by
  have listed : Rulebook.flowElement .ul (Rulebook.onlyTags [.li]) ∈ Rulebook.entries := by
    simp [Rulebook.entries, Rulebook.ruleSets, RuleSet.entries, Rulebook.grouping]
  have isList : wordInList.tag = .ul := by decide
  have inForce : Registry.builtin.content? wordInList.tag = some (Rulebook.onlyTags [.li]) := by
    rw [isList, Registry.content?, Registry.builtin_entry_of listed, RuleEntry.of]
  obtain ⟨context, content, _, contentReturned, validated⟩ := Registry.builtin_findings
  obtain ⟨findings, returned, sorted⟩ := validated (.document [wordInList.node])
  have reported : content wordInList ≠ [] := by
    have checked := contentReturned wordInList
    rw [Registry.checkContent_of_content inForce] at checked
    rw [← Except.ok.inj checked]
    decide
  have places : Tree.places (.document [wordInList.node]) = [wordInList] := rfl
  refine ⟨findings, ?_, ?_⟩
  · intro nothing
    have all := sorted.perm.length_eq
    simp only [places, nothing, List.flatMap_singleton, List.length_append, List.length_nil] at all
    exact reported (List.eq_nil_of_length_eq_zero (by omega))
  · rw [Preferences.lintMarkup_of_parsed {} (wordInList_parsed source) returned,
      Preferences.adjust_default]

/-- A text is linted, mended and linted again under the same name. Nothing is found under that name
any more, but what was found before still counts. -/
theorem mended_text_still_counted :
    let calls := [Call.source "<ul>x" (some Session.unnamed), .source "" (some Session.unnamed)]
    let session := calls.foldl (Session.after .standard) { preferences := {} }
    session.results.flatMap Prod.snd = [] ∧ 0 < session.summary.totalDiagnostics ∧
      ¬ session.Agrees := by
  intro calls session
  obtain ⟨findings, found, returned⟩ := wordInList_reported (some Session.unnamed)
  have mended := Preferences.lintMarkup_empty .standard {} (some Session.unnamed)
  have keeps : session.Keeps (calls.foldl (Ledger.after .standard {}) []) :=
    Session.Keeps.afterAll .standard calls (Session.Keeps.of_cleared { preferences := {} })
  rw [Ledger.after_two_sources returned mended] at keeps
  refine ⟨?_, ?_, ?_⟩
  · rw [keeps.results]
    simp [Dictionary.ofList, Dictionary.set]
  · rw [keeps.total, keeps.rows]
    simpa [Ledger.rowsOf] using List.length_pos_iff.mpr found
  · rw [keeps.agrees_iff]
    simpa [Ledger.Unreplaced] using found

end HtmlNesting
