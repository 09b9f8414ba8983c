import Mathlib.Data.List.Basic
import HtmlNesting.Proofs.Decoding
import HtmlNesting.Proofs.PathTexts
import HtmlNesting.Proofs.Tallies

/-!
# Lists of files

What a run over files keeps about one of them is what comes of that file alone: its findings if it
can be linted, and a reason if not (`Session.get?_results_lintFiles`,
`Session.get?_failures_lintFiles`). A file can be linted if its bytes are a text and the text parses
(`FileSystem.Lintable`); then its findings are those of the text with its line ends as line feeds.
-/

namespace HtmlNesting

/-! ## Values of items -/

namespace Dictionary

variable {κ α ι : Type} [BEq κ]

/-- A key that is there stays where it is. -/
theorem keys_set_of_mem [LawfulBEq κ] {entries : Dictionary κ α} {key : κ} (value : α)
    (listed : key ∈ keys entries) : keys (set key value entries) = keys entries := by
  induction entries with
  | nil => simp [keys] at listed
  | cons entry rest ih =>
    obtain ⟨other, old⟩ := entry
    rw [keys] at ih listed ⊢
    by_cases same : other = key
    · simp [set, same, keys]
    · have later : key ∈ rest.map Prod.fst := by simpa [Ne.symm same] using listed
      simpa [set, same, keys] using ih later

theorem keys_set_of_not_mem [LawfulBEq κ] {entries : Dictionary κ α} {key : κ} (value : α)
    (absent : key ∉ keys entries) : keys (set key value entries) = keys entries ++ [key] := by
  simp [set_of_not_mem value absent, keys]

/-- Pairs with different keys are a dictionary. -/
theorem ofList_of_nodup [LawfulBEq κ] {pairs : List (κ × α)} (apart : (keys pairs).Nodup) :
    ofList pairs = pairs := by
  induction pairs using List.reverseRecOn with
  | nil => rfl
  | append_singleton pairs last ih =>
    rw [keys, List.map_append, List.map_singleton, List.nodup_append] at apart
    have before := ih apart.1
    have isNew : last.1 ∉ keys pairs := fun member => apart.2.2 last.1 member last.1 (by simp) rfl
    rw [ofList_concat, before, set_of_not_mem last.2 isNew]

/-- The dictionary of the items that have a value, by their names. -/
def valuesOf (name : ι → κ) (value? : ι → Option α) (items : List ι) : Dictionary κ α :=
  ofList (items.filterMap fun item => (value? item).map fun value => (name item, value))

variable (name : ι → κ) (value? : ι → Option α)

theorem valuesOf_concat_of_none {items : List ι} {item : ι} (noValue : value? item = none) :
    valuesOf name value? (items ++ [item]) = valuesOf name value? items := by
  simp [valuesOf, noValue]

theorem valuesOf_concat_of_some {items : List ι} {item : ι} {value : α}
    (held : value? item = some value) :
    valuesOf name value? (items ++ [item]) =
      set (name item) value (valuesOf name value? items) := by
  rw [valuesOf, List.filterMap_append, List.filterMap_cons, held]
  exact ofList_concat _ _

variable [LawfulBEq κ]

/-- Items with different names are kept as they are. -/
theorem valuesOf_of_nodup {items : List ι} (apart : (items.map name).Nodup) :
    valuesOf name value? items =
      items.filterMap fun item => (value? item).map fun value => (name item, value) := by
  refine ofList_of_nodup (apart.sublist ?_)
  clear apart
  induction items with
  | nil => exact List.Sublist.refl _
  | cons item rest ih =>
    cases held : value? item with
    | none =>
      rw [List.filterMap_cons_none (by rw [held]; rfl), List.map_cons]
      exact ih.cons _
    | some value =>
      rw [List.filterMap_cons_some (by rw [held]; rfl), List.map_cons]
      exact ih.cons_cons _

/-- If items of one name have one value, that is the value of the name. -/
theorem get?_valuesOf {items : List ι} {key : κ} {expected : Option α}
    (same : ∀ item ∈ items, name item = key → value? item = expected) :
    get? (valuesOf name value? items) key =
      if key ∈ items.map name then expected else none := by
  induction items using List.reverseRecOn with
  | nil => rfl
  | append_singleton items last ih =>
    have before := ih fun item member => same item (List.mem_append_left _ member)
    have atLast := same last (by simp)
    cases held : value? last with
    | none =>
      rw [valuesOf_concat_of_none name value? held, before]
      grind
    | some value =>
      rw [valuesOf_concat_of_some name value? held]
      by_cases isLast : key = name last
      · rw [isLast, get?_set_self, ← atLast isLast.symm, held, if_pos (by simp)]
      · have elsewhere : key ∈ (items ++ [last]).map name ↔ key ∈ items.map name := by
          simp [isLast]
        rw [get?_set_of_ne _ _ _ _ isLast, before]
        simp only [elsewhere]

section

variable {items : List ι}
  (apart : ∀ first ∈ items, ∀ second ∈ items, name first = name second → first = second)
include apart

/-- If names tell items apart, an item is found under its name. -/
theorem get?_valuesOf_of_mem {item : ι} (member : item ∈ items) :
    get? (valuesOf name value? items) (name item) = value? item := by
  rw [get?_valuesOf, if_pos (List.mem_map_of_mem member)]
  intro other otherIn same
  rw [apart other otherIn item member same]

/-- Then the names stand in the order in which they occur first. -/
theorem keys_valuesOf_sublist :
    (keys (valuesOf name value? items)).Sublist (items.map name).eraseDups := by
  induction items using List.reverseRecOn with
  | nil => exact List.Sublist.refl _
  | append_singleton items last ih =>
    have apartBefore : ∀ first ∈ items, ∀ second ∈ items, name first = name second →
        first = second := fun first firstIn second secondIn =>
      apart first (List.mem_append_left _ firstIn) second (List.mem_append_left _ secondIn)
    have before := (ih apartBefore).trans (List.sublist_append_left _
      ([name last].removeAll (items.map name)).eraseDups)
    rw [List.map_append, List.eraseDups_append, List.map_singleton]
    cases held : value? last with
    | none =>
      rw [valuesOf_concat_of_none name value? held]
      exact before
    | some value =>
      rw [valuesOf_concat_of_some name value? held]
      by_cases listed : name last ∈ keys (valuesOf name value? items)
      · rw [keys_set_of_mem value listed]
        exact before
      · -- Had the name occurred before, it would be listed.
        have isNew : name last ∉ items.map name := by
          intro occurs
          obtain ⟨item, member, same⟩ := List.mem_map.mp occurs
          have found := get?_valuesOf_of_mem name value? apartBefore member
          rw [apart item (List.mem_append_left _ member) last (by simp) same, held] at found
          exact listed ((mem_keys_iff _ _).mpr ⟨value, found⟩)
        have kept : [name last].removeAll (items.map name) = [name last] := by
          simp_all [List.removeAll]
        rw [keys_set_of_not_mem value listed, kept]
        exact (ih apartBefore).append (List.Sublist.refl _)

end

end Dictionary

/-! ## One file -/

namespace FileSystem

/-- A file can be read and holds a text. -/
def Holds (files : FileSystem) (path : Path) (text : String) : Prop :=
  files.read path = .ok (Text.encode text)

/-- A file holds a text that parses. -/
def Lintable (files : FileSystem) (tools : Tools) (path : Path) : Prop :=
  ∃ text document, files.Holds path text ∧
    tools.document (Text.translated text) (some path.toText) = .ok document

variable {files : FileSystem} {path : Path}

/-- What is read from a file is the text it holds with line feeds as line ends. -/
theorem readText_of_holds {text : String} (holds : files.Holds path text) :
    files.readText path = .ok (Text.translated text) := by
  have decoded : Text.decode (Text.encode text) = .ok text.toList :=
    (Text.decode_eq_ok_iff _ _).mpr (by rw [String.ofList_toList])
  simp only [readText, show files.read path = _ from holds, decoded, Text.lineEnds_eq_translated]

/-- Only from a file that holds a text can a text be read. -/
theorem holds_of_readText {read : String} (returned : files.readText path = .ok read) :
    ∃ text, files.Holds path text := by
  rw [readText] at returned
  cases found : files.read path with
  | error fault => simp [found] at returned
  | ok bytes =>
    cases decoded : Text.decode bytes with
    | error fault => simp [found, decoded] at returned
    | ok cs =>
      rw [(Text.decode_eq_ok_iff bytes cs).mp decoded] at found
      exact ⟨String.ofList cs, found⟩

end FileSystem

namespace Preferences

variable {tools : Tools} {files : FileSystem} {path : Path}

/-- Under the built-in rules there are findings about all markup that parses. -/
theorem lintMarkup_returns {markup : String} {source : Option String} {document : Markup.Document}
    (parsed : tools.document markup source = .ok document) (preferences : Preferences) :
    ∃ findings, preferences.lintMarkup tools markup source = .ok findings := by
  obtain ⟨findings, validated⟩ := Registry.builtin_validate_returns document.tree
  exact ⟨preferences.adjust findings, preferences.lintMarkup_of_parsed parsed validated⟩

/-- The findings about a file are those about the text that is read from it. -/
theorem lintFile_of_holds {text : String} (proper : path.isProper) (holds : files.Holds path text)
    (preferences : Preferences) :
    preferences.lintFile tools files path.toText =
      preferences.lintMarkup tools (Text.translated text) (some path.toText) := by
  rw [lintFile, Path.ofText_toText proper, FileSystem.readText_of_holds holds]

/-- There are findings about a file exactly if it can be linted. -/
theorem lintFile_returns_iff (proper : path.isProper) (preferences : Preferences) :
    (∃ findings, preferences.lintFile tools files path.toText = .ok findings) ↔
      files.Lintable tools path := by
  constructor
  · rintro ⟨findings, returned⟩
    cases read : files.readText path with
    | error fault => simp [lintFile, Path.ofText_toText proper, read] at returned
    | ok markup =>
      obtain ⟨text, holds⟩ := FileSystem.holds_of_readText read
      rw [lintFile_of_holds proper holds, lintMarkup] at returned
      cases parsed : tools.document (Text.translated text) (some path.toText) with
      | error rejection => simp [parsed] at returned
      | ok document => exact ⟨text, document, holds, parsed⟩
  · rintro ⟨text, document, holds, parsed⟩
    rw [lintFile_of_holds proper holds]
    exact lintMarkup_returns parsed preferences

/-- What comes of a file depends on its bytes alone. -/
theorem lintFile_congr {other : FileSystem} (proper : path.isProper)
    (same : other.read path = files.read path) (preferences : Preferences) :
    preferences.lintFile tools other path.toText =
      preferences.lintFile tools files path.toText := by
  rw [lintFile, lintFile, FileSystem.readText, FileSystem.readText, Path.ofText_toText proper, same]

end Preferences

/-- The reason why a file could not be linted, if it could not. -/
def LintFault.reason? (source : String) : Except LintFault (List Diagnostic) → Option String
  | .error fault => some (fault.reason (.ofText source))
  | .ok _ => none

/-! ## Runs over files -/

namespace Session

open Dictionary

variable (session : Session) (tools : Tools) (files : FileSystem)

theorem filesLedger_eq_filterMap (preferences : Preferences) (sources : List String) :
    filesLedger tools files preferences sources = sources.filterMap fun source =>
      (preferences.lintFile tools files source).toOption.map fun findings =>
        (some source, findings) := by
  rw [filesLedger, List.filterMap_eq_flatMap_toList]
  congr 1
  funext source
  cases preferences.lintFile tools files source <;> rfl

/-- The findings of a run are those of its files. -/
theorem results_lintFiles (paths : List Path) :
    (session.lintFiles tools files paths).session.results =
      valuesOf some (fun source => (session.preferences.lintFile tools files source).toOption)
        (paths.map Path.toText) := by
  rw [(keeps_lintFiles tools files session paths).results, filesLedger_eq_filterMap, valuesOf]

theorem failures_foldl_kept (outcome : String → Except LintFault (List Diagnostic))
    (sources : List String) :
    (sources.foldl (fun session source => session.kept source (outcome source))
        session.cleared).failures =
      valuesOf id (fun source => LintFault.reason? source (outcome source)) sources := by
  induction sources using List.reverseRecOn with
  | nil => rfl
  | append_singleton sources last ih =>
    rw [List.foldl_append, List.foldl_cons, List.foldl_nil]
    cases held : outcome last with
    | ok findings =>
      rw [valuesOf_concat_of_none _ _ (by rw [held, LintFault.reason?]), ← ih]
      rfl
    | error fault =>
      rw [valuesOf_concat_of_some _ _ (by rw [held, LintFault.reason?]), ← ih]
      rfl

/-- The failures of a run are those of its files. -/
theorem failures_lintFiles (paths : List Path) :
    (session.lintFiles tools files paths).session.failures =
      valuesOf id
        (fun source => LintFault.reason? source (session.preferences.lintFile tools files source))
        (paths.map Path.toText) := by
  rw [session_lintFiles]
  exact failures_foldl_kept session _ _

section

variable {paths : List Path} {path : Path} (member : path ∈ paths)
include member

/-- What a run finds about a file is what is found about it alone. -/
theorem get?_results_lintFiles :
    get? (session.lintFiles tools files paths).session.results (some path.toText) =
      (session.preferences.lintFile tools files path.toText).toOption := by
  rw [results_lintFiles]
  exact get?_valuesOf_of_mem some _ (fun _ _ _ _ => Option.some.inj) (List.mem_map_of_mem member)

/-- Why a file fails in a run is why it fails alone. -/
theorem get?_failures_lintFiles :
    get? (session.lintFiles tools files paths).session.failures path.toText =
      LintFault.reason? path.toText (session.preferences.lintFile tools files path.toText) := by
  rw [failures_lintFiles]
  exact get?_valuesOf_of_mem id _ (fun _ _ _ _ same => same) (List.mem_map_of_mem member)

/-- A file has findings in a run exactly if it can be linted. -/
theorem mem_keys_results_iff (proper : path.isProper) :
    some path.toText ∈ keys (session.lintFiles tools files paths).session.results ↔
      files.Lintable tools path := by
  rw [mem_keys_iff, get?_results_lintFiles session tools files member,
    ← session.preferences.lintFile_returns_iff proper]
  cases session.preferences.lintFile tools files path.toText <;> simp [Except.toOption]

/-- It is among the failures exactly if it cannot. -/
theorem mem_keys_failures_iff (proper : path.isProper) :
    path.toText ∈ keys (session.lintFiles tools files paths).session.failures ↔
      ¬ files.Lintable tools path := by
  rw [mem_keys_iff, get?_failures_lintFiles session tools files member,
    ← session.preferences.lintFile_returns_iff proper]
  cases session.preferences.lintFile tools files path.toText <;> simp [LintFault.reason?]

end

/-- The findings of a run stand in the order of its files. -/
theorem keys_results_sublist (paths : List Path) :
    (keys (session.lintFiles tools files paths).session.results).Sublist
      (paths.map fun path => some path.toText).eraseDups := by
  have inOrder := keys_valuesOf_sublist some
    (fun source => (session.preferences.lintFile tools files source).toOption)
    fun first (_ : first ∈ paths.map Path.toText) _ _ => Option.some.inj
  rw [results_lintFiles]
  simpa only [List.map_map, Function.comp_def] using inOrder

/-- So do the failures. -/
theorem keys_failures_sublist (paths : List Path) :
    (keys (session.lintFiles tools files paths).session.failures).Sublist
      (paths.map Path.toText).eraseDups := by
  have inOrder := keys_valuesOf_sublist id
    (fun source => LintFault.reason? source (session.preferences.lintFile tools files source))
    fun first (_ : first ∈ paths.map Path.toText) _ _ same => same
  rw [failures_lintFiles]
  rwa [List.map_id] at inOrder

section

variable {paths : List Path} (apart : (paths.map Path.toText).Nodup)
include apart

theorem nodup_sources : ((paths.map Path.toText).map some).Nodup := by
  simpa [List.Nodup, List.pairwise_map] using apart

/-- If no file is given twice, its findings are printed as they are kept. -/
theorem printedRows_lintFiles_of_nodup :
    (session.lintFiles tools files paths).session.printedRows =
      (session.lintFiles tools files paths).session.rows := by
  have keeps := keeps_lintFiles tools files session paths
  have ledger : ofList (filesLedger tools files session.preferences (paths.map Path.toText)) =
      filesLedger tools files session.preferences (paths.map Path.toText) := by
    rw [← keeps.results, results_lintFiles, valuesOf_of_nodup _ _ (nodup_sources apart),
      ← filesLedger_eq_filterMap]
  rw [printedRows_eq, keeps.results, keeps.rows, ledger]

/-- Then every file counts once, as linted or as failed. -/
theorem length_results_add_length_failures :
    (session.lintFiles tools files paths).session.results.length +
      (session.lintFiles tools files paths).session.failures.length = paths.length := by
  have distinct : ((paths.map Path.toText).map id).Nodup := by rwa [List.map_id]
  have asMany : paths.length = (paths.map Path.toText).length := by rw [List.length_map]
  rw [results_lintFiles, failures_lintFiles, valuesOf_of_nodup _ _ (nodup_sources apart),
    valuesOf_of_nodup _ _ distinct, asMany]
  clear apart distinct asMany
  induction paths.map Path.toText with
  | nil => rfl
  | cons source rest ih =>
    cases outcome : session.preferences.lintFile tools files source with
    | ok findings =>
      rw [List.filterMap_cons_some (by rw [outcome]; rfl),
        List.filterMap_cons_none (by rw [outcome]; rfl), List.length_cons, List.length_cons]
      omega
    | error fault =>
      rw [List.filterMap_cons_none (by rw [outcome]; rfl),
        List.filterMap_cons_some (by rw [outcome]; rfl), List.length_cons, List.length_cons]
      omega

end

end Session

/-- A run over files, whatever they are, whatever parser is used and whatever the session has found
before, goes on to its end and keeps every file apart. A file has findings if it holds a text that
parses, and fails if not. The findings, though handed over by a worker as fields and made again, are
those that linting the text gives, in any session with the same preferences. Neither they nor the
reason of a failure depend on the other files, on the order or on what was found before. Findings
and failures stand in the order in which the files are first given, and progress is reported file by
file. -/
theorem files_linted_apart (tools : Tools) (session : Session) (files : FileSystem)
    (arguments : List String) :
    let paths := arguments.map Path.ofText
    let run := session.lintFiles tools files paths
    run.broken = none ∧
    (∀ path ∈ paths,
      (some path.toText ∈ Dictionary.keys run.session.results ↔ files.Lintable tools path) ∧
      (path.toText ∈ Dictionary.keys run.session.failures ↔ ¬ files.Lintable tools path)) ∧
    (∀ path ∈ paths, ∀ text document, files.Holds path text →
      tools.document (Text.translated text) (some path.toText) = .ok document →
      ∃ findings, Dictionary.get? run.session.results (some path.toText) = some findings ∧
        ∀ other : Session, other.preferences = session.preferences → ∃ next,
          other.lintSource tools (Text.translated text) (some path.toText) =
            .ok (next, findings)) ∧
    (∀ path ∈ paths, ∀ (other : Session) (otherFiles : FileSystem) (otherArguments : List String),
      other.preferences = session.preferences → otherFiles.read path = files.read path →
      path ∈ otherArguments.map Path.ofText →
      let otherRun := other.lintFiles tools otherFiles (otherArguments.map Path.ofText)
      Dictionary.get? otherRun.session.results (some path.toText) =
          Dictionary.get? run.session.results (some path.toText) ∧
        Dictionary.get? otherRun.session.failures path.toText =
          Dictionary.get? run.session.failures path.toText) ∧
    (Dictionary.keys run.session.results).Sublist
      (paths.map fun path => some path.toText).eraseDups ∧
    (Dictionary.keys run.session.failures).Sublist (paths.map Path.toText).eraseDups ∧
    run.progress =
      (List.range arguments.length).map fun index => (index + 1, arguments.length) := by
  intro paths run
  have proper (path : Path) (member : path ∈ paths) : path.isProper :=
    Path.isProper_of_mem_map_ofText member
  refine ⟨session.broken_lintFiles tools files paths, ?_, ?_, ?_,
    session.keys_results_sublist tools files paths,
    session.keys_failures_sublist tools files paths, ?_⟩
  · intro path member
    exact ⟨session.mem_keys_results_iff tools files member (proper path member),
      session.mem_keys_failures_iff tools files member (proper path member)⟩
  · intro path member text document holds parsed
    obtain ⟨findings, returned⟩ := Preferences.lintMarkup_returns parsed session.preferences
    refine ⟨findings, ?_, ?_⟩
    · rw [session.get?_results_lintFiles tools files member,
        Preferences.lintFile_of_holds (proper path member) holds, returned]
      rfl
    · intro other same
      refine ⟨other.collect (some path.toText) findings, ?_⟩
      rw [Session.lintSource, same, returned]
  · intro path member other otherFiles otherArguments samePreferences sameBytes otherMember
    have same : other.preferences.lintFile tools otherFiles path.toText =
        session.preferences.lintFile tools files path.toText := by
      rw [samePreferences, Preferences.lintFile_congr (proper path member) sameBytes]
    constructor
    · rw [other.get?_results_lintFiles tools otherFiles otherMember,
        session.get?_results_lintFiles tools files member, same]
    · rw [other.get?_failures_lintFiles tools otherFiles otherMember,
        session.get?_failures_lintFiles tools files member, same]
  · have reported := session.progress_lintFiles tools files paths
    rwa [List.length_map] at reported

end HtmlNesting
