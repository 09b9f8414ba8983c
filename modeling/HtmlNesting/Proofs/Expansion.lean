import HtmlNesting.Proofs.Orders
import HtmlNesting.Proofs.Searching

/-!
# Expanding paths

What a path given by a user stands for is known without a search (`FileSystem.StandsFor`), and so
are the faults with which it is refused (`FileSystem.IsRefused`). Expanding some paths ends with a
fault of one that is refused, or gathers what all of them stand for (`FileSystem.expand_cases`).

The order of paths tells any two of the files that are found apart, so they are a strictly
increasing list (`FileSystem.pairwise_expand`), however the paths overlap, and no two of them have
the same text.
-/

namespace HtmlNesting

/-! ## The order of paths -/

namespace Path

theorem componentsLe_eq_lexLe (first second : List String) :
    componentsLe first second = Text.lexLe Text.textLe first second := by
  fun_induction componentsLe first second with
  | case1 => simp [Text.lexLe]
  | case2 => simp [Text.lexLe]
  | case3 first rest other others same ih => simp [Text.lexLe, eq_of_beq same, ih]
  | case4 first rest other others different => simp_all [Text.lexLe]

theorem isOrder_componentsLe : Text.IsOrder componentsLe := by
  have same : componentsLe = Text.lexLe Text.textLe := by
    ext first second
    rw [componentsLe_eq_lexLe]
  rw [same]
  exact Text.isOrder_textLe.lexLe

theorem le_total (first second : Path) : (le first second || le second first) = true :=
  isOrder_componentsLe.total _ _

theorem le_trans (first second third : Path) (below : le first second = true)
    (above : le second third = true) : le first third = true :=
  isOrder_componentsLe.trans _ _ _ below above

/-- The start of a path is written as no name is. -/
theorem text_not_mem_parts {path : Path} (proper : path.isProper) (start : PathStart) :
    start.text ∉ path.parts := by
  intro member
  have named : isPartName start.text := List.all_eq_true.mp proper _ member
  cases start <;> simp [PathStart.text, isPartName] at named

/-- The components of a proper path tell where it starts. -/
theorem eq_of_components_eq {first second : Path} (firstProper : first.isProper)
    (secondProper : second.isProper) (same : first.components = second.components) :
    first = second := by
  have apart := text_not_mem_parts firstProper second.start
  have otherApart := text_not_mem_parts secondProper first.start
  obtain ⟨start, parts⟩ := first
  obtain ⟨otherStart, otherParts⟩ := second
  by_cases here : start = .workingDirectory <;>
    by_cases there : otherStart = .workingDirectory <;>
    simp only [components, here, there, if_true, if_false] at same apart otherApart
  · rw [here, there, same]
  · exact absurd (same ▸ List.mem_cons_self) apart
  · exact absurd (same ▸ List.mem_cons_self) otherApart
  · have texts : start.text = otherStart.text := (List.cons.inj same).1
    have starts : start = otherStart := by
      cases start <;> cases otherStart <;> simp [PathStart.text] at texts ⊢
    rw [starts, (List.cons.inj same).2]

/-- The order tells proper paths apart. -/
theorem le_antisymm {first second : Path} (firstProper : first.isProper)
    (secondProper : second.isProper) (below : le first second = true)
    (above : le second first = true) : first = second :=
  eq_of_components_eq firstProper secondProper (isOrder_componentsLe.antisymm _ _ below above)

end Path

/-! ## Markup files -/

/-- Whether the last of some names is that of a markup file. -/
def EndsInMarkup (names : List String) : Prop :=
  ∃ ending ∈ markupEndings, EndsIn ending names

theorem endsInMarkup_append {names more : List String} (nonempty : more ≠ []) :
    EndsInMarkup (names ++ more) ↔ EndsInMarkup more := by
  simp only [EndsInMarkup, endsIn_append nonempty]

namespace FileSystem

variable {files : FileSystem} {path file : Path} {directory : FileTree} {levels : Nat}
  {fault : AccessFault}

theorem Stops.mono {wanted other : List String → Prop} (weaker : ∀ {names}, wanted names → other names)
    (stops : Stops wanted levels path directory fault) :
    Stops other levels path directory fault := by
  cases stops with
  | tooDeep lists isDirectory deep => exact .tooDeep lists isDirectory deep
  | tooLong lists looked long => exact .tooLong lists (looked.imp_right weaker) long
  | closed lists shut isWanted short => exact .closed lists shut (weaker isWanted) short

/-- What stops the search for markup files stops the search for one of the endings. -/
theorem Stops.exists_ending (stops : Stops EndsInMarkup levels path directory fault) :
    ∃ ending ∈ markupEndings, Stops (EndsIn ending) levels path directory fault := by
  -- Directories stop the search for any ending, and there is one.
  have some : ".html" ∈ markupEndings := .head _
  cases stops with
  | tooDeep lists isDirectory deep => exact ⟨_, some, .tooDeep lists isDirectory deep⟩
  | tooLong lists looked long =>
    rcases looked with isDirectory | ⟨ending, isEnding, ends⟩
    · exact ⟨_, some, .tooLong lists (.inl isDirectory) long⟩
    · exact ⟨ending, isEnding, .tooLong lists (.inr ends) long⟩
  | closed lists shut isWanted short =>
    obtain ⟨ending, isEnding, ends⟩ := isWanted
    exact ⟨ending, isEnding, .closed lists shut ends short⟩

theorem finds_markup_iff : Finds EndsInMarkup path directory file ↔
    ∃ ending ∈ markupEndings, Finds (EndsIn ending) path directory file := by
  constructor
  · rintro ⟨names, tree, lists, isFile, ⟨ending, isEnding, ends⟩, same⟩
    exact ⟨ending, isEnding, names, tree, lists, isFile, ends, same⟩
  · rintro ⟨ending, isEnding, names, tree, lists, isFile, ends, same⟩
    exact ⟨names, tree, lists, isFile, ⟨ending, isEnding, ends⟩, same⟩

/-- So are the searches for all endings of markup files, one after another. -/
theorem describes_markup (levels : Nat) (found : files.find path = .ok directory)
    (isDirectory : directory.isDirectory = true) :
    Describes EndsInMarkup levels path directory
      (gather (fun ending => files.filesBelow ending levels path) markupEndings) := by
  have each (ending : String) := describes_filesBelow ending levels found isDirectory
  cases joined : gather (fun ending => files.filesBelow ending levels path) markupEndings with
  | error fault =>
    obtain ⟨ending, isEnding, failed⟩ := exists_of_gather_error joined
    have stops := each ending
    rw [failed] at stops
    exact Stops.mono (fun ends => ⟨ending, isEnding, ends⟩) stops
  | ok all =>
    have returned : ∀ ending ∈ markupEndings, ∃ own, files.filesBelow ending levels path = .ok own ∧
        Describes (EndsIn ending) levels path directory (.ok own) := by
      intro ending isEnding
      obtain ⟨own, isOwn⟩ := returns_gather_iff.mp ⟨all, joined⟩ ending isEnding
      exact ⟨own, isOwn, isOwn ▸ each ending⟩
    refine ⟨fun fault stops => ?_, fun file => ?_⟩
    · obtain ⟨ending, isEnding, stopsThere⟩ := stops.exists_ending
      obtain ⟨own, -, describes⟩ := returned ending isEnding
      exact describes.1 fault stopsThere
    · rw [mem_of_gather joined, finds_markup_iff]
      constructor
      · rintro ⟨ending, isEnding, own, isOwn, member⟩
        obtain ⟨_, same, describes⟩ := returned ending isEnding
        rw [isOwn] at same
        cases same
        exact ⟨ending, isEnding, (describes.2 file).mp member⟩
      · rintro ⟨ending, isEnding, finds⟩
        obtain ⟨own, isOwn, describes⟩ := returned ending isEnding
        exact ⟨ending, isEnding, own, isOwn, (describes.2 file).mpr finds⟩

/-! ## Paths that are given -/

/-- Whether a file is one of those that a path stands for: a directory for the markup files that can
be found below it, anything else for itself. -/
def StandsFor (files : FileSystem) (path file : Path) : Prop :=
  (∀ tree, files.find path = .ok tree → tree.isDirectory = false) ∧ file = path ∨
    ∃ directory, files.find path = .ok directory ∧ Finds EndsInMarkup path directory file

/-- Whether a path is refused with a fault: it cannot even be asked about, or is a directory below
which the search for markup files cannot go on somewhere. -/
def IsRefused (files : FileSystem) (levels : Nat) (path : Path) (fault : AccessFault) : Prop :=
  files.Refuses path fault ∨
    ∃ directory, files.find path = .ok directory ∧
      Stops EndsInMarkup levels path directory fault

theorem Finds.isDirectory {wanted : List String → Prop} (finds : Finds wanted path directory file) :
    directory.isDirectory = true := by
  obtain ⟨names, tree, lists, -⟩ := finds
  exact lists.isDirectory

theorem Stops.isDirectory {wanted : List String → Prop}
    (stops : Stops wanted levels path directory fault) : directory.isDirectory = true := by
  cases stops with
  | tooDeep lists => exact lists.isDirectory
  | tooLong lists => exact lists.isDirectory
  | closed lists => exact lists.isDirectory

section

variable (found : files.find path = .ok directory)
include found

/-- A directory stands for what a search below it finds. -/
theorem standsFor_directory_iff (isDirectory : directory.isDirectory = true) :
    files.StandsFor path file ↔ Finds EndsInMarkup path directory file := by
  simp [StandsFor, found, isDirectory]

/-- A directory is refused where the search below it stops. -/
theorem isRefused_directory_iff :
    files.IsRefused levels path fault ↔ Stops EndsInMarkup levels path directory fault := by
  simp [IsRefused, Refuses, found]

end

section

variable (leaf : ∀ tree, files.find path = .ok tree → tree.isDirectory = false)
include leaf

/-- What is no directory stands for itself. -/
theorem standsFor_leaf_iff : files.StandsFor path file ↔ file = path := by
  refine ⟨?_, fun same => .inl ⟨leaf, same⟩⟩
  rintro (⟨-, same⟩ | ⟨tree, found, finds⟩)
  · exact same
  · have isDirectory := finds.isDirectory
    rw [leaf tree found] at isDirectory
    cases isDirectory

/-- What is no directory is refused where it cannot be asked about. -/
theorem isRefused_leaf_iff : files.IsRefused levels path fault ↔ files.Refuses path fault := by
  refine ⟨?_, .inl⟩
  rintro (refuses | ⟨tree, found, stops⟩)
  · exact refuses
  · have isDirectory := stops.isDirectory
    rw [leaf tree found] at isDirectory
    cases isDirectory

end

/-- What is gathered for one path. -/
theorem filesOf_cases (files : FileSystem) (levels : Nat) (path : Path) :
    (∃ fault, files.filesOf levels path = .error fault ∧ files.IsRefused levels path fault) ∨
    ∃ found, files.filesOf levels path = .ok found ∧
      (∀ fault, ¬ files.IsRefused levels path fault) ∧
      ∀ file, file ∈ found ↔ files.StandsFor path file := by
  rw [filesOf]
  cases asked : files.isDirectory path with
  | error fault => exact .inl ⟨fault, rfl, .inl (asks_eq_error_iff.mp asked)⟩
  | ok answer =>
    cases answer with
    | true =>
      obtain ⟨directory, found, isDirectory⟩ := asks_eq_true_iff.mp asked
      have describes := describes_markup levels found isDirectory
      cases joined : gather (fun ending => files.filesBelow ending levels path) markupEndings with
      | error fault =>
        rw [joined] at describes
        exact .inl ⟨fault, rfl, .inr ⟨directory, found, describes⟩⟩
      | ok all =>
        rw [joined] at describes
        refine .inr ⟨all, rfl, fun fault refused => ?_, fun file => ?_⟩
        · exact describes.1 fault ((isRefused_directory_iff found).mp refused)
        · rw [describes.2 file, standsFor_directory_iff found isDirectory]
    | false =>
      have leaf : ∀ tree, files.find path = .ok tree → tree.isDirectory = false := by
        intro tree found
        simpa [isDirectory, asks, found] using asked
      refine .inr ⟨[path], rfl, fun fault refused => ?_, fun file => ?_⟩
      · have refuses := (isRefused_leaf_iff leaf).mp refused
        rw [isDirectory, asks_eq_error_iff.mpr refuses] at asked
        cases asked
      · rw [List.mem_singleton, standsFor_leaf_iff leaf]

/-- What some paths given by a user are expanded to. -/
theorem expand_cases (files : FileSystem) (levels : Nat) (arguments : List String) :
    (∃ fault, files.expand levels arguments = .error fault ∧
      ∃ argument ∈ arguments, files.IsRefused levels (.ofText argument) fault) ∨
    ∃ paths, files.expand levels arguments = .ok paths ∧
      (∀ argument ∈ arguments, ∀ fault, ¬ files.IsRefused levels (.ofText argument) fault) ∧
      (∃ found, paths = Text.distinctSorted Path.le found) ∧
      ∀ file, file ∈ paths ↔ ∃ argument ∈ arguments, files.StandsFor (.ofText argument) file := by
  have outcome (argument : String) := files.filesOf_cases levels (.ofText argument)
  rw [expand]
  cases joined : gather (files.filesOf levels) (arguments.map Path.ofText) with
  | error fault =>
    obtain ⟨path, isGiven, failed⟩ := exists_of_gather_error joined
    obtain ⟨argument, given, rfl⟩ := List.mem_map.mp isGiven
    rcases outcome argument with ⟨other, otherFailed, refused⟩ | ⟨found, returned, -⟩
    · rw [failed] at otherFailed
      cases otherFailed
      exact .inl ⟨fault, rfl, argument, given, refused⟩
    · rw [failed] at returned
      cases returned
  | ok all =>
    have returned : ∀ argument ∈ arguments, ∃ own,
        files.filesOf levels (.ofText argument) = .ok own ∧
        (∀ fault, ¬ files.IsRefused levels (.ofText argument) fault) ∧
        ∀ file, file ∈ own ↔ files.StandsFor (.ofText argument) file := by
      intro argument given
      obtain ⟨own, isOwn⟩ := returns_gather_iff.mp ⟨all, joined⟩ _ (List.mem_map_of_mem given)
      rcases outcome argument with ⟨fault, failed, -⟩ | known
      · rw [isOwn] at failed
        cases failed
      · exact known
    refine .inr ⟨_, rfl, fun argument given => ?_, ⟨all, rfl⟩, fun file => ?_⟩
    · obtain ⟨own, -, unrefused, -⟩ := returned argument given
      exact unrefused
    · rw [Text.mem_distinctSorted, mem_of_gather joined]
      constructor
      · rintro ⟨path, isGiven, own, isOwn, member⟩
        obtain ⟨argument, given, rfl⟩ := List.mem_map.mp isGiven
        obtain ⟨_, same, -, members⟩ := returned argument given
        rw [isOwn] at same
        cases same
        exact ⟨argument, given, (members file).mp member⟩
      · rintro ⟨argument, given, stands⟩
        obtain ⟨own, isOwn, -, members⟩ := returned argument given
        exact ⟨_, List.mem_map_of_mem given, own, isOwn, (members file).mpr stands⟩

/-- What a proper path stands for has proper paths. -/
theorem StandsFor.isProper (proper : path.isProper) (stands : files.StandsFor path file) :
    file.isProper := by
  rcases stands with ⟨-, rfl⟩ | ⟨directory, found, names, tree, lists, -, -, rfl⟩
  · exact proper
  · have named := lists.isEntryName (isSound_of_find found)
    simp only [Path.isProper, Path.below, List.all_append, Bool.and_eq_true]
    refine ⟨proper, List.all_eq_true.mpr fun name isName => ?_⟩
    have entryName := named name isName
    simp only [isEntryName, Bool.and_eq_true] at entryName
    exact entryName.1.1.1

variable {arguments : List String} {paths : List Path}

/-- The files that some paths stand for have proper paths. -/
theorem isProper_of_mem_expand (expanded : files.expand levels arguments = .ok paths) :
    ∀ path ∈ paths, path.isProper := by
  intro path member
  rcases files.expand_cases levels arguments with ⟨fault, failed, -⟩ | ⟨_, returned, -, -, members⟩
  · rw [expanded] at failed
    cases failed
  · rw [expanded] at returned
    cases returned
    obtain ⟨argument, -, stands⟩ := (members path).mp member
    exact stands.isProper (Path.isProper_ofText argument)

/-- The files that some paths stand for are strictly increasing. -/
theorem pairwise_expand (expanded : files.expand levels arguments = .ok paths) :
    paths.Pairwise fun first second => first.le second = true ∧ second.le first = false := by
  have proper := isProper_of_mem_expand expanded
  rcases files.expand_cases levels arguments with
    ⟨fault, failed, -⟩ | ⟨_, returned, -, ⟨found, rfl⟩, -⟩
  · rw [expanded] at failed
    cases failed
  · rw [expanded] at returned
    cases returned
    have each : ∀ path ∈ found, path.isProper :=
      fun path member => proper path (Text.mem_distinctSorted.mpr member)
    apply Text.pairwise_distinctSorted Path.le_total Path.le_trans
    intro first firstIn second secondIn
    exact Path.le_antisymm (each first firstIn) (each second secondIn)

/-- No two of them have the same text. -/
theorem nodup_toText_of_expand (expanded : files.expand levels arguments = .ok paths) :
    (paths.map Path.toText).Nodup := by
  have proper := isProper_of_mem_expand expanded
  rw [List.Nodup, List.pairwise_map]
  refine (pairwise_expand expanded).imp_of_mem ?_
  rintro first second firstIn secondIn ⟨below, notAbove⟩ same
  rw [Path.eq_of_toText_eq (proper first firstIn) (proper second secondIn) same] at below notAbove
  rw [below] at notAbove
  cases notAbove

end FileSystem

end HtmlNesting
