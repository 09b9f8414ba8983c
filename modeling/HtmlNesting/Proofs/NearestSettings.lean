import HtmlNesting.Proofs.LookingUp

/-!
# The nearest file with settings

The search for settings goes up from a directory, and what it finds is said without it: of the
directories above, itself included (`Path.IsAbove`), the nearest that has a file with settings
(`FileSystem.IsNearest`). A step of the search leaves a directory for the one around it, which all
the others above lie above (`Path.isAbove_iff`); a run ends with the nearest file, with nothing, or
at a path that is refused (`FileSystem.settingsAbove?_cases`).

A path further up is refused only if the first one is (`FileSystem.Refuses.of_isAbove`), so it is
told from the start whether the search returns.
-/

namespace HtmlNesting

/-! ## Directories above -/

namespace Path

/-- Whether a path leads to a directory above another one, or is the same. -/
def IsAbove (outer inner : Path) : Prop :=
  outer.start = inner.start ∧ outer.parts <+: inner.parts

variable {outer inner middle : Path}

theorem IsAbove.refl (path : Path) : path.IsAbove path :=
  ⟨rfl, List.prefix_rfl⟩

theorem IsAbove.antisymm (above : outer.IsAbove inner) (below : inner.IsAbove outer) :
    outer = inner := by
  obtain ⟨start, parts⟩ := outer
  obtain ⟨otherStart, otherParts⟩ := inner
  obtain ⟨rfl, shorter⟩ := above
  have same : parts = otherParts := shorter.eq_of_length_le below.2.length_le
  rw [same]

/-- Some names lead down from a directory above to the other one. -/
theorem IsAbove.exists_below (above : outer.IsAbove inner) : ∃ names, inner = outer.below names := by
  obtain ⟨sameStart, names, joined⟩ := above
  refine ⟨names, ?_⟩
  rw [below, sameStart, joined]

/-- Only the root has no other directory around it. -/
theorem around_eq_self_iff (path : Path) : path.around = path ↔ path.parts = [] := by
  constructor
  · intro same
    have parts : path.parts.dropLast = path.parts := congrArg Path.parts same
    have length := congrArg List.length parts
    rw [List.length_dropLast] at length
    exact List.length_eq_zero_iff.mp (by omega)
  · intro none
    obtain ⟨start, parts⟩ := path
    cases none
    rfl

/-- Above a directory are itself and, unless it is the root, those above the one around it. -/
theorem isAbove_iff : outer.IsAbove inner ↔
    outer = inner ∨ inner.around ≠ inner ∧ outer.IsAbove inner.around := by
  obtain ⟨start, parts⟩ := inner
  obtain ⟨outerStart, outerParts⟩ := outer
  rw [ne_eq, around_eq_self_iff]
  rcases List.eq_nil_or_concat parts with rfl | ⟨init, last, rfl⟩
  · simp [IsAbove]
  · simp only [List.concat_eq_append, IsAbove, around, List.dropLast_concat, List.prefix_concat_iff,
      Path.mk.injEq, List.append_eq_nil_iff, List.cons_ne_nil, and_false, not_false_eq_true,
      true_and, and_or_left]

end Path

namespace FileSystem

/-! ## Files with settings -/

/-- Whether a directory has a file with settings, and not a directory of that name. -/
def HasSettings (files : FileSystem) (directory : Path) : Prop :=
  ∃ tree, files.find (directory.child settingsName) = .ok tree ∧ tree.isDirectory = false

/-- Whether a path is the file with settings of the nearest directory that has one, among a
directory and those above it. -/
def IsNearest (files : FileSystem) (directory file : Path) : Prop :=
  ∃ nearest, nearest.IsAbove directory ∧ files.HasSettings nearest ∧
    file = nearest.child settingsName ∧
    ∀ other, other.IsAbove directory → files.HasSettings other → other.IsAbove nearest

variable {files : FileSystem} {directory file : Path}

theorem isFile_eq_true_iff : files.isFile (directory.child settingsName) = .ok true ↔
    files.HasSettings directory := by
  simp [isFile, asks_eq_true_iff, HasSettings]

theorem IsNearest.unique {other : Path} (nearest : files.IsNearest directory file)
    (otherNearest : files.IsNearest directory other) : file = other := by
  obtain ⟨first, firstAbove, firstHas, rfl, firstLast⟩ := nearest
  obtain ⟨second, secondAbove, secondHas, rfl, secondLast⟩ := otherNearest
  rw [(secondLast first firstAbove firstHas).antisymm (firstLast second secondAbove secondHas)]

/-- What the search from a directory comes to. -/
theorem settingsAbove?_cases (files : FileSystem) (directory : Path) :
    (∃ file, files.settingsAbove? directory = .ok (some file) ∧ files.IsNearest directory file) ∨
    (files.settingsAbove? directory = .ok none ∧
      ∀ other : Path, other.IsAbove directory → ¬ files.HasSettings other) ∨
    (∃ fault, files.settingsAbove? directory = .error fault ∧
      ∃ other : Path, other.IsAbove directory ∧
        files.Refuses (other.child settingsName) fault) := by
  fun_induction settingsAbove? files directory with
  | case1 directory fault failed =>
    exact .inr (.inr ⟨fault, rfl, directory, .refl directory, asks_eq_error_iff.mp failed⟩)
  | case2 directory isFile =>
    refine .inl ⟨_, rfl, directory, .refl directory, isFile_eq_true_iff.mp isFile, rfl, ?_⟩
    exact fun other above _ => above
  | case3 directory notFile isRoot =>
    have without : ¬ files.HasSettings directory := by
      rw [← isFile_eq_true_iff, notFile]
      simp
    refine .inr (.inl ⟨rfl, fun other above => ?_⟩)
    rcases Path.isAbove_iff.mp above with rfl | ⟨inside, -⟩
    · exact without
    · exact absurd isRoot inside
  | case4 directory notFile inside ih =>
    have without : ¬ files.HasSettings directory := by
      rw [← isFile_eq_true_iff, notFile]
      simp
    have further (other : Path) (above : other.IsAbove directory) (has : files.HasSettings other) :
        other.IsAbove directory.around := by
      rcases Path.isAbove_iff.mp above with rfl | ⟨-, higher⟩
      · exact absurd has without
      · exact higher
    rcases ih with ⟨file, found, nearest, above, has, isFile, last⟩ | ⟨none, nowhere⟩ |
      ⟨fault, failed, other, above, refused⟩
    · refine .inl ⟨file, found, nearest, Path.isAbove_iff.mpr (.inr ⟨inside, above⟩), has, isFile,
        fun other otherAbove otherHas => last other (further other otherAbove otherHas) otherHas⟩
    · exact .inr (.inl ⟨none, fun other otherAbove otherHas =>
        nowhere other (further other otherAbove otherHas) otherHas⟩)
    · exact .inr (.inr ⟨fault, failed, other, Path.isAbove_iff.mpr (.inr ⟨inside, above⟩), refused⟩)

/-! ## Paths that are refused -/

end FileSystem

theorem Path.toText_child (path : Path) (name : String) :
    (path.child name).toText =
      path.start.text ++ String.intercalate "/" (path.parts ++ [name]) := by
  simp [Path.toText, Path.child]

/-- A path is not longer than one with further components before the last. -/
theorem Path.size_child_le {outer inner : Path} (above : outer.IsAbove inner) (name : String) :
    (outer.child name).toText.utf8ByteSize ≤ (inner.child name).toText.utf8ByteSize := by
  obtain ⟨sameStart, more, joined⟩ := above
  rw [toText_child, toText_child, sameStart, ← joined, String.utf8ByteSize_append,
    String.utf8ByteSize_append]
  have single : String.intercalate "/" [name] = name := String.intercalate_singleton
  have shorter : name.utf8ByteSize ≤ (String.intercalate "/" (more ++ [name])).utf8ByteSize := by
    by_cases none : more = []
    · simp [none]
    · rw [String.intercalate_append_of_ne_nil none (by simp), single, String.utf8ByteSize_append]
      omega
  by_cases none : outer.parts = []
  · simp only [none, List.nil_append, single]
    omega
  · rw [List.append_assoc, String.intercalate_append_of_ne_nil none (by simp),
      String.intercalate_append_of_ne_nil none (by simp), single]
    simp only [String.utf8ByteSize_append]
    omega

/-- A name that is not too long is refused only where a directory may not be searched. -/
theorem FileTree.closed_of_refused {above : List FileTree} {here : FileTree} {name : String}
    {fault : AccessFault} (raised : fault.isRaised = true)
    (short : name.utf8ByteSize ≤ maxNameSize) (refused : follow above here [name] = .error fault) :
    ∃ entries access, here = .directory entries access ∧ access.searched = false ∧
      fault = .locked := by
  cases here with
  | directory entries access =>
    simp only [follow] at refused
    by_cases closed : access.searched = false
    · rw [if_pos closed] at refused
      exact ⟨entries, access, rfl, closed, (Except.error.inj refused).symm⟩
    exfalso
    rw [if_neg closed] at refused
    by_cases isUp : (name == "..") = true
    · rw [if_pos isUp] at refused
      cases above <;> simp at refused
    · rw [if_neg isUp, if_neg (Nat.not_lt.mpr short)] at refused
      split at refused
      · simp at refused
      · rw [← Except.error.inj refused] at raised
        cases raised
  | _ =>
    simp only [follow] at refused
    rw [← Except.error.inj refused] at raised
    cases raised

/-- Components that are refused before a name that is not too long are refused whatever comes after
them, if anything does. -/
theorem FileTree.follow_refused {above : List FileTree} {here : FileTree} {parts : List String}
    {name : String} {fault : AccessFault} (raised : fault.isRaised = true)
    (short : name.utf8ByteSize ≤ maxNameSize)
    (refused : follow above here (parts ++ [name]) = .error fault) {more : List String}
    (further : more ≠ []) : follow above here (parts ++ more) = .error fault := by
  induction parts generalizing above here with
  | nil =>
    obtain ⟨next, others, rfl⟩ := List.exists_cons_of_ne_nil further
    obtain ⟨entries, access, rfl, closed, rfl⟩ := closed_of_refused raised short refused
    simp only [List.nil_append, follow, if_pos closed]
  | cons part rest ih =>
    cases here with
    | directory entries access =>
      simp only [List.cons_append, follow] at refused ⊢
      by_cases closed : access.searched = false
      · rw [if_pos closed] at refused ⊢
        exact refused
      rw [if_neg closed] at refused ⊢
      by_cases isUp : (part == "..") = true
      · rw [if_pos isUp] at refused ⊢
        cases above <;> exact ih refused
      rw [if_neg isUp] at refused ⊢
      by_cases long : maxNameSize < part.utf8ByteSize
      · rw [if_pos long] at refused ⊢
        exact refused
      rw [if_neg long] at refused ⊢
      cases found : Dictionary.get? entries part with
      | none =>
        simp only [found] at refused ⊢
        exact refused
      | some inner =>
        simp only [found] at refused ⊢
        exact ih refused
    | _ =>
      simp only [List.cons_append, follow] at refused ⊢
      exact refused

namespace FileSystem

variable {files : FileSystem}

theorem follow_refused {start : PathStart} {parts : List String} {name : String}
    {fault : AccessFault} (raised : fault.isRaised = true)
    (short : name.utf8ByteSize ≤ FileTree.maxNameSize)
    (refused : files.follow start (parts ++ [name]) = .error fault) {more : List String}
    (further : more ≠ []) : files.follow start (parts ++ more) = .error fault := by
  unfold follow at refused ⊢
  split at refused
  next above here entered => exact FileTree.follow_refused raised short refused further
  next => exact refused

/-- The name of a file with settings is not too long, so where it is refused in a directory it is
refused further down. -/
theorem Refuses.of_isAbove {outer inner : Path} {fault : AccessFault} (above : outer.IsAbove inner)
    (noNull : '\x00' ∉ (inner.child settingsName).toText.toList)
    (refused : files.Refuses (outer.child settingsName) fault) :
    ∃ other, files.Refuses (inner.child settingsName) other := by
  obtain ⟨raised, failed⟩ := refused
  cases fits : isShort (inner.child settingsName) with
  | false => exact ⟨.nameTooLong, rfl, by rw [find_of_clean noNull, fits, if_neg nofun]⟩
  | true =>
    -- Then the path further up is not too long as a whole either.
    have outerFits : isShort (outer.child settingsName) = true := by
      have size := Path.size_child_le above settingsName
      simp only [isShort, decide_eq_true_eq] at fits ⊢
      omega
    obtain ⟨names, rfl⟩ := above.exists_below
    have outerNoNull : '\x00' ∉ (outer.child settingsName).toText.toList := by
      rw [Path.null_mem_toText] at noNull ⊢
      rintro ⟨part, member, null⟩
      rcases List.mem_append.mp member with inside | isName
      · exact noNull ⟨part, List.mem_append_left _ (List.mem_append_left _ inside), null⟩
      · exact noNull ⟨part, List.mem_append_right _ isName, null⟩
    rw [find_of_clean outerNoNull, if_pos outerFits] at failed
    refine ⟨fault, raised, ?_⟩
    rw [find_of_clean noNull, if_pos fits]
    have further := follow_refused raised (by decide) failed
      (by simp : names ++ [settingsName] ≠ [])
    rwa [← List.append_assoc] at further

end FileSystem

/-! ## Null bytes -/

/-- Taking double dots together with what is before them adds no component. -/
theorem Path.mem_of_mem_withoutDoubleDots {parts : List String} {part : String}
    (member : part ∈ withoutDoubleDots parts) : part ∈ parts := by
  have general (kept : List String) : part ∈ parts.foldl
      (fun kept part => if part == ".." then kept.dropLast else kept ++ [part]) kept →
        part ∈ kept ∨ part ∈ parts := by
    clear member
    induction parts generalizing kept with
    | nil => exact .inl
    | cons first rest ih =>
      intro member
      rcases ih _ member with inside | later
      · dsimp only at inside
        split at inside
        · exact .inl (List.dropLast_subset kept inside)
        · rcases List.mem_append.mp inside with before | isFirst
          · exact .inl before
          · exact .inr (List.mem_cons.mpr (.inl (List.mem_singleton.mp isFirst)))
      · exact .inr (List.mem_cons_of_mem _ later)
  exact (general [] member).resolve_left List.not_mem_nil

namespace FileSystem

variable {files : FileSystem} {start : Path}

/-! ## From a path on -/

/-- The directory at which the search from a path starts: the path itself if it leads to a
directory, and the one around it otherwise. -/
def startDirectory (files : FileSystem) (start : Path) : Path :=
  match files.find (files.resolve start) with
  | .ok (.directory _ _) => files.resolve start
  | _ => (files.resolve start).around

theorem startDirectory_isAbove (files : FileSystem) (start : Path) :
    (files.startDirectory start).IsAbove (files.resolve start) := by
  rw [startDirectory]
  split
  · exact .refl _
  · exact ⟨rfl, List.dropLast_prefix _⟩

/-- In a system without null bytes a path without one resolves to one without. -/
theorem null_not_mem_candidate (noNull : ∀ part ∈ files.workingDirectory, '\x00' ∉ part.toList)
    (startClean : '\x00' ∉ start.toText.toList) :
    '\x00' ∉ ((files.startDirectory start).child settingsName).toText.toList := by
  rw [Path.null_mem_toText] at startClean ⊢
  rintro ⟨part, member, null⟩
  rcases List.mem_append.mp member with inside | isName
  · have resolved := (files.startDirectory_isAbove start).2.subset inside
    have original := Path.mem_of_mem_withoutDoubleDots resolved
    rw [fromRoot] at original
    split at original
    · rcases List.mem_append.mp original with fromWorking | fromStart
      · exact noNull part fromWorking null
      · exact startClean ⟨part, fromStart, null⟩
    · exact startClean ⟨part, original, null⟩
  · rw [List.mem_singleton.mp isName] at null
    revert null
    decide

theorem findSettings?_of_null (null : '\x00' ∈ start.toText.toList) :
    files.findSettings? start = .error .nullByte := by
  simp [findSettings?, null]

theorem findSettings?_of_refused {fault : AccessFault} (startClean : '\x00' ∉ start.toText.toList)
    (refused : files.Refuses (files.resolve start) fault) :
    files.findSettings? start = .error fault := by
  have failed : files.isDirectory (files.resolve start) = .error fault :=
    asks_eq_error_iff.mpr refused
  simp [findSettings?, startClean, failed]

/-- A path that can be asked about is searched from its start directory. -/
theorem findSettings?_eq_settingsAbove? (startClean : '\x00' ∉ start.toText.toList)
    (reached : ∀ fault, ¬ files.Refuses (files.resolve start) fault) :
    files.findSettings? start = files.settingsAbove? (files.startDirectory start) := by
  have clean : start.toText.toList.contains '\x00' = false := by simpa using startClean
  rw [findSettings?, clean, if_neg Bool.false_ne_true, startDirectory]
  cases found : files.find (files.resolve start) with
  | ok tree =>
    have answer : files.isDirectory (files.resolve start) = .ok tree.isDirectory := by
      rw [isDirectory, asks, found]
    simp only [answer]
    cases tree <;> rfl
  | error fault =>
    have passed : fault.isRaised = false := by
      rw [← Bool.not_eq_true]
      exact fun raised => reached fault ⟨raised, found⟩
    have answer : files.isDirectory (files.resolve start) = .ok false := by
      rw [isDirectory, asks, found]
      simp [passed]
    simp only [answer]

theorem settingsAbove?_of_refused {directory : Path} {fault : AccessFault}
    (refused : files.Refuses (directory.child settingsName) fault) :
    files.settingsAbove? directory = .error fault := by
  have failed : files.isFile (directory.child settingsName) = .error fault :=
    asks_eq_error_iff.mpr refused
  rw [settingsAbove?, failed]

/-- Whether the search for settings from a path cannot go on, and the fault that ends it: the path
has a null byte, or it is refused, or the file with settings in the start directory is. -/
def Unsearchable (files : FileSystem) (start : Path) (fault : AccessFault) : Prop :=
  fault = .nullByte ∧ '\x00' ∈ start.toText.toList ∨
  '\x00' ∉ start.toText.toList ∧ (files.Refuses (files.resolve start) fault ∨
    (∀ other, ¬ files.Refuses (files.resolve start) other) ∧
      files.Refuses ((files.startDirectory start).child settingsName) fault)

theorem findSettings?_of_unsearchable {fault : AccessFault}
    (unsearchable : files.Unsearchable start fault) :
    files.findSettings? start = .error fault := by
  rcases unsearchable with ⟨rfl, null⟩ | ⟨clean, refused | ⟨reached, refused⟩⟩
  · exact findSettings?_of_null null
  · exact findSettings?_of_refused clean refused
  · rw [findSettings?_eq_settingsAbove? clean reached]
    exact settingsAbove?_of_refused refused

/-- What the search from a path comes to. -/
theorem findSettings?_cases (files : FileSystem)
    (noNull : ∀ part ∈ files.workingDirectory, '\x00' ∉ part.toList) (start : Path) :
    (∃ fault, files.findSettings? start = .error fault ∧ files.Unsearchable start fault) ∨
    (∀ fault, ¬ files.Unsearchable start fault) ∧
      ((∃ file, files.findSettings? start = .ok (some file) ∧
        files.IsNearest (files.startDirectory start) file) ∨
      files.findSettings? start = .ok none ∧
        ∀ other : Path, other.IsAbove (files.startDirectory start) → ¬ files.HasSettings other) := by
  by_cases ends : ∃ fault, files.Unsearchable start fault
  · obtain ⟨fault, unsearchable⟩ := ends
    exact .inl ⟨fault, findSettings?_of_unsearchable unsearchable, unsearchable⟩
  rw [not_exists] at ends
  have clean : '\x00' ∉ start.toText.toList := fun null => ends .nullByte (.inl ⟨rfl, null⟩)
  have reached : ∀ fault, ¬ files.Refuses (files.resolve start) fault :=
    fun fault refused => ends fault (.inr ⟨clean, .inl refused⟩)
  refine .inr ⟨ends, ?_⟩
  rw [findSettings?_eq_settingsAbove? clean reached]
  rcases files.settingsAbove?_cases (files.startDirectory start) with found | nothing |
    ⟨fault, -, other, above, refused⟩
  · exact .inl found
  · exact .inr nothing
  · -- A path further up is not refused, since the first one is not.
    obtain ⟨first, firstRefused⟩ := refused.of_isAbove above (null_not_mem_candidate noNull clean)
    exact absurd (.inr ⟨clean, .inr ⟨reached, firstRefused⟩⟩) (ends first)

end FileSystem

/-- A site with settings in the root, in the directory above the site, and in a directory of the
site that only has the name of a file with settings. -/
def nestedSettings : FileSystem where
  root := .directory [
    (".nestlintrc", .file []),
    ("home", .directory [
      (".nestlintrc", .file []),
      ("site", .directory [(".nestlintrc", .directory []), ("page.html", .file [])])])]
  workingDirectory := ["home"]

/-- From a name that is too long the search fails. -/
theorem IsLongName.findSettings?_eq_tooLong {name : String} (isLong : IsLongName name) :
    '\x00' ∉ (Path.ofText name).toText.toList ∧
    nestedSettings.HasSettings (nestedSettings.startDirectory (.ofText name)) ∧
    nestedSettings.findSettings? (.ofText name) = .error .nameTooLong := by
  have isName := Path.ofText_of_isPartName isLong.named
  have clean : '\x00' ∉ (Path.ofText name).toText.toList := by
    rw [Path.null_mem_toText, isName]
    simpa using isLong.clean
  have resolved : nestedSettings.resolve (.ofText name) =
      Path.child { start := .root, parts := ["home"] } name := by
    have ordinary : name ≠ ".." := by
      rintro rfl
      exact absurd isLong.long (by decide)
    simp [FileSystem.resolve, isName, FileSystem.fromRoot, nestedSettings, Path.withoutDoubleDots,
      Path.child, ordinary]
  have tooLong : nestedSettings.find (nestedSettings.resolve (.ofText name)) =
      .error .nameTooLong := by
    rw [resolved]
    exact isLong.find_eq_tooLong rfl rfl
  have directory : nestedSettings.startDirectory (.ofText name) =
      { start := .root, parts := ["home"] } := by
    rw [FileSystem.startDirectory, tooLong, resolved]
    rfl
  rw [directory]
  exact ⟨clean, ⟨.file [], rfl, rfl⟩, FileSystem.findSettings?_of_refused clean ⟨rfl, tooLong⟩⟩

end HtmlNesting
