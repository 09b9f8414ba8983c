import HtmlNesting.Proofs.Joining
import HtmlNesting.Proofs.LookingUp

/-!
# Searching directories

The search below a directory lists it and goes on in its directories. What it comes to on the way is
said by a relation on the tree alone (`Lists`), and so are the reasons for which it cannot go on
(`FileSystem.Stops`).

A step of the search takes a directory with its entries (`FileSystem.describes_filesIn`). So, by
induction on the levels that it can go down, a whole search ends at one of these reasons, or returns
exactly the files that lie in directories that may be listed and searched
(`FileSystem.describes_filesBelow`).
-/

namespace HtmlNesting

/-! ## What is listed -/

/-- Whether some names lead from a directory to something in it or further down that can be listed.
All directories on the way may be listed, and all but the last may be searched; whether the last one
may be searched is told besides. -/
inductive Lists : FileTree → List String → Bool → FileTree → Prop
  | entry {entries : List (String × FileTree)} {access : Access} {name : String} {tree : FileTree}
    (listed : access.listed = true) (member : (name, tree) ∈ entries) :
    Lists (.directory entries access) [name] access.searched tree
  | deeper {entries : List (String × FileTree)} {access : Access} {name : String}
    {names : List String} {inner tree : FileTree} {searched : Bool}
    (listed : access.listed = true) (opened : access.searched = true)
    (member : (name, inner) ∈ entries) (inside : Lists inner names searched tree) :
    Lists (.directory entries access) (name :: names) searched tree

namespace Lists

variable {directory inner tree : FileTree} {names more : List String} {searched : Bool}

theorem ne_nil (lists : Lists directory names searched tree) : names ≠ [] := by
  cases lists <;> simp

theorem isDirectory (lists : Lists directory names searched tree) :
    directory.isDirectory = true := by
  cases lists <;> rfl

theorem trans (outside : Lists directory names true inner)
    (inside : Lists inner more searched tree) : Lists directory (names ++ more) searched tree := by
  generalize isTrue : true = opened at outside
  induction outside with
  | entry listed member => exact .deeper listed isTrue.symm member inside
  | deeper listed opened member _ ih => exact .deeper listed opened member (ih inside isTrue)

/-- The names on the way are names of entries. -/
theorem isEntryName (sound : directory.isSound) (lists : Lists directory names searched tree) :
    ∀ name ∈ names, isEntryName name := by
  induction lists with
  | entry listed member =>
    rw [FileTree.isSound_directory] at sound
    simpa using (entry_of_areSound sound member).1
  | deeper listed opened member inside ih =>
    rw [FileTree.isSound_directory] at sound
    obtain ⟨named, -, innerSound⟩ := entry_of_areSound sound member
    exact List.forall_mem_cons.mpr ⟨named, ih innerSound⟩

end Lists

/-- A name leads from a sound directory to its entry, if the directory may be searched. -/
theorem FileTree.follow_entry {entries : List (String × FileTree)} {name : String}
    {tree : FileTree} (sound : areSound entries) (member : (name, tree) ∈ entries)
    (access : Access) (above : List FileTree) (rest : List String) :
    follow above (.directory entries access) (name :: rest) =
      if access.searched then follow (.directory entries access :: above) tree rest
      else .error .locked := by
  obtain ⟨named, found, -⟩ := entry_of_areSound sound member
  simp only [isEntryName, Bool.and_eq_true, bne_iff_ne, decide_eq_true_eq] at named
  cases opened : access.searched <;>
    simp [follow, opened, named.1.1.2, Nat.not_lt.mpr named.2, found]

/-- What is listed in a sound directory is where its names lead to. -/
theorem Lists.follow_eq {directory tree : FileTree} {names : List String} {searched : Bool}
    (sound : directory.isSound) (lists : Lists directory names searched tree)
    (above : List FileTree) :
    directory.follow above names = if searched then .ok tree else .error .locked := by
  induction lists generalizing above with
  | entry listed member =>
    rw [FileTree.isSound_directory] at sound
    rw [FileTree.follow_entry sound member, FileTree.follow]
  | deeper listed opened member inside ih =>
    rw [FileTree.isSound_directory] at sound
    rw [FileTree.follow_entry sound member, if_pos opened]
    exact ih (entry_of_areSound sound member).2.2 _

/-- Whether the last of some names has an ending. -/
def EndsIn (ending : String) (names : List String) : Prop :=
  ∃ name ∈ names.getLast?, ending.toList <:+ name.toList

theorem endsIn_singleton (ending name : String) :
    EndsIn ending [name] ↔ hasEnding ending name = true := by
  simp [EndsIn, hasEnding]

theorem endsIn_append {ending : String} {names more : List String} (nonempty : more ≠ []) :
    EndsIn ending (names ++ more) ↔ EndsIn ending more := by
  rw [EndsIn, EndsIn, List.getLast?_append, List.getLast?_eq_some_getLast nonempty,
    Option.some_or]

theorem endsIn_cons {ending name : String} {names : List String} (nonempty : names ≠ []) :
    EndsIn ending (name :: names) ↔ EndsIn ending names :=
  @endsIn_append ending [name] names nonempty

namespace FileSystem

/-! ## Where a search stops -/

/-- Whether a search for wanted names below the directory at a path cannot go on somewhere, and the
fault that is found there: a directory more levels down than the search can go, something to be
opened or looked up whose path is too long, or a wanted name in a directory that may not be
searched. -/
inductive Stops (wanted : List String → Prop) (levels : Nat) (path : Path) (directory : FileTree) :
    AccessFault → Prop
  | tooDeep {names : List String} {searched : Bool} {tree : FileTree}
    (lists : Lists directory names searched tree) (isDirectory : tree.isDirectory = true)
    (deep : levels < names.length) : Stops wanted levels path directory .tooDeep
  | tooLong {names : List String} {searched : Bool} {tree : FileTree}
    (lists : Lists directory names searched tree)
    (looked : tree.isDirectory = true ∨ wanted names)
    (long : isShort (path.below names) = false) : Stops wanted levels path directory .nameTooLong
  | closed {names : List String} {searched : Bool} {tree : FileTree}
    (lists : Lists directory names searched tree) (shut : searched = false)
    (isWanted : wanted names) (short : isShort (path.below names) = true) :
    Stops wanted levels path directory .locked

/-- Whether a path is that of a file with a wanted name below the directory at a path, where a
search can come to it. -/
def Finds (wanted : List String → Prop) (path : Path) (directory : FileTree) (file : Path) : Prop :=
  ∃ names tree, Lists directory names true tree ∧ tree.isDirectory = false ∧ wanted names ∧
    file = path.below names

/-- What the outcome of a search tells: the files that can be found, if there is nothing at which
the search stops, and the fault of something at which it does otherwise. -/
def Describes (wanted : List String → Prop) (levels : Nat) (path : Path) (directory : FileTree) :
    Except AccessFault (List Path) → Prop
  | .ok found => (∀ fault, ¬ Stops wanted levels path directory fault) ∧
      ∀ file, file ∈ found ↔ Finds wanted path directory file
  | .error fault => Stops wanted levels path directory fault

variable {files : FileSystem} {path : Path} {directory : FileTree} {ending : String} {levels : Nat}

section

variable {entries : List (String × FileTree)} {access : Access} {name : String} {inner : FileTree}
  (listed : access.listed = true) (opened : access.searched = true)
  (member : (name, inner) ∈ entries)
include listed opened member

/-- What stops a search in a directory stops it in the one around. -/
theorem Stops.deeper {fault : AccessFault}
    (stops : Stops (EndsIn ending) levels (path.child name) inner fault) :
    Stops (EndsIn ending) (levels + 1) path (.directory entries access) fault := by
  cases stops with
  | tooDeep lists isDirectory deep =>
    exact .tooDeep (.deeper listed opened member lists) isDirectory (Nat.succ_lt_succ deep)
  | tooLong lists looked long =>
    rw [← endsIn_cons lists.ne_nil] at looked
    exact .tooLong (.deeper listed opened member lists) looked (Path.child_below .. ▸ long)
  | closed lists shut isWanted short =>
    rw [← endsIn_cons lists.ne_nil] at isWanted
    exact .closed (.deeper listed opened member lists) shut isWanted (Path.child_below .. ▸ short)

theorem Finds.deeper {file : Path} (finds : Finds (EndsIn ending) (path.child name) inner file) :
    Finds (EndsIn ending) path (.directory entries access) file := by
  obtain ⟨names, tree, lists, isFile, ends, rfl⟩ := finds
  exact ⟨name :: names, tree, .deeper listed opened member lists, isFile,
    (endsIn_cons lists.ne_nil).mpr ends, Path.child_below ..⟩

end

/-- What is listed below a directory is found by its own path, if that is not too long and the
directory around it may be searched. -/
theorem find_of_lists {names : List String} {searched : Bool} {tree : FileTree}
    (found : files.find path = .ok directory) (lists : Lists directory names searched tree) :
    files.find (path.below names) =
      if isShort (path.below names) then if searched then .ok tree else .error .locked
      else .error .nameTooLong := by
  have sound := isSound_of_find found
  obtain ⟨clean, -, followed⟩ := find_eq_ok_iff.mp found
  obtain ⟨around, same⟩ := follow_append followed
  have noNull : '\x00' ∉ (path.below names).toText.toList := by
    rw [Path.null_mem_toText] at clean ⊢
    rintro ⟨part, member, null⟩
    rcases List.mem_append.mp member with above | isName
    · exact clean ⟨part, above, null⟩
    · have named := lists.isEntryName sound part isName
      simp [isEntryName, null] at named
  rw [find_of_clean noNull, Path.below, same, lists.follow_eq sound]

/-! ## One directory -/

/-- A step of a search ends with a fault found at one of the entries of its directory, or returns
what it finds at all of them. -/
theorem filesIn_cases {entries : List (String × FileTree)} (listed : files.list path = .ok entries)
    (ending : String) (search : Path → Except AccessFault (List Path)) :
    (∃ fault, files.filesIn ending search path = .error fault ∧ ∃ entry ∈ entries,
      files.matching ending path entry = .error fault ∨ inside search path entry = .error fault) ∨
    ∃ found, files.filesIn ending search path = .ok found ∧
      (∀ entry ∈ entries, Returns (files.matching ending path entry) ∧
        Returns (inside search path entry)) ∧
      ∀ file, file ∈ found ↔ ∃ entry ∈ entries,
        (∃ own, files.matching ending path entry = .ok own ∧ file ∈ own) ∨
          ∃ own, inside search path entry = .ok own ∧ file ∈ own := by
  simp only [filesIn, listed]
  cases matched : gather (files.matching ending path) entries with
  | error fault =>
    obtain ⟨entry, member, failed⟩ := exists_of_gather_error matched
    exact .inl ⟨fault, rfl, entry, member, .inl failed⟩
  | ok here =>
    cases entered : gather (inside search path) entries with
    | error fault =>
      obtain ⟨entry, member, failed⟩ := exists_of_gather_error entered
      exact .inl ⟨fault, rfl, entry, member, .inr failed⟩
    | ok deeper =>
      refine .inr ⟨here ++ deeper, rfl, fun entry member => ?_, fun file => ?_⟩
      · exact ⟨returns_gather_iff.mp ⟨here, matched⟩ entry member,
          returns_gather_iff.mp ⟨deeper, entered⟩ entry member⟩
      · rw [List.mem_append, mem_of_gather matched, mem_of_gather entered]
        simp only [← exists_or, ← and_or_left]

section

variable {entries : List (String × FileTree)} {access : Access} {name : String} {inner : FileTree}
  (found : files.find path = .ok (.directory entries access)) (listed : access.listed = true)
  (member : (name, inner) ∈ entries)
include found listed member

theorem find_child : files.find (path.child name) =
    if isShort (path.child name) then if access.searched then .ok inner else .error .locked
    else .error .nameTooLong :=
  find_of_lists found (.entry listed member)

/-- An entry with an ending is looked up by its path. -/
theorem matching_eq : files.matching ending path (name, inner) =
    if hasEnding ending name then
      if isShort (path.child name) then
        if access.searched then .ok (if inner.isDirectory then [] else [path.child name])
        else .error .locked
      else .error .nameTooLong
    else .ok [] := by
  rw [matching, isFile, asks, find_child found listed member]
  cases hasEnding ending name <;> cases isShort (path.child name) <;> cases access.searched <;>
    cases isDirectory : inner.isDirectory <;> simp [AccessFault.isRaised, isDirectory]

theorem stops_of_matching {fault : AccessFault}
    (failed : files.matching ending path (name, inner) = .error fault) :
    Stops (EndsIn ending) levels path (.directory entries access) fault := by
  have lists := Lists.entry listed member
  rw [matching_eq found listed member] at failed
  split at failed
  next ends =>
    rw [← endsIn_singleton] at ends
    split at failed
    next short =>
      split at failed
      next => cases failed
      next closed =>
        cases failed
        exact .closed lists (by simpa using closed) ends short
    next long =>
      cases failed
      exact .tooLong lists (.inr ends) (by simpa [Path.child_eq_below] using long)
  next => cases failed

theorem matching_of_ends {own : List Path}
    (returned : files.matching ending path (name, inner) = .ok own)
    (ends : hasEnding ending name = true) :
    isShort (path.child name) = true ∧ access.searched = true ∧
      own = if inner.isDirectory then [] else [path.child name] := by
  rw [matching_eq found listed member, if_pos ends] at returned
  split at returned
  next short =>
    split at returned
    next opened => exact ⟨short, opened, (Except.ok.inj returned).symm⟩
    next => cases returned
  next => cases returned

theorem finds_of_matching {own : List Path} {file : Path}
    (returned : files.matching ending path (name, inner) = .ok own) (isOwn : file ∈ own) :
    Finds (EndsIn ending) path (.directory entries access) file := by
  by_cases ends : hasEnding ending name = true
  · obtain ⟨-, opened, rfl⟩ := matching_of_ends found listed member returned ends
    split at isOwn
    next => simp at isOwn
    next isFile =>
      exact ⟨[name], inner, opened ▸ .entry listed member, by simpa using isFile,
        (endsIn_singleton ..).mpr ends, List.mem_singleton.mp isOwn⟩
  · rw [matching_eq found listed member, if_neg ends] at returned
    cases returned
    simp at isOwn

/-- The search in a directory that cannot be opened fails if its path is too long, and is passed
over otherwise. -/
theorem filesBelow_child (closed : isShort (path.child name) = false ∨ access.searched = false) :
    files.filesBelow ending levels (path.child name) =
      if isShort (path.child name) then .ok [] else .error .nameTooLong := by
  have unlisted : files.list (path.child name) =
      if isShort (path.child name) then .error .locked else .error .nameTooLong := by
    rw [list, find_child found listed member]
    rcases closed with long | shut
    · simp [long]
    · cases isShort (path.child name) <;> simp [shut]
  cases levels <;> cases short : isShort (path.child name) <;>
    simp [filesBelow, filesIn, unlisted, short]

end

/-- What stops a search below a directory is one of its entries, or stops the search in one of its
directories, one level further down. -/
theorem stops_cases {entries : List (String × FileTree)} {access : Access} {fault : AccessFault}
    (stops : Stops (EndsIn ending) levels path (.directory entries access) fault) :
    access.listed = true ∧ ∃ name inner, (name, inner) ∈ entries ∧
      (inner.isDirectory = true ∧ (levels = 0 ∨ isShort (path.child name) = false) ∨
      hasEnding ending name = true ∧
        (isShort (path.child name) = false ∨ access.searched = false) ∨
      access.searched = true ∧ inner.isDirectory = true ∧
        Stops (EndsIn ending) (levels - 1) (path.child name) inner fault) := by
  cases stops with
  | tooDeep lists isDirectory deep =>
    cases lists with
    | entry listed member =>
      have none : levels = 0 := by simpa using deep
      exact ⟨listed, _, _, member, .inl ⟨isDirectory, .inl none⟩⟩
    | deeper listed opened member inside =>
      refine ⟨listed, _, _, member, ?_⟩
      by_cases none : levels = 0
      · exact .inl ⟨inside.isDirectory, .inl none⟩
      · rw [List.length_cons] at deep
        exact .inr (.inr ⟨opened, inside.isDirectory, .tooDeep inside isDirectory (by omega)⟩)
  | tooLong lists looked long =>
    cases lists with
    | entry listed member =>
      rw [endsIn_singleton] at looked
      refine ⟨listed, _, _, member, ?_⟩
      exact looked.elim (fun isDirectory => .inl ⟨isDirectory, .inr long⟩)
        fun ends => .inr (.inl ⟨ends, .inl long⟩)
    | deeper listed opened member inside =>
      rw [endsIn_cons inside.ne_nil] at looked
      rw [← Path.child_below] at long
      exact ⟨listed, _, _, member,
        .inr (.inr ⟨opened, inside.isDirectory, .tooLong inside looked long⟩)⟩
  | closed lists shut isWanted short =>
    cases lists with
    | entry listed member =>
      rw [endsIn_singleton] at isWanted
      exact ⟨listed, _, _, member, .inr (.inl ⟨isWanted, .inr shut⟩)⟩
    | deeper listed opened member inside =>
      rw [endsIn_cons inside.ne_nil] at isWanted
      rw [← Path.child_below] at short
      exact ⟨listed, _, _, member,
        .inr (.inr ⟨opened, inside.isDirectory, .closed inside shut isWanted short⟩)⟩

/-- A file that can be found below a directory is one of its entries, or can be found in one of its
directories. -/
theorem finds_cases {entries : List (String × FileTree)} {access : Access} {file : Path}
    (finds : Finds (EndsIn ending) path (.directory entries access) file) :
    access.listed = true ∧ access.searched = true ∧ ∃ name inner, (name, inner) ∈ entries ∧
      (inner.isDirectory = false ∧ hasEnding ending name = true ∧ file = path.child name ∨
      inner.isDirectory = true ∧ Finds (EndsIn ending) (path.child name) inner file) := by
  obtain ⟨names, tree, lists, isFile, ends, rfl⟩ := finds
  obtain ⟨searched, isOpen⟩ : ∃ searched, searched = true := ⟨_, rfl⟩
  rw [← isOpen] at lists
  cases lists with
  | entry listed member =>
    exact ⟨listed, isOpen, _, _, member, .inl ⟨isFile, (endsIn_singleton ..).mp ends, rfl⟩⟩
  | deeper listed opened member inside =>
    rw [isOpen] at inside
    refine ⟨listed, opened, _, _, member, .inr ⟨inside.isDirectory, _, tree, inside, isFile, ?_, ?_⟩⟩
    · exact (endsIn_cons inside.ne_nil).mp ends
    · rw [Path.child_below]

/-- What a search in a directory among the entries of another has returned. Nothing is found there
if the outer one may not be searched. -/
structure EntrySearched (ending : String) (levels : Nat) (path : Path) (access : Access)
    (name : String) (inner : FileTree) (own : List Path) : Prop where
  levelsLeft : levels ≠ 0
  short : isShort (path.child name) = true
  closed : access.searched = false → own = []
  opened : access.searched = true →
    Describes (EndsIn ending) (levels - 1) (path.child name) inner (.ok own)

section

variable {entries : List (String × FileTree)} {access : Access}
  (found : files.find path = .ok (.directory entries access)) (listed : access.listed = true)
  {search : Path → Except AccessFault (List Path)}
  (returns : ∀ {name inner own}, (name, inner) ∈ entries → inner.isDirectory = true →
    search (path.child name) = .ok own → EntrySearched ending levels path access name inner own)
include found listed returns

/-- If no entry fails, nothing stops the search. -/
theorem not_stops_of_returned {fault : AccessFault}
    (each : ∀ entry ∈ entries, Returns (files.matching ending path entry) ∧
      Returns (inside search path entry)) :
    ¬ Stops (EndsIn ending) levels path (.directory entries access) fault := by
  intro isStopped
  have entered : ∀ {name inner}, (name, inner) ∈ entries → inner.isDirectory = true →
      ∃ own, EntrySearched ending levels path access name inner own := by
    intro name inner member isDirectory
    obtain ⟨own, isOwn⟩ := (each _ member).2
    exact ⟨own, returns member isDirectory (by simpa [inside, isDirectory] using isOwn)⟩
  obtain ⟨-, name, inner, member, ⟨isDirectory, tooFar⟩ | ⟨ends, unseen⟩ |
    ⟨opened, isDirectory, deeper⟩⟩ := stops_cases isStopped
  · obtain ⟨own, searched⟩ := entered member isDirectory
    simp [searched.levelsLeft, searched.short] at tooFar
  · obtain ⟨own, isOwn⟩ := (each _ member).1
    obtain ⟨short, opened, -⟩ := matching_of_ends found listed member isOwn ends
    simp [short, opened] at unseen
  · obtain ⟨own, searched⟩ := entered member isDirectory
    exact (searched.opened opened).1 fault deeper

/-- What the entries give is what a search finds. -/
theorem finds_iff_of_returned {file : Path}
    (each : ∀ entry ∈ entries, Returns (files.matching ending path entry) ∧
      Returns (inside search path entry)) :
    (∃ entry ∈ entries, (∃ own, files.matching ending path entry = .ok own ∧ file ∈ own) ∨
      ∃ own, inside search path entry = .ok own ∧ file ∈ own) ↔
      Finds (EndsIn ending) path (.directory entries access) file := by
  constructor
  · rintro ⟨⟨name, inner⟩, member, ⟨own, isOwn, atEntry⟩ | ⟨own, isOwn, insideEntry⟩⟩
    · exact finds_of_matching found listed member isOwn atEntry
    · rw [inside] at isOwn
      split at isOwn
      next isDirectory =>
        have searched := returns member isDirectory isOwn
        cases opened : access.searched with
        | false => simp [searched.closed opened] at insideEntry
        | true =>
          have finds := ((searched.opened opened).2 file).mp insideEntry
          exact finds.deeper listed opened member
      next =>
        cases isOwn
        simp at insideEntry
  · intro finds
    obtain ⟨-, opened, name, inner, member, ⟨isFile, ends, rfl⟩ | ⟨isDirectory, deeper⟩⟩ :=
      finds_cases finds
    · obtain ⟨own, isOwn⟩ := (each _ member).1
      obtain ⟨-, -, rfl⟩ := matching_of_ends found listed member isOwn ends
      exact ⟨_, member, .inl ⟨_, isOwn, by simp [isFile]⟩⟩
    · obtain ⟨own, isOwn⟩ := (each _ member).2
      have searched := returns member isDirectory (by simpa [inside, isDirectory] using isOwn)
      exact ⟨_, member, .inr ⟨own, isOwn, ((searched.opened opened).2 file).mpr deeper⟩⟩

/-- What a step of a search in a directory that may be listed comes to, if it is known what the
searches in the directories among its entries come to. -/
theorem describes_filesIn
    (stops : ∀ {name inner fault}, (name, inner) ∈ entries → inner.isDirectory = true →
      search (path.child name) = .error fault →
        Stops (EndsIn ending) levels path (.directory entries access) fault) :
    Describes (EndsIn ending) levels path (.directory entries access)
      (files.filesIn ending search path) := by
  have entriesListed : files.list path = .ok entries := by
    simp [list, found, listed]
  rcases filesIn_cases entriesListed ending search with
    ⟨fault, failed, ⟨name, inner⟩, member, atEntry | insideEntry⟩ | ⟨all, returned, each, members⟩
  · rw [failed]
    exact stops_of_matching found listed member atEntry
  · rw [failed]
    rw [inside] at insideEntry
    split at insideEntry
    next isDirectory => exact stops member isDirectory insideEntry
    next => cases insideEntry
  · rw [returned]
    refine ⟨fun fault => not_stops_of_returned found listed returns each, fun file => ?_⟩
    rw [members, finds_iff_of_returned found listed returns each]

end

/-- In a directory that may not be listed a search finds nothing. -/
theorem describes_unlisted {entries : List (String × FileTree)} {access : Access}
    (found : files.find path = .ok (.directory entries access)) (unlisted : access.listed = false)
    (search : Path → Except AccessFault (List Path)) :
    Describes (EndsIn ending) levels path (.directory entries access)
      (files.filesIn ending search path) := by
  have nothing : files.filesIn ending search path = .ok [] := by
    simp [filesIn, list, found, unlisted]
  rw [nothing]
  refine ⟨fun fault stops => ?_, fun file => iff_of_false List.not_mem_nil fun finds => ?_⟩
  · rw [(stops_cases stops).1] at unlisted
    cases unlisted
  · rw [(finds_cases finds).1] at unlisted
    cases unlisted

/-- A search below a directory is told by what is listed there. -/
theorem describes_filesBelow (ending : String) (levels : Nat)
    (found : files.find path = .ok directory) (isDirectory : directory.isDirectory = true) :
    Describes (EndsIn ending) levels path directory (files.filesBelow ending levels path) := by
  induction levels generalizing path directory with
  | zero =>
    cases directory with
    | directory entries access =>
      cases listed : access.listed with
      | false => exact describes_unlisted found listed _
      | true =>
        refine describes_filesIn found listed ?_ ?_
        · rintro name inner own member isDirectory ⟨⟩
        · rintro name inner fault member isDirectory ⟨⟩
          exact .tooDeep (.entry listed member) isDirectory Nat.zero_lt_one
    | _ => cases isDirectory
  | succ levels ih =>
    cases directory with
    | directory entries access =>
      cases listed : access.listed with
      | false => exact describes_unlisted found listed _
      | true =>
        have reached : ∀ {name inner}, (name, inner) ∈ entries → inner.isDirectory = true →
            isShort (path.child name) = true → access.searched = true →
              Describes (EndsIn ending) levels (path.child name) inner
                (files.filesBelow ending levels (path.child name)) := by
          intro name inner member isDirectory short opened
          exact ih (by simp [find_child found listed member, short, opened]) isDirectory
        refine describes_filesIn found listed ?_ ?_
        · intro name inner own member isDirectory returned
          have short : isShort (path.child name) = true := by
            rw [← Bool.not_eq_false]
            intro long
            simp [filesBelow_child found listed member (.inl long), long] at returned
          refine ⟨Nat.succ_ne_zero _, short, fun shut => ?_, fun opened => ?_⟩
          · rw [filesBelow_child found listed member (.inr shut), if_pos short] at returned
            cases returned
            rfl
          · rw [← returned]
            exact reached member isDirectory short opened
        · intro name inner fault member isDirectory failed
          by_cases closed : isShort (path.child name) = false ∨ access.searched = false
          · rw [filesBelow_child found listed member closed] at failed
            split at failed
            next => cases failed
            next long =>
              cases failed
              exact .tooLong (.entry listed member) (.inl isDirectory)
                (by simpa [Path.child_eq_below] using long)
          · rw [not_or, Bool.not_eq_false, Bool.not_eq_false] at closed
            have describes := reached member isDirectory closed.1 closed.2
            rw [failed] at describes
            exact Stops.deeper listed closed.2 member describes
    | _ => cases isDirectory

end FileSystem

end HtmlNesting
