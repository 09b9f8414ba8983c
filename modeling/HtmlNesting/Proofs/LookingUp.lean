import HtmlNesting.Files.Search
import HtmlNesting.Proofs.PathTexts

/-!
# Looking up paths

What a path leads to is told component by component, so the components of a longer path are followed
from where those of a shorter one lead to (`FileSystem.follow_append`), and a property that goes
over to the entries of a directory holds of what is found (`FileSystem.of_find`). A path is found if
it has no null byte, is not too long as a whole, and its components can be followed
(`FileSystem.find_eq_ok_iff`).

Two faults are raised where a path is asked about, and not taken to mean that it leads nowhere
(`FileSystem.Refuses`): that something is too long, the path or a name in it, and that it leads
through a directory that may not be searched.
-/

namespace HtmlNesting

/-! ## Longer paths -/

namespace Path

/-- The path of what some names lead to from a directory. -/
def below (path : Path) (names : List String) : Path :=
  { path with parts := path.parts ++ names }

theorem child_eq_below (path : Path) (name : String) : path.child name = path.below [name] :=
  rfl

theorem child_below (path : Path) (name : String) (names : List String) :
    (path.child name).below names = path.below (name :: names) := by
  simp [child, below]

theorem below_below (path : Path) (names more : List String) :
    (path.below names).below more = path.below (names ++ more) := by
  simp [below]

end Path

namespace FileTree

theorem follow_longName {above : List FileTree} {entries : List (String × FileTree)}
    {access : Access} (opened : access.searched = true) {name : String}
    (long : maxNameSize < name.utf8ByteSize) (rest : List String) :
    follow above (directory entries access) (name :: rest) = .error .nameTooLong := by
  have ordinary : (name == "..") = false := by
    rw [beq_eq_false_iff_ne]
    rintro rfl
    revert long
    decide
  simp [follow, opened, ordinary, long]

/-- What comes after some components is followed from where these lead to. -/
theorem follow_append {above : List FileTree} {here found : FileTree} {parts : List String}
    (followed : follow above here parts = .ok found) :
    ∃ around, ∀ more, follow above here (parts ++ more) = follow around found more := by
  fun_induction follow above here parts with
  | case1 above here =>
    cases followed
    exact ⟨above, fun more => rfl⟩
  | case2 => cases followed
  | case3 name rest entries access opened isUp ih =>
    obtain ⟨around, same⟩ := ih followed
    exact ⟨around, fun more => by simp [follow, opened, isUp, same]⟩
  | case4 name rest entries access opened isUp outer others ih =>
    obtain ⟨around, same⟩ := ih followed
    exact ⟨around, fun more => by simp [follow, opened, isUp, same]⟩
  | case5 => cases followed
  | case6 above name rest entries access opened isDown fits inner isEntry ih =>
    obtain ⟨around, same⟩ := ih followed
    exact ⟨around, fun more => by simp [follow, opened, isDown, fits, isEntry, same]⟩
  | case7 => cases followed
  | case8 => cases followed

section

variable {property : FileTree → Prop}
  (enters : ∀ {entries access name inner}, property (.directory entries access) →
    Dictionary.get? entries name = some inner → property inner)
include enters

/-- Following components keeps a property that every entry has from its directory. -/
theorem of_follow {above : List FileTree} {here found : FileTree} {parts : List String}
    (around : ∀ outer ∈ above, property outer) (holds : property here)
    (followed : follow above here parts = .ok found) : property found := by
  fun_induction follow above here parts with
  | case1 above here =>
    rw [← Except.ok.inj followed]
    exact holds
  | case2 => cases followed
  | case3 name rest entries access opened isUp ih => exact ih around holds followed
  | case4 name rest entries access opened isUp outer others ih =>
    apply ih _ (around outer (.head _)) followed
    intro tree member
    exact around tree (.tail _ member)
  | case5 => cases followed
  | case6 above name rest entries access opened isDown fits inner isEntry ih =>
    apply ih _ (enters holds isEntry) followed
    intro tree member
    rcases List.mem_cons.mp member with rfl | outside
    · exact holds
    · exact around tree outside
  | case7 => cases followed
  | case8 => cases followed

/-- So does going down by the names of entries. -/
theorem of_enter {above around : List FileTree} {here found : FileTree} {names : List String}
    (outside : ∀ outer ∈ above, property outer) (holds : property here)
    (entered : enter above here names = some (around, found)) :
    (∀ outer ∈ around, property outer) ∧ property found := by
  induction names generalizing above here with
  | nil =>
    cases entered
    exact ⟨outside, holds⟩
  | cons name rest ih =>
    cases here with
    | directory entries access =>
      cases isEntry : Dictionary.get? entries name with
      | none => simp [enter, FileTree.entries, isEntry] at entered
      | some inner =>
        simp only [enter, FileTree.entries, isEntry] at entered
        refine ih ?_ (enters holds isEntry) entered
        intro tree member
        rcases List.mem_cons.mp member with rfl | further
        · exact holds
        · exact outside tree further
    | _ => simp [enter, FileTree.entries, Dictionary.get?] at entered

end

end FileTree

namespace FileSystem

variable {files : FileSystem} {path : Path}

/-- What comes after some components is followed from where these lead to. -/
theorem follow_append {start : PathStart} {parts : List String} {found : FileTree}
    (followed : files.follow start parts = .ok found) :
    ∃ around, ∀ more, files.follow start (parts ++ more) = found.follow around more := by
  unfold follow at followed ⊢
  split at followed
  next => exact FileTree.follow_append followed
  next => cases followed

/-! ## What is found -/

/-- A path without a null byte is followed unless it is too long. -/
theorem find_of_clean (clean : '\x00' ∉ path.toText.toList) : files.find path =
    if isShort path then files.follow path.start path.parts else .error .nameTooLong := by
  cases short : isShort path <;> simp [find, clean, short]

theorem find_eq_ok_iff {tree : FileTree} : files.find path = .ok tree ↔
    '\x00' ∉ path.toText.toList ∧ isShort path = true ∧
      files.follow path.start path.parts = .ok tree := by
  by_cases null : '\x00' ∈ path.toText.toList
  · simp [find, null]
  · rw [find_of_clean null]
    cases isShort path <;> simp [null]

/-- What a path leads to has a property that the root has, and every entry has from its directory.
-/
theorem of_find (property : FileTree → Prop) {tree : FileTree}
    (enters : ∀ {entries access name inner}, property (.directory entries access) →
      Dictionary.get? entries name = some inner → property inner)
    (holds : property files.root) (found : files.find path = .ok tree) : property tree := by
  obtain ⟨-, -, followed⟩ := find_eq_ok_iff.mp found
  unfold follow at followed
  split at followed
  next above here entered =>
    obtain ⟨around, holdsHere⟩ := FileTree.of_enter enters (by simp) holds entered
    exact FileTree.of_follow enters around holdsHere followed
  next => cases followed

/-- What a path leads to is sound. -/
theorem isSound_of_find {tree : FileTree} (found : files.find path = .ok tree) : tree.isSound := by
  refine of_find (fun tree => tree.isSound = true) ?_ files.sound found
  intro entries access name inner around isEntry
  exact (entry_of_areSound (by rwa [FileTree.isSound_directory] at around)
    (Dictionary.mem_of_get? isEntry)).2.2

/-! ## Asking about a path -/

/-- Whether a path cannot even be asked about, and the fault that is raised. -/
def Refuses (files : FileSystem) (path : Path) (fault : AccessFault) : Prop :=
  fault.isRaised = true ∧ files.find path = .error fault

section

variable {property : FileTree → Bool} {fault : AccessFault}

theorem asks_eq_true_iff : files.asks path property = .ok true ↔
    ∃ tree, files.find path = .ok tree ∧ property tree = true := by
  rw [asks]
  cases files.find path with
  | ok tree => simp
  | error other =>
    dsimp only
    split <;> simp

theorem asks_eq_error_iff : files.asks path property = .error fault ↔
    files.Refuses path fault := by
  rw [asks, Refuses]
  cases files.find path with
  | ok tree => simp
  | error other =>
    dsimp only
    split
    next raised =>
      simp only [Except.error.injEq]
      exact ⟨fun same => ⟨same ▸ raised, same⟩, And.right⟩
    next passed =>
      refine iff_of_false (by simp) ?_
      rintro ⟨raised, same⟩
      exact passed (Except.error.inj same ▸ raised)

end

end FileSystem

/-! ## Names that are too long -/

/-- Whether a text would be a name if it were not too long. -/
structure IsLongName (name : String) : Prop where
  named : isPartName name
  clean : '\x00' ∉ name.toList
  long : FileTree.maxNameSize < name.utf8ByteSize

theorem IsLongName.find_eq_tooLong {files : FileSystem} {path : Path} {name : String}
    (isLong : IsLongName name) {entries : List (String × FileTree)} {access : Access}
    (found : files.find path = .ok (.directory entries access)) (opened : access.searched = true) :
    files.find (path.child name) = .error .nameTooLong := by
  obtain ⟨clean, -, followed⟩ := FileSystem.find_eq_ok_iff.mp found
  obtain ⟨around, same⟩ := FileSystem.follow_append followed
  have noNull : '\x00' ∉ (path.child name).toText.toList := by
    rw [Path.null_mem_toText] at clean ⊢
    rintro ⟨part, member, null⟩
    rcases List.mem_append.mp member with inside | isLast
    · exact clean ⟨part, inside, null⟩
    · exact isLong.clean (List.mem_singleton.mp isLast ▸ null)
  have refused : files.follow (path.child name).start (path.child name).parts =
      .error .nameTooLong := by
    rw [Path.child, same]
    exact FileTree.follow_longName opened isLong.long []
  rw [FileSystem.find_of_clean noNull, refused, ite_self]

/-- A name of 256 bytes. -/
def longName : String :=
  String.ofList (List.replicate 256 'n')

theorem isLongName_longName : IsLongName longName := by
  have long : FileTree.maxNameSize < longName.utf8ByteSize := by decide +kernel
  have letters : longName.toList = List.replicate 256 'n' := String.toList_ofList
  have without {c : Char} (other : c ≠ 'n') : c ∉ longName.toList := by
    rw [letters, List.mem_replicate]
    exact fun member => other member.2
  refine ⟨(isPartName_iff longName).mpr ⟨?_, ?_, without (by decide)⟩, without (by decide), long⟩
  · intro same
    simp [same] at long
  · intro same
    rw [same] at long
    revert long
    decide

end HtmlNesting
