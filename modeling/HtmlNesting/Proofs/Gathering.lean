import Mathlib.Data.List.Basic
import HtmlNesting.Proofs.Expansion

/-!
# Files gathered from paths

Expanding some paths gathers the set of the files that they stand for. If it returns, the result
depends on nothing but this set (`FileSystem.expand_congr`); if it does not, it may be the fault of
any of the paths that are refused that is raised, so only that there is one depends on no order.

What is listed below a directory stands for nothing that the directory does not stand for
(`FileSystem.StandsFor.of_below`) and is not refused unless the directory is
(`FileSystem.IsRefused.of_below`).
-/

namespace HtmlNesting

namespace FileSystem

variable {files : FileSystem} {levels : Nat} {path file : Path} {directory tree : FileTree}
  {names : List String} {fault : AccessFault}

/-- Whether the expansion returns depends only on whether a path is refused, and what it returns on
what the paths stand for. -/
theorem expand_congr {arguments others : List String}
    (refused : (∃ argument ∈ arguments, ∃ fault, files.IsRefused levels (.ofText argument) fault) ↔
      ∃ argument ∈ others, ∃ fault, files.IsRefused levels (.ofText argument) fault)
    (same : (∀ argument ∈ others, ∀ fault, ¬ files.IsRefused levels (.ofText argument) fault) →
      ∀ file, (∃ argument ∈ arguments, files.StandsFor (.ofText argument) file) ↔
        ∃ argument ∈ others, files.StandsFor (.ofText argument) file) :
    (files.expand levels arguments).toOption = (files.expand levels others).toOption := by
  rcases files.expand_cases levels arguments with
      ⟨fault, failed, argument, given, isRefused⟩ | ⟨paths, returned, unrefused, -, members⟩ <;>
    rcases files.expand_cases levels others with
      ⟨otherFault, otherFailed, other, otherGiven, otherRefused⟩ |
      ⟨otherPaths, otherReturned, otherUnrefused, -, otherMembers⟩
  · rw [failed, otherFailed]
    rfl
  · obtain ⟨other, otherGiven, otherFault, otherRefused⟩ :=
      refused.mp ⟨argument, given, fault, isRefused⟩
    exact absurd otherRefused (otherUnrefused other otherGiven otherFault)
  · obtain ⟨argument, given, fault, isRefused⟩ :=
      refused.mpr ⟨other, otherGiven, otherFault, otherRefused⟩
    exact absurd isRefused (unrefused argument given fault)
  · have equal : paths = otherPaths := by
      apply Text.eq_of_increasing (pairwise_expand returned) (pairwise_expand otherReturned)
      intro file
      rw [members, otherMembers, same otherUnrefused]
    rw [returned, otherReturned, equal]

/-! ## Paths below a directory that is given -/

/-- What stops the search below something that is listed stops the search for it. -/
theorem Stops.of_below (lists : Lists directory names true tree)
    (stops : Stops EndsInMarkup levels (path.below names) tree fault) :
    Stops EndsInMarkup levels path directory fault := by
  cases stops with
  | tooDeep inside isDirectory deep =>
    refine .tooDeep (lists.trans inside) isDirectory ?_
    rw [List.length_append]
    omega
  | tooLong inside looked long =>
    rw [← endsInMarkup_append inside.ne_nil] at looked
    exact .tooLong (lists.trans inside) looked (Path.below_below .. ▸ long)
  | closed inside shut isWanted short =>
    rw [← endsInMarkup_append inside.ne_nil] at isWanted
    exact .closed (lists.trans inside) shut isWanted (Path.below_below .. ▸ short)

section

variable (found : files.find path = .ok directory) (lists : Lists directory names true tree)
  (looked : tree.isDirectory = true ∨ EndsInMarkup names)
include found lists looked

/-- A directory is refused if something below it is. -/
theorem IsRefused.of_below (refused : files.IsRefused levels (path.below names) fault) :
    files.IsRefused levels path fault := by
  have here := find_of_lists found lists
  rw [if_pos rfl] at here
  refine .inr ⟨directory, found, ?_⟩
  rcases refused with ⟨-, unfound⟩ | ⟨inner, isFound, stops⟩
  · rw [here] at unfound
    split at unfound
    next => cases unfound
    next long =>
      cases unfound
      exact .tooLong lists looked (by simpa using long)
  · rw [here] at isFound
    split at isFound
    next =>
      cases isFound
      exact stops.of_below lists
    next => cases isFound

/-- A directory stands for what something below it stands for. -/
theorem StandsFor.of_below (short : isShort (path.below names) = true)
    (stands : files.StandsFor (path.below names) file) : files.StandsFor path file := by
  have here : files.find (path.below names) = .ok tree := by
    rw [find_of_lists found lists, if_pos short, if_pos rfl]
  refine .inr ⟨directory, found, ?_⟩
  rcases stands with ⟨leaf, rfl⟩ | ⟨inner, isFound, more, file, inside, isFile, markup, rfl⟩
  · have isFile := leaf tree here
    exact ⟨names, tree, lists, isFile, looked.resolve_left (by simp [isFile]), rfl⟩
  · rw [here] at isFound
    cases isFound
    rw [← endsInMarkup_append inside.ne_nil] at markup
    exact ⟨_, file, lists.trans inside, isFile, markup, Path.below_below path names more⟩

end

/-- A path below a directory that is given adds nothing. -/
theorem expand_cons_below {arguments : List String} {argument added : String}
    (given : argument ∈ arguments) (found : files.find (.ofText argument) = .ok directory)
    (lists : Lists directory names true tree)
    (looked : tree.isDirectory = true ∨ EndsInMarkup names)
    (isBelow : Path.ofText added = (Path.ofText argument).below names) :
    (files.expand levels (added :: arguments)).toOption =
      (files.expand levels arguments).toOption := by
  apply expand_congr
  · rw [List.exists_mem_cons_iff]
    refine or_iff_right_of_imp ?_
    rintro ⟨fault, refused⟩
    exact ⟨argument, given, fault, IsRefused.of_below found lists looked (isBelow ▸ refused)⟩
  · intro unrefused file
    have short : isShort ((Path.ofText argument).below names) = true := by
      rw [← Bool.not_eq_false]
      exact fun long => unrefused argument given .nameTooLong
        (.inr ⟨directory, found, .tooLong lists looked long⟩)
    rw [List.exists_mem_cons_iff]
    refine or_iff_right_of_imp fun stands => ⟨argument, given, ?_⟩
    exact StandsFor.of_below found lists looked short (isBelow ▸ stands)

end FileSystem

/-- A site with a directory under the name of a markup file, one that may not be listed, and a notes
file. -/
def nestedSite : FileSystem where
  root := .directory [
    ("site", .directory [
      ("index.html", .file []),
      ("notes.txt", .file []),
      ("old.html", .directory [("page.htm", .file [])]),
      ("private", .directory [("page.html", .file [])] { listed := false, searched := true })])]
  workingDirectory := []

/-- What the site and a path that leads nowhere stand for. -/
def nestedPages : List Path := [
  { start := .workingDirectory, parts := ["missing.txt"] },
  { start := .workingDirectory, parts := ["site", "index.html"] },
  { start := .workingDirectory, parts := ["site", "old.html", "page.htm"] }]

/-- A name that is too long is refused. -/
theorem IsLongName.expand_eq_tooLong {name : String} (isLong : IsLongName name) :
    (∀ tree, nestedSite.find (.ofText name) ≠ .ok tree) ∧
    ∀ levels, nestedSite.expand levels [name] = .error .nameTooLong := by
  obtain ⟨root, here⟩ : ∃ entries, nestedSite.find { start := .workingDirectory, parts := [] } =
      .ok (.directory entries {}) := ⟨_, rfl⟩
  have inRoot : Path.ofText name = Path.child { start := .workingDirectory, parts := [] } name :=
    Path.ofText_of_isPartName isLong.named
  have tooLong : nestedSite.find (.ofText name) = .error .nameTooLong := by
    rw [inRoot]
    exact isLong.find_eq_tooLong here rfl
  refine ⟨fun tree => by simp [tooLong], ?_⟩
  simp [FileSystem.expand, gather, FileSystem.filesOf, FileSystem.isDirectory, FileSystem.asks,
    tooLong, AccessFault.isRaised]

end HtmlNesting
