import HtmlNesting.Fault
import HtmlNesting.Files.Tree

/-!
# Finding files

`expand` turns the paths given by a user into the files to read: a directory stands for the files
with a markup name anywhere below it, anything else for itself. The result is in order and has no
repeats.

The files below a directory are found by listing it and what is below it, once for each ending of a
markup name. A directory that cannot be opened is passed over; a path that is too long, a name whose
directory may be listed but not searched, and directories nested more deeply than the search can go
are faults.

`findSettings?` goes from a path upwards to the nearest file with settings, one directory after
another. It ends at the root, which is the directory around itself.
-/

namespace HtmlNesting

/-- The endings of the names of markup files. -/
def markupEndings : List String := [".html", ".htm"]

/-- Whether a name has an ending. -/
def hasEnding (ending name : String) : Bool :=
  ending.toList.isSuffixOf name.toList

/-- A path that is not the one around it is longer. -/
theorem Path.length_around_lt {path : Path} (inside : path.around ≠ path) :
    path.around.parts.length < path.parts.length := by
  obtain ⟨start, parts⟩ := path
  cases parts with
  | nil => exact absurd rfl inside
  | cons first rest => simp [around]

namespace FileSystem

/-- The file that an entry of a directory is, if it is one and has an ending. -/
def matching (files : FileSystem) (ending : String) (directory : Path)
    (entry : String × FileTree) : Except AccessFault (List Path) :=
  if hasEnding ending entry.1 then
    match files.isFile (directory.child entry.1) with
    | .error fault => .error fault
    | .ok isFile => .ok (if isFile then [directory.child entry.1] else [])
  else .ok []

/-- The files that a search finds inside an entry of a directory, if it is a directory itself. -/
def inside (search : Path → Except AccessFault (List Path)) (directory : Path)
    (entry : String × FileTree) : Except AccessFault (List Path) :=
  if entry.2.isDirectory then search (directory.child entry.1) else .ok []

/-- The files with an ending among the entries of a directory, and after them those that a search
finds in its directories, one after another. -/
def filesIn (files : FileSystem) (ending : String) (search : Path → Except AccessFault (List Path))
    (directory : Path) : Except AccessFault (List Path) :=
  match files.list directory with
  | .error .locked => .ok []
  | .error fault => .error fault
  | .ok entries =>
    match gather (files.matching ending directory) entries with
    | .error fault => .error fault
    | .ok here =>
      match gather (inside search directory) entries with
      | .error fault => .error fault
      | .ok deeper => .ok (here ++ deeper)

/-- The files with an ending in a directory and below it. The search can go some levels down. -/
def filesBelow (files : FileSystem) (ending : String) :
    (levels : Nat) → Path → Except AccessFault (List Path)
  | 0 => files.filesIn ending fun _ => .error .tooDeep
  | levels + 1 => files.filesIn ending (filesBelow files ending levels)

/-- The files that a path given by a user stands for. -/
def filesOf (files : FileSystem) (levels : Nat) (path : Path) : Except AccessFault (List Path) :=
  match files.isDirectory path with
  | .error fault => .error fault
  | .ok true => gather (fun ending => files.filesBelow ending levels path) markupEndings
  | .ok false => .ok [path]

/-- The files that some paths given by a user stand for, in order and without repeats. The search
can go some levels down from a directory. -/
def expand (files : FileSystem) (levels : Nat) (arguments : List String) :
    Except AccessFault (List Path) :=
  match gather (files.filesOf levels) (arguments.map Path.ofText) with
  | .error fault => .error fault
  | .ok found => .ok (Text.distinctSorted Path.le found)

/-- The name of a file with settings. -/
def settingsName : String := ".nestlintrc"

/-- The file with settings in the nearest of a directory and those above it. -/
def settingsAbove? (files : FileSystem) (directory : Path) : Except AccessFault (Option Path) :=
  match files.isFile (directory.child settingsName) with
  | .error fault => .error fault
  | .ok true => .ok (some (directory.child settingsName))
  | .ok false =>
    if directory.around = directory then .ok none else settingsAbove? files directory.around
termination_by directory.parts.length
decreasing_by exact Path.length_around_lt ‹_›

/-- The nearest file with settings on the way up from a path. A path with a null byte in it cannot
even be resolved. -/
def findSettings? (files : FileSystem) (start : Path) : Except AccessFault (Option Path) :=
  if start.toText.toList.contains '\x00' then .error .nullByte
  else
    let resolved := files.resolve start
    match files.isDirectory resolved with
    | .error fault => .error fault
    | .ok true => files.settingsAbove? resolved
    | .ok false => files.settingsAbove? resolved.around

end FileSystem

end HtmlNesting
