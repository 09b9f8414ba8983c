import HtmlNesting.Dictionary
import HtmlNesting.Files.Packing
import HtmlNesting.Files.Path
import HtmlNesting.Text.Utf8

/-!
# Files

A file system is a tree of directories and files together with the directory that relative paths
start from. Following a path goes component by component, so a double dot leads out of a directory
only where there is one. Names and whole paths have a greatest length, and a path with a null byte
in it leads nowhere. A directory may be closed in two ways: no path leads through it unless it may
be searched, and its entries are not told unless it may be listed.

In a sound tree every entry has a name that can be one, and no other entry of its directory has the
same. The tree of a `FileSystem` is sound, and putting something into it keeps it so.

`read` gives the bytes of a file, `readText` its text with line feeds as line ends. `AccessFault`
and `TextFault` are the reasons why that may fail.
-/

namespace HtmlNesting

/-- What may be done with a directory. -/
structure Access where
  /-- Whether its entries may be listed. -/
  listed : Bool := true
  /-- Whether a path may lead through it. -/
  searched : Bool := true
  deriving DecidableEq, Repr

/-- A file or a directory. -/
inductive FileTree where
  | file (bytes : List UInt8)
  /-- A file that may not be opened. -/
  | locked
  /-- A file that holds some bytes packed; the bytes of the file itself are not known. -/
  | packed (packing : Packing) (content : List UInt8)
  | directory (entries : List (String × FileTree)) (access : Access := {})

/-- Why a file cannot be reached, opened or searched for. -/
inductive AccessFault where
  | notFound | locked | notDirectory | isDirectory | nameTooLong | nullByte | packed | tooDeep
  deriving DecidableEq, Repr

namespace AccessFault

/-- The number of a fault. A null byte is found before there is one, a packed file after, and
directories nested too deeply are found by the search itself. -/
def number? : AccessFault → Option Nat
  | notFound => some 2
  | locked => some 13
  | notDirectory => some 20
  | isDirectory => some 21
  | nameTooLong => some 36
  | nullByte => none
  | packed => none
  | tooDeep => none

/-- The words for a fault. -/
def words : AccessFault → String
  | notFound => "No such file or directory"
  | locked => "Permission denied"
  | notDirectory => "Not a directory"
  | isDirectory => "Is a directory"
  | nameTooLong => "File name too long"
  | nullByte => "embedded null byte"
  | packed => "packed file"
  | tooDeep => "maximum recursion depth exceeded"

/-- The name of the kind of a fault in log records. -/
def kindName : AccessFault → String
  | notFound => "FileNotFoundError"
  | locked => "PermissionError"
  | notDirectory => "NotADirectoryError"
  | isDirectory => "IsADirectoryError"
  | nameTooLong => "OSError"
  | nullByte => "ValueError"
  | packed => "UnicodeDecodeError"
  | tooDeep => "RecursionError"

/-- Whether a fault is raised where a path is only asked about. Any other means that the path leads
nowhere. -/
def isRaised : AccessFault → Bool
  | locked => true
  | nameTooLong => true
  | _ => false

/-- The message of a fault at a path. -/
def message (fault : AccessFault) (path : Path) : String :=
  match fault.number? with
  | some number =>
    "[Errno " ++ toString number ++ "] " ++ fault.words ++ ": " ++ Text.quoted path.toText
  | none => fault.words

/-- A fault as log records show it. -/
def shown (fault : AccessFault) : String :=
  match fault.number? with
  | some number =>
    fault.kindName ++ "(" ++ toString number ++ ", " ++ Text.quoted fault.words ++ ")"
  | none => fault.kindName ++ "(" ++ Text.quoted fault.words ++ ")"

end AccessFault

/-- Why the text of a file cannot be had. -/
inductive TextFault where
  | access (fault : AccessFault)
  /-- The bytes are no text. -/
  | bytes (fault : Text.Utf8Fault) (content : List UInt8)

namespace FileTree

/-- Whether this is a directory. -/
def isDirectory : FileTree → Bool
  | directory _ _ => true
  | _ => false

/-- The entries of a directory; a file has none. -/
def entries : FileTree → List (String × FileTree)
  | directory inside _ => inside
  | _ => []

/-- What may be done with a directory; a file becomes one that is open. -/
def access : FileTree → Access
  | directory _ access => access
  | _ => {}

/-- The most bytes of a name. -/
def maxNameSize : Nat := 255

/-- Follows components from a place in the tree; `above` are the directories around it, the nearest
first. Above the root there is only the root. -/
def follow (above : List FileTree) (here : FileTree) :
    List String → Except AccessFault FileTree
  | [] => .ok here
  | name :: rest =>
    match here with
    | directory entries access =>
      if access.searched = false then .error .locked
      else if name == ".." then
        match above with
        | [] => follow [] here rest
        | outer :: others => follow others outer rest
      else if maxNameSize < name.utf8ByteSize then .error .nameTooLong
      else
        match Dictionary.get? entries name with
        | some inner => follow (here :: above) inner rest
        | none => .error .notFound
    | _ => .error .notDirectory

/-- Goes down from a place in the tree by the names of entries, whatever the directories on the way
allow: the place these names lead to, and the directories around it. -/
def enter (above : List FileTree) (here : FileTree) :
    List String → Option (List FileTree × FileTree)
  | [] => some (above, here)
  | name :: rest =>
    match Dictionary.get? here.entries name with
    | some inner => enter (here :: above) inner rest
    | none => none

/-- Puts a file or a directory where components lead, making the directories on the way. -/
def put (new : FileTree) : List String → FileTree → FileTree
  | [], _ => new
  | name :: rest, tree =>
    let inside := tree.entries
    directory (Dictionary.set name
      (put new rest ((Dictionary.get? inside name).getD (directory []))) inside) tree.access

end FileTree

/-! ### Sound trees -/

/-- Whether a text can be the name of an entry. -/
def isEntryName (name : String) : Bool :=
  isPartName name && name != ".." && !name.toList.contains '\x00' &&
    decide (name.utf8ByteSize ≤ FileTree.maxNameSize)

mutual

/-- Whether everything below a place in a tree has a name that can be one, and no two entries of a
directory have the same. -/
def FileTree.isSound : FileTree → Bool
  | .directory entries _ => areSound entries
  | _ => true

/-- Whether this is so of some entries and of everything below them. -/
def areSound : List (String × FileTree) → Bool
  | [] => true
  | (name, tree) :: rest =>
    isEntryName name && !Dictionary.has rest name && tree.isSound && areSound rest

end

theorem FileTree.isSound_directory (entries : List (String × FileTree)) (access : Access) :
    (directory entries access).isSound = areSound entries := by
  rw [isSound]

theorem FileTree.areSound_entries {tree : FileTree} (sound : tree.isSound) :
    areSound tree.entries := by
  cases tree with
  | directory entries access => rwa [isSound_directory] at sound
  | _ => rfl

/-- In a sound directory each entry is found under its name. -/
theorem entry_of_areSound {entries : List (String × FileTree)} {name : String} {tree : FileTree}
    (sound : areSound entries) (member : (name, tree) ∈ entries) :
    isEntryName name ∧ Dictionary.get? entries name = some tree ∧ tree.isSound := by
  induction entries with
  | nil => simp at member
  | cons entry rest ih =>
    obtain ⟨other, inner⟩ := entry
    simp only [areSound, Bool.and_eq_true, Bool.not_eq_true'] at sound
    obtain ⟨⟨⟨named, once⟩, innerSound⟩, restSound⟩ := sound
    rcases List.mem_cons.mp member with here | later
    · cases here
      exact ⟨named, by simp [Dictionary.get?], innerSound⟩
    · obtain ⟨laterNamed, found, laterSound⟩ := ih restSound later
      have different : other ≠ name := by
        rintro rfl
        simp [Dictionary.has, found] at once
      exact ⟨laterNamed, by simp [Dictionary.get?, different, found], laterSound⟩

theorem areSound_set {entries : List (String × FileTree)} {name : String} {tree : FileTree}
    (sound : areSound entries) (named : isEntryName name) (treeSound : tree.isSound) :
    areSound (Dictionary.set name tree entries) := by
  induction entries with
  | nil => simp [Dictionary.set, areSound, named, treeSound, Dictionary.has, Dictionary.get?]
  | cons entry rest ih =>
    obtain ⟨other, inner⟩ := entry
    simp only [areSound, Bool.and_eq_true, Bool.not_eq_true'] at sound
    obtain ⟨⟨⟨otherNamed, once⟩, innerSound⟩, restSound⟩ := sound
    by_cases same : (other == name) = true
    · simp [Dictionary.set, same, areSound, otherNamed, once, treeSound, restSound]
    · have different : other ≠ name := by simpa using same
      have still : Dictionary.has (Dictionary.set name tree rest) other = false := by
        rw [Dictionary.has, Dictionary.get?_set_of_ne _ _ _ _ different]
        exact once
      simp [Dictionary.set, same, areSound, otherNamed, still, innerSound, ih restSound]

/-- Putting a sound tree under names that can be names keeps a tree sound. -/
theorem FileTree.isSound_put {new tree : FileTree} {names : List String} (newSound : new.isSound)
    (named : names.all isEntryName) (sound : tree.isSound) : (put new names tree).isSound := by
  induction names generalizing tree with
  | nil => exact newSound
  | cons name rest ih =>
    rw [List.all_cons, Bool.and_eq_true] at named
    rw [put, isSound_directory]
    refine areSound_set (areSound_entries sound) named.1 (ih named.2 ?_)
    cases present : Dictionary.get? tree.entries name with
    | none => rfl
    | some inner =>
      exact (entry_of_areSound (areSound_entries sound) (Dictionary.mem_of_get? present)).2.2

/-- A sound tree of files, and the components of the working directory and of the home directory. -/
structure FileSystem where
  root : FileTree
  workingDirectory : List String
  home : List String := []
  sound : root.isSound := by decide

namespace FileSystem

/-- The components of a path from the root. -/
def fromRoot (files : FileSystem) (path : Path) : List String :=
  if path.start = .workingDirectory then files.workingDirectory ++ path.parts else path.parts

/-- A path with the home directory for a tilde that is its first component. -/
def fromHome (files : FileSystem) (path : Path) : Path :=
  match path with
  | { start := .workingDirectory, parts := "~" :: rest } =>
    { start := .root, parts := files.home ++ rest }
  | _ => path

/-- The most bytes of a path. -/
def maxPathSize : Nat := 4095

/-- Whether a path is not too long as a whole. -/
def isShort (path : Path) : Bool :=
  path.toText.utf8ByteSize ≤ maxPathSize

/-- What components lead to from the start of a path. The working directory is open from the
beginning, so whether the directories around it may be searched does not count. -/
def follow (files : FileSystem) (start : PathStart) (parts : List String) :
    Except AccessFault FileTree :=
  match files.root.enter [] (if start = .workingDirectory then files.workingDirectory else []) with
  | some (above, here) => here.follow above parts
  | none => .error .notFound

/-- What a path leads to. -/
def find (files : FileSystem) (path : Path) : Except AccessFault FileTree :=
  if path.toText.toList.contains '\x00' then .error .nullByte
  else if !isShort path then .error .nameTooLong
  else files.follow path.start path.parts

/-- Whether what a path leads to has a property. Where it leads nowhere that is not so, but a way
that may not be taken and a name too long are faults. -/
def asks (files : FileSystem) (path : Path) (property : FileTree → Bool) :
    Except AccessFault Bool :=
  match files.find path with
  | .ok tree => .ok (property tree)
  | .error fault => if fault.isRaised then .error fault else .ok false

/-- Whether a path leads to a directory. -/
def isDirectory (files : FileSystem) (path : Path) : Except AccessFault Bool :=
  files.asks path FileTree.isDirectory

/-- Whether a path leads to a file. -/
def isFile (files : FileSystem) (path : Path) : Except AccessFault Bool :=
  files.asks path fun tree => !tree.isDirectory

/-- The entries of the directory at a path. -/
def list (files : FileSystem) (path : Path) : Except AccessFault (List (String × FileTree)) :=
  match files.find path with
  | .ok (.directory entries access) => if access.listed then .ok entries else .error .locked
  | .ok _ => .error .notDirectory
  | .error fault => .error fault

/-- The bytes of the file at a path. -/
def read (files : FileSystem) (path : Path) : Except AccessFault (List UInt8) :=
  match files.find path with
  | .ok (.file bytes) => .ok bytes
  | .ok .locked => .error .locked
  | .ok (.packed _ _) => .error .packed
  | .ok (.directory _ _) => .error .isDirectory
  | .error fault => .error fault

/-- The text of the file at a path, with every line end as a line feed. -/
def readText (files : FileSystem) (path : Path) : Except TextFault String :=
  match files.read path with
  | .error fault => .error (.access fault)
  | .ok bytes =>
    match Text.decode bytes with
    | .error fault => .error (.bytes fault bytes)
    | .ok cs => .ok (String.ofList (Text.lineEnds cs))

/-- The path from the root without double dots. -/
def resolve (files : FileSystem) (path : Path) : Path where
  start := .root
  parts := Path.withoutDoubleDots (files.fromRoot path)

/-- Puts a sound tree at a path, making the directories on the way. It fails if a component can be
no name. -/
def put (files : FileSystem) (path : Path) (new : FileTree) (newSound : new.isSound) :
    Except AccessFault FileSystem :=
  let names := (files.resolve path).parts
  if named : names.all isEntryName then
    .ok { files with
      root := FileTree.put new names files.root
      sound := FileTree.isSound_put newSound named files.sound }
  else if names.any fun name => name.toList.contains '\x00' then .error .nullByte
  else .error .nameTooLong

/-- Writes a file, in place of one that is there. -/
def write (files : FileSystem) (path : Path) (new : FileTree) (newSound : new.isSound) :
    Except AccessFault FileSystem :=
  match files.find path with
  | .ok (.directory _ _) => .error .isDirectory
  | .ok .locked => .error .locked
  | .ok _ => files.put path new newSound
  | .error .notFound => files.put path new newSound
  | .error fault => .error fault

end FileSystem

namespace TextFault

/-- The message of a fault at a path. -/
def message (path : Path) : TextFault → String
  | access fault => fault.message path
  | bytes fault _ => fault.message

/-- A fault as log records show it. -/
def shown : TextFault → String
  | access fault => fault.shown
  | bytes fault content =>
    "UnicodeDecodeError('utf-8', " ++ Text.quotedBytes content ++ ", " ++ toString fault.start ++
      ", " ++ toString fault.stop ++ ", " ++ Text.quoted fault.reason.message ++ ")"

end TextFault

end HtmlNesting
