import HtmlNesting.Command.Run

/-!
# The executable

Copies the part of the file system that a run may look at, runs the command on the copy, and carries
out what the run comes to: prints, writes the table and exits.
-/

namespace HtmlNesting.Command

/-- What may be done with a directory. -/
def accessOf (place : String) : IO Access := do
  let path := (← IO.currentDir) / place
  let listed ← try discard path.readDir; pure true catch _ => pure false
  return { listed, searched := ← (path / ".").isDir }

/-- The file or directory at a place, with all that is in it and can be seen. -/
partial def loadTree (place : String) : IO FileTree := do
  let path := (← IO.currentDir) / place
  if ← path.isDir then
    let access ← accessOf place
    let entries ← if access.listed then path.readDir else pure #[]
    let inside ← entries.toList.mapM fun entry =>
      return (entry.fileName, ← loadTree (place ++ "/" ++ entry.fileName))
    return .directory inside access
  else
    try return .file (← IO.FS.readBinFile path).toList
    catch _ => return .locked

/-- Puts what was found into a copy of the files. What no copy can hold is left out. -/
def copied (files : FileSystem) (path : Path) (tree : FileTree) : FileSystem :=
  if sound : tree.isSound then
    match files.put path tree sound with
    | .ok after => after
    | .error _ => files
  else files

/-- Copies what a path from the root leads to, if there is anything. Of a directory only its being
there is copied, unless all of it is wanted. -/
def loadPlace (files : FileSystem) (whole : Bool) (path : Path) : IO FileSystem := do
  let place := (← IO.currentDir) / path.toText
  if (← place.isDir) && !whole then
    match files.find path with
    | .ok (.directory _ _) => return files
    | _ => return copied files path (.directory [] (← accessOf path.toText))
  else if ← place.pathExists then return copied files path (← loadTree path.toText)
  else return files

/-- Copies what a path leads to and the directories on the way. -/
def loadPath (files : FileSystem) (path : Path) : IO FileSystem := do
  let parts := files.fromRoot path
  let mut known := files
  for count in List.range parts.length do
    known ← loadPlace known false { start := .root, parts := parts.take count }
  loadPlace known true { start := .root, parts }

/-- Copies the files with settings in a directory and those above it, innermost first. -/
def loadSettingsAbove (files : FileSystem) (directory : List String) : IO FileSystem := do
  let known ← loadPlace files true
    { start := .root, parts := directory.reverse ++ [FileSystem.settingsName] }
  match directory with
  | [] => return known
  | _ :: outer => loadSettingsAbove known outer

/-- The part of the file system that a run with some choices may look at. -/
def loadFiles (choices : Choices) : IO FileSystem := do
  let here := Path.ofText (← IO.currentDir).toString
  let home := Path.ofText ((← IO.getEnv "HOME").getD "")
  let blank : FileSystem :=
    { root := .directory [], workingDirectory := here.parts, home := home.parts }
  let empty := copied blank here (.directory [])
  let start := (empty.resolve (.ofText (choices.paths.headD ""))).parts
  let table := choices.table.toList.map fun target => empty.fromHome (.ofText target)
  let named := (choices.paths ++ choices.settings.toList).map Path.ofText ++ table
  let mut files ← loadSettingsAbove empty start.reverse
  for path in named do
    files ← loadPath files path
  return files

/-- How far down a run of the executable goes. -/
def limits : Limits :=
  { nesting := 990, showing := 990, searching := 980 }

/-- A time in seconds with two places. -/
def secondsText (milliseconds : Nat) : String :=
  let hundredths := (milliseconds + 5) / 10
  let places := toString (hundredths % 100)
  toString (hundredths / 100) ++ "." ++ (if places.length < 2 then "0" ++ places else places)

/-- Writes a file. -/
def writeBytes (path : Path) (bytes : List UInt8) : IO Unit := do
  IO.FS.writeBinFile ((← IO.currentDir) / path.toText) (ByteArray.mk bytes.toArray)

/-- Carries out what a run comes to. -/
def carryOut (outcome : Outcome) (seconds : String) : IO UInt32 := do
  let output ← IO.getStdout
  let errors ← IO.getStderr
  for line in outcome.printed do
    output.putStrLn line
  output.flush
  for piece in outcome.told do
    errors.putStr (piece.render seconds)
  if let some path := outcome.table then
    match outcome.files.find path with
    | .ok (.file bytes) => writeBytes path bytes
    | .ok (.packed packing content) =>
      match packing.pack? content with
      | some bytes => writeBytes path bytes
      | none => errors.putStrLn (Log.program ++ ": " ++ path.toText ++ " is not written")
    | _ => pure ()
  match outcome.ending with
  | .exit status => return status.toUInt32
  | .broken cause =>
    errors.putStrLn (Log.program ++ ": error: " ++ cause.message)
    return 1

end HtmlNesting.Command

open HtmlNesting in
/-- Runs the command on the arguments. -/
def main (arguments : List String) : IO UInt32 := do
  let choices :=
    match Command.read arguments with
    | .ok choices => choices
    | .error _ => {}
  let files ← Command.loadFiles choices
  let start ← IO.monoMsNow
  let outcome ← IO.lazyPure fun _ => Command.run .standard Command.limits files arguments
  let stop ← IO.monoMsNow
  Command.carryOut outcome (Command.secondsText (stop - start))
