import HtmlNesting.Proofs.FileRuns
import HtmlNesting.Proofs.JsonReading

/-!
# Settings from files

Loading settings from a file goes through three stages: opening the file, reading its bytes as text,
and reading the text as JSON. Whatever stage fails, the settings stay as they are, but the failures
are of two sorts. Some are told and passed over (`Unusable`); the others end the change with a fault
(`Breaks`), and whoever called it has to deal with that. Bytes that are no text are among these.

How deep values may be nested depends on how deep the run already is, so all this is said for any
number of levels. Texts here are made of whole characters; files in which an escape stands for half
of one are left out (`FileSystem.HoldsHalf`).

`readFile_eq_ok_iff` and `readFile_eq_ending_iff` say when reading a file ends in either way, in
terms of what the file holds; `load_outcomes` puts them together.
-/

namespace HtmlNesting

namespace FileSystem

/-- A file holds the text of a JSON value, nested no deeper than some levels. -/
def HoldsJson (files : FileSystem) (nesting : Nat) (path : Path) (value : Json) : Prop :=
  ∃ text, files.Holds path text ∧ Json.parse nesting (Text.translated text) = .ok value

/-- A file holds a text in which half a character is read. -/
def HoldsHalf (files : FileSystem) (nesting : Nat) (path : Path) : Prop :=
  ∃ text, files.Holds path text ∧ Json.parse nesting (Text.translated text) = .error .unpaired

/-- A file cannot be opened, or its bytes are no text, or it holds a text. -/
theorem read_cases (files : FileSystem) (path : Path) :
    (∃ fault, files.read path = .error fault) ∨
    (∃ bytes fault, files.read path = .ok bytes ∧ Text.decode bytes = .error fault) ∨
    ∃ text, files.Holds path text := by
  cases found : files.read path with
  | error fault => exact .inl ⟨fault, rfl⟩
  | ok bytes =>
    right
    cases decoded : Text.decode bytes with
    | error fault => exact .inl ⟨bytes, fault, rfl, decoded⟩
    | ok cs =>
      rw [(Text.decode_eq_ok_iff bytes cs).mp decoded] at found
      exact .inr ⟨String.ofList cs, found⟩

end FileSystem

namespace Settings

variable {nesting : Nat} {files : FileSystem} {path : Path}

/-! ## Reading a file -/

/-- What ends a change by a file: a null byte in the path, bytes that are not the UTF-8 form of any
text, and a text with an integer too long or values nested too deeply. -/
inductive Breaks (nesting : Nat) (files : FileSystem) (path : Path) : SettingsFault → Prop where
  | nullByte (unread : files.read path = .error .nullByte) : Breaks nesting files path .nullByte
  | undecodable {bytes : List UInt8} {fault : Text.Utf8Fault} (read : files.read path = .ok bytes)
      (noText : ∀ text, bytes ≠ Text.encode text) (found : Text.decode bytes = .error fault) :
      Breaks nesting files path (.undecodable fault)
  | longInteger {text : String} (holds : files.Holds path text)
      (parsed : Json.parse nesting (Text.translated text) = .error .longInteger) :
      Breaks nesting files path .longInteger
  | tooDeep {text : String} (holds : files.Holds path text)
      (parsed : Json.parse nesting (Text.translated text) = .error .tooDeep) :
      Breaks nesting files path .tooDeep

/-- What is told of a file and passed over: that it cannot be opened, that its text is not JSON, or
that it holds something other than a dictionary. -/
inductive Unusable (nesting : Nat) (files : FileSystem) (path : Path) : Prop where
  | unread {fault : AccessFault} (unread : files.read path = .error fault)
      (opened : fault ≠ .nullByte) : Unusable nesting files path
  | mistaken {text : String} {found : Json.Mistake} {line column index : Nat}
      (holds : files.Holds path text)
      (parsed : Json.parse nesting (Text.translated text) = .error (.mistake found line column index)) :
      Unusable nesting files path
  | otherValue {value : Json} (holds : files.HoldsJson nesting path value)
      (other : value.isDictionary = false) : Unusable nesting files path

theorem readFile_of_unread {fault : AccessFault} (unread : files.read path = .error fault) :
    readFile nesting files path =
      if fault = .nullByte then .error (.ending .nullByte)
      else .error (.told (fault.message path)) := by
  have read : files.readText path = .error (.access fault) := by
    simp only [FileSystem.readText, unread]
  rw [readFile, read]
  cases fault <;> rfl

theorem readFile_of_undecodable {bytes : List UInt8} {fault : Text.Utf8Fault}
    (read : files.read path = .ok bytes) (found : Text.decode bytes = .error fault) :
    readFile nesting files path = .error (.ending (.undecodable fault)) := by
  have undecoded : files.readText path = .error (.bytes fault bytes) := by
    simp only [FileSystem.readText, read, found]
  rw [readFile, undecoded]

/-- From a file that holds a text comes what the text is read as. -/
theorem readFile_of_holds {text : String} (holds : files.Holds path text) :
    readFile nesting files path =
      match Json.parse nesting (Text.translated text) with
      | .ok value => .ok value
      | .error .longInteger => .error (.ending .longInteger)
      | .error .tooDeep => .error (.ending .tooDeep)
      | .error .unpaired => .error (.ending .unpaired)
      | .error misread => .error (.told misread.message) := by
  have read := FileSystem.readText_of_holds holds
  cases parsed : Json.parse nesting (Text.translated text) with
  | ok value => simp [readFile, read, parsed]
  | error misread => cases misread <;> simp [readFile, read, parsed]

/-- A value is read from a file exactly if the file holds it. -/
theorem readFile_eq_ok_iff {value : Json} :
    readFile nesting files path = .ok value ↔ files.HoldsJson nesting path value := by
  constructor
  · intro returned
    rcases files.read_cases path with ⟨fault, unread⟩ | ⟨bytes, fault, read, found⟩ | ⟨text, holds⟩
    · rw [readFile_of_unread unread] at returned
      split at returned <;> cases returned
    · rw [readFile_of_undecodable read found] at returned
      cases returned
    · refine ⟨text, holds, ?_⟩
      rw [readFile_of_holds holds] at returned
      split at returned
      next held parsed =>
        cases returned
        exact parsed
      all_goals cases returned
  · rintro ⟨text, holds, parsed⟩
    rw [readFile_of_holds holds, parsed]

/-- If no half of a character is read, reading a file ends with a fault exactly if something there
breaks it. -/
theorem readFile_eq_ending_iff (whole : ¬ files.HoldsHalf nesting path) {fault : SettingsFault} :
    readFile nesting files path = .error (.ending fault) ↔ Breaks nesting files path fault := by
  constructor
  · intro returned
    rcases files.read_cases path with ⟨other, unread⟩ | ⟨bytes, other, read, found⟩ | ⟨text, holds⟩
    · rw [readFile_of_unread unread] at returned
      split at returned
      next isNull =>
        cases returned
        exact .nullByte (isNull ▸ unread)
      next => cases returned
    · rw [readFile_of_undecodable read found] at returned
      cases returned
      refine .undecodable read (fun text same => ?_) found
      have decoded : Text.decode bytes = .ok text.toList :=
        (Text.decode_eq_ok_iff _ _).mpr (by rw [same, String.ofList_toList])
      rw [found] at decoded
      cases decoded
    · rw [readFile_of_holds holds] at returned
      split at returned
      next => cases returned
      next parsed =>
        cases returned
        exact .longInteger holds parsed
      next parsed =>
        cases returned
        exact .tooDeep holds parsed
      next parsed => exact absurd ⟨text, holds, parsed⟩ whole
      next => cases returned
  · intro breaks
    cases breaks with
    | nullByte unread => rw [readFile_of_unread unread, if_pos rfl]
    | undecodable read noText found => exact readFile_of_undecodable read found
    | longInteger holds parsed => rw [readFile_of_holds holds, parsed]
    | tooDeep holds parsed => rw [readFile_of_holds holds, parsed]

/-- A file is passed over exactly if reading it is, or if it holds something other than a
dictionary. -/
theorem unusable_iff :
    Unusable nesting files path ↔ (∃ reason, readFile nesting files path = .error (.told reason)) ∨
      ∃ value, readFile nesting files path = .ok value ∧ value.isDictionary = false := by
  constructor
  · intro unusable
    cases unusable with
    | unread unread opened => exact .inl ⟨_, by rw [readFile_of_unread unread, if_neg opened]⟩
    | mistaken holds parsed => exact .inl ⟨_, by rw [readFile_of_holds holds, parsed]⟩
    | otherValue holds other => exact .inr ⟨_, readFile_eq_ok_iff.mpr holds, other⟩
  · rintro (⟨reason, told⟩ | ⟨value, returned, other⟩)
    · rcases files.read_cases path with ⟨fault, unread⟩ | ⟨bytes, fault, read, found⟩ |
        ⟨text, holds⟩
      · refine .unread unread fun isNull => ?_
        rw [readFile_of_unread unread, if_pos isNull] at told
        cases told
      · rw [readFile_of_undecodable read found] at told
        cases told
      · rw [readFile_of_holds holds] at told
        split at told
        next => cases told
        next => cases told
        next => cases told
        next => cases told
        next misread notLong notDeep notHalf parsed =>
          cases misread with
          | mistake found line column index => exact .mistaken holds parsed
          | longInteger => exact absurd rfl notLong
          | tooDeep => exact absurd rfl notDeep
          | unpaired => exact absurd rfl notHalf
    · exact .otherValue (readFile_eq_ok_iff.mp returned) other

/-! ## Loading settings -/

/-- A text without escapes for half a character, without long numerals and without too many brackets
and braces ends nothing. -/
theorem readFile_ne_ending_of_holds {text : String} (holds : files.Holds path text)
    (noHalf : ¬ Json.HasHalf (Text.translated text).toList)
    (noNumeral : ¬ Json.HasLongNumeral (Text.translated text).toList)
    (shallow : Json.openings (Text.translated text).toList ≤ nesting) (fault : SettingsFault) :
    readFile nesting files path ≠ .error (.ending fault) := by
  intro returned
  obtain ⟨-, long, deep, half⟩ := Json.accounts_parse nesting (Text.translated text)
  rw [readFile_of_holds holds] at returned
  split at returned
  next => cases returned
  next parsed => exact noNumeral (long parsed)
  next parsed => exact absurd (deep parsed) (Nat.not_lt.mpr shallow)
  next parsed => exact noHalf (half parsed)
  next => cases returned

/-- How loading ends is decided by what comes of reading the file. -/
theorem made_load_iff (nesting : Nat) (files : FileSystem) (path : Path)
    (entries : Dictionary Scalar Json) :
    let made := (load nesting files path (.dictionary entries)).made
    (made = .ok true ↔ ∃ newer, readFile nesting files path = .ok (.dictionary newer)) ∧
    (made = .ok false ↔ (∃ reason, readFile nesting files path = .error (.told reason)) ∨
      ∃ value, readFile nesting files path = .ok value ∧ value.isDictionary = false) ∧
    ∀ fault, made = .error fault ↔ readFile nesting files path = .error (.ending fault) := by
  intro made
  have older : Json.toDictionary (.dictionary entries) = .ok entries := rfl
  match read : readFile nesting files path with
  | .error (.told reason) => simp [made, load, read]
  | .error (.ending fault) => simp [made, load, read]
  | .ok (.dictionary newer) => simp [made, load, read, older, Json.isDictionary]
  | .ok .null | .ok (.bool _) | .ok (.integer _) | .ok (.decimal _) | .ok (.text _)
  | .ok (.list _) => simp [made, load, read, Json.isDictionary]

/-- Unless it is made, loading leaves the settings as they are. -/
theorem settings_load_of_not_made {entries : Dictionary Scalar Json}
    (unmade : (load nesting files path (.dictionary entries)).made ≠ .ok true) :
    (load nesting files path (.dictionary entries)).settings = .dictionary entries := by
  match read : readFile nesting files path with
  | .error (.told reason) => simp only [load, read]
  | .error (.ending fault) => simp only [load, read]
  | .ok (.dictionary newer) =>
    exact absurd ((made_load_iff nesting files path entries).1.mpr ⟨newer, read⟩) unmade
  | .ok .null | .ok (.bool _) | .ok (.integer _) | .ok (.decimal _) | .ok (.text _)
  | .ok (.list _) => simp only [load, read]

/-- A dictionary in a file is merged over the settings. -/
theorem settings_load_of_holdsJson {entries newer : Dictionary Scalar Json}
    (holds : files.HoldsJson nesting path (.dictionary newer)) :
    (load nesting files path (.dictionary entries)).settings =
      .dictionary (Json.mergeEntries entries newer) := by
  have older : Json.toDictionary (.dictionary entries) = .ok entries := rfl
  simp only [load, readFile_eq_ok_iff.mpr holds, older]

/-- Loading settings from a file has three outcomes, and what the file holds decides between them,
however deep values may be nested. Files in which half a character is read are left out.

The change is made exactly if the file holds the text of a JSON dictionary, and then the settings
are this dictionary merged over the older one. It is passed over exactly if the file is unusable,
and it ends with a fault exactly if something there breaks it. Unless it is made, the settings are
what they were. In any case they are a configuration afterwards.

Nothing breaks it in a file with a text that has no escape for half a character, has no more digits
in a row than an integer may have and opens no more lists and dictionaries than there may be levels.
-/
theorem load_outcomes (nesting : Nat) (files : FileSystem) (path : Path)
    (configuration : Configuration) (whole : ¬ files.HoldsHalf nesting path) :
    let older := configuration.entries
    let change := load nesting files path (.dictionary older)
    (change.made = .ok true ↔ ∃ newer, files.HoldsJson nesting path (.dictionary newer)) ∧
    (∀ newer, files.HoldsJson nesting path (.dictionary newer) →
      change.settings = .dictionary (Json.mergeEntries older newer)) ∧
    (change.made = .ok false ↔ Unusable nesting files path) ∧
    (∀ fault, change.made = .error fault ↔ Breaks nesting files path fault) ∧
    (change.made ≠ .ok true → change.settings = .dictionary older) ∧
    (∃ after : Configuration, change.settings = .dictionary after.entries) ∧
    ∀ text, files.Holds path text → ¬ Json.HasHalf (Text.translated text).toList →
      ¬ Json.HasLongNumeral (Text.translated text).toList →
      Json.openings (Text.translated text).toList ≤ nesting →
        change.made = .ok true ∨ change.made = .ok false := by
  intro older change
  obtain ⟨whenMade, whenPassed, whenBroken⟩ := made_load_iff nesting files path older
  simp only [readFile_eq_ok_iff] at whenMade
  refine ⟨whenMade, fun newer => settings_load_of_holdsJson, ?_, ?_, settings_load_of_not_made,
    ?_, ?_⟩
  · rw [whenPassed, unusable_iff]
  · intro fault
    rw [whenBroken, readFile_eq_ending_iff whole]
  · by_cases made : change.made = .ok true
    · obtain ⟨newer, holds⟩ := whenMade.mp made
      have ⟨text, _, parsed⟩ := holds
      have newerProper : (Json.dictionary newer).Proper := (Json.accounts_parse nesting _).1 _ parsed
      refine ⟨⟨Json.mergeEntries older newer, ?_⟩, settings_load_of_holdsJson holds⟩
      rw [← Json.laidOver_dictionary]
      exact newerProper.laidOver fun held same => Option.some.inj same ▸ configuration.proper
    · exact ⟨configuration, settings_load_of_not_made made⟩
  · intro text holds noHalf noNumeral shallow
    match made : change.made with
    | .ok true => exact .inl rfl
    | .ok false => exact .inr rfl
    | .error fault =>
      exact absurd ((whenBroken fault).mp made)
        (readFile_ne_ending_of_holds holds noHalf noNumeral shallow fault)

/-- A directory with a file of one byte that begins no character. -/
def oddFiles : FileSystem where
  root := .directory [("odd.json", .file [0xFF])]
  workingDirectory := []

theorem oddFiles_whole (nesting : Nat) :
    ¬ oddFiles.HoldsHalf nesting (.ofText "odd.json") := by
  rintro ⟨text, holds, -⟩
  have decoded := FileSystem.readText_of_holds holds
  have undecoded : oddFiles.readText (.ofText "odd.json") = .error (.bytes
      { first := 0xFF, start := 0, stop := 1, reason := .startByte } [0xFF]) := rfl
  rw [undecoded] at decoded
  cases decoded

/-- With that file the change is neither made nor passed over, and the settings stay. -/
theorem load_outcomes_oddFiles :
    ¬ oddFiles.HoldsHalf 20 (.ofText "odd.json") ∧
    let change := load 20 oddFiles (.ofText "odd.json") (.dictionary projectSettings.entries)
    (∃ fault, change.made = .error fault ∧ Breaks 20 oddFiles (.ofText "odd.json") fault) ∧
    change.settings = .dictionary projectSettings.entries := by
  have whole := oddFiles_whole 20
  obtain ⟨-, -, -, broken, unmade, -, -⟩ :=
    load_outcomes 20 oddFiles (.ofText "odd.json") projectSettings whole
  refine ⟨whole, ⟨_, rfl, (broken _).mp rfl⟩, unmade ?_⟩
  exact fun made => by cases made

/-- Loading that file is not passed over: a fault ends it. -/
theorem oddFiles_break_load :
    oddFiles.find (.ofText "odd.json") = .ok (.file [0xFF]) ∧
    ∀ nesting, (load nesting oddFiles (.ofText "odd.json") defaults).made =
      .error (.undecodable { first := 0xFF, start := 0, stop := 1, reason := .startByte }) :=
  ⟨rfl, fun _ => rfl⟩

end Settings

end HtmlNesting
