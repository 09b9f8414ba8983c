import HtmlNesting.Files.Path

/-!
# Paths and their texts

The components of a path that comes from a text are names: not empty, not a single dot, and without
a slash. Such a path is read back from its text (`Path.ofText_toText`), so different paths have
different texts.
-/

namespace HtmlNesting

/-! ## Pieces -/

namespace Text

/-- Cutting at a character is splitting on it. -/
theorem splitAt_eq_splitOn (separator : Char) (cs : List Char) :
    splitAt separator cs = cs.splitOn separator := by
  induction cs with
  | nil => rfl
  | cons c rest ih =>
    rw [List.splitOn_eq_splitOnP, List.splitOnP_cons_eq_if_modifyHead, ← List.splitOn_eq_splitOnP,
      ← ih, splitAt]
    by_cases same : c = separator
    · simp [same]
    · cases pieces : splitAt separator rest with
      | nil => exact absurd pieces (splitAt_ne_nil separator rest)
      | cons first others => simp [same]

/-- No piece has the separator in it. -/
theorem not_mem_of_mem_splitAt {separator : Char} {cs piece : List Char}
    (member : piece ∈ splitAt separator cs) : separator ∉ piece := by
  induction cs generalizing piece with
  | nil => simp_all [splitAt]
  | cons c rest ih =>
    rw [splitAt] at member
    split at member
    · rcases List.mem_cons.mp member with rfl | later
      · simp
      · exact ih later
    next other =>
      cases pieces : splitAt separator rest with
      | nil => exact absurd pieces (splitAt_ne_nil separator rest)
      | cons first others =>
        simp only [pieces, List.mem_cons] at member ih
        rcases member with rfl | later
        · simpa [Ne.symm other] using ih (.inl rfl)
        · exact ih (.inr later)

/-- A text that starts with the separator has an empty piece more than the rest. -/
theorem pieces_slash_append (s : String) : pieces '/' ("/" ++ s) = "" :: pieces '/' s := by
  simp [pieces, splitAt]

/-- Texts without a slash are the pieces of the text in which slashes are put between them. -/
theorem pieces_intercalate {parts : List String} (parted : ∀ part ∈ parts, '/' ∉ part.toList)
    (nonempty : parts ≠ []) : pieces '/' (String.intercalate "/" parts) = parts := by
  rw [pieces, splitAt_eq_splitOn, String.toList_intercalate]
  have separated : ∀ cs ∈ parts.map String.toList, '/' ∉ cs := by
    simpa using parted
  have some : parts.map String.toList ≠ [] := by simpa using nonempty
  rw [show "/".toList = ['/'] from rfl, List.splitOn_intercalate '/' separated some]
  simp [Function.comp_def]

end Text

/-! ## Names -/

theorem isPartName_iff (s : String) : isPartName s ↔ s ≠ "" ∧ s ≠ "." ∧ '/' ∉ s.toList := by
  simp [isPartName, and_assoc]

namespace Path

/-- Whether all components of a path are names. -/
def isProper (path : Path) : Bool :=
  path.parts.all isPartName

theorem isProper_ofText (s : String) : (ofText s).isProper := by
  rw [isProper, List.all_eq_true]
  intro part member
  obtain ⟨listed, kept⟩ := List.mem_filter.mp member
  obtain ⟨piece, found, rfl⟩ := List.mem_map.mp listed
  have parted := Text.not_mem_of_mem_splitAt found
  simp_all [isPartName]

theorem isProper_of_mem_map_ofText {arguments : List String} {path : Path}
    (member : path ∈ arguments.map ofText) : path.isProper := by
  obtain ⟨argument, -, rfl⟩ := List.mem_map.mp member
  exact isProper_ofText argument

end Path

/-- The start of a path is told from its text as long as no slash follows it. -/
theorem PathStart.ofChars_text_append (start : PathStart) {cs : List Char}
    (noSlash : cs.head? ≠ some '/') : ofChars (start.text.toList ++ cs) = start := by
  cases cs with
  | nil => cases start <;> rfl
  | cons c rest =>
    have other : c ≠ '/' := by simpa using noSlash
    cases start <;> simp [text, ofChars, other]

namespace Path

/-- The text of some names does not start with a slash. -/
theorem head?_intercalate {parts : List String} (named : ∀ part ∈ parts, isPartName part) :
    (String.intercalate "/" parts).toList.head? ≠ some '/' := by
  cases parts with
  | nil => simp
  | cons first rest =>
    obtain ⟨nonempty, -, parted⟩ := (isPartName_iff first).mp (named first List.mem_cons_self)
    cases chars : first.toList with
    | nil => exact absurd (String.toList_eq_nil_iff.mp chars) nonempty
    | cons c cs =>
      have other : c ≠ '/' := by
        intro same
        exact parted (by simp [chars, same])
      cases rest with
      | nil => simp [chars, other]
      | cons second others =>
        simp [String.toList_intercalate, chars, other]

/-- The names among the pieces of the text of some names are these. -/
theorem filter_pieces_intercalate {parts : List String} (named : ∀ part ∈ parts, isPartName part) :
    ((Text.pieces '/' (String.intercalate "/" parts)).filter fun part =>
      !(part == "" || part == ".")) = parts := by
  cases parts with
  | nil => rfl
  | cons first rest =>
    have parted : ∀ part ∈ first :: rest, '/' ∉ part.toList :=
      fun part member => ((isPartName_iff part).mp (named part member)).2.2
    rw [Text.pieces_intercalate parted (List.cons_ne_nil _ _), List.filter_eq_self]
    intro part member
    have name := (isPartName_iff part).mp (named part member)
    simp [name.1, name.2.1]

/-- A proper path is read back from its text. -/
theorem ofText_toText {path : Path} (proper : path.isProper) : ofText path.toText = path := by
  obtain ⟨start, parts⟩ := path
  have named : ∀ part ∈ parts, isPartName part := by simpa [isProper] using proper
  rw [toText]
  split
  next here =>
    obtain ⟨rfl, rfl⟩ := here
    rfl
  next =>
    have first : PathStart.ofChars (start.text ++ String.intercalate "/" parts).toList = start := by
      rw [String.toList_append]
      exact start.ofChars_text_append (head?_intercalate named)
    have others : ((Text.pieces '/' (start.text ++ String.intercalate "/" parts)).filter
        fun part => !(part == "" || part == ".")) = parts := by
      -- The slashes of the start make empty pieces only.
      cases start with
      | workingDirectory => simpa [PathStart.text] using filter_pieces_intercalate named
      | root =>
        rw [PathStart.text, Text.pieces_slash_append]
        exact filter_pieces_intercalate named
      | doubleRoot =>
        rw [PathStart.text, show "//" = "/" ++ "/" from rfl, String.append_assoc,
          Text.pieces_slash_append, Text.pieces_slash_append]
        exact filter_pieces_intercalate named
    rw [ofText, first, others]

/-- Proper paths with the same text are the same. -/
theorem eq_of_toText_eq {first second : Path} (firstProper : first.isProper)
    (secondProper : second.isProper) (same : first.toText = second.toText) : first = second := by
  rw [← ofText_toText firstProper, same, ofText_toText secondProper]

/-- A name is the text of a path of one component. -/
theorem ofText_of_isPartName {name : String} (named : isPartName name) :
    ofText name = { start := .workingDirectory, parts := [name] } := by
  have text : toText { start := .workingDirectory, parts := [name] } = name := by
    simp [toText, PathStart.text]
  have proper : isProper { start := .workingDirectory, parts := [name] } := by
    simpa [isProper] using named
  simpa [text] using ofText_toText proper

/-- A path has a null byte in it exactly if one of its components has. -/
theorem null_mem_toText (path : Path) :
    '\x00' ∈ path.toText.toList ↔ ∃ part ∈ path.parts, '\x00' ∈ part.toList := by
  have joined (parts : List String) : '\x00' ∈ (String.intercalate "/" parts).toList ↔
      ∃ part ∈ parts, '\x00' ∈ part.toList := by
    induction parts with
    | nil => simp
    | cons first rest ih =>
      cases rest with
      | nil => simp
      | cons second others =>
        rw [String.intercalate_cons_cons, String.toList_append, String.toList_append,
          List.mem_append, ih]
        simp
  have started : '\x00' ∉ path.start.text.toList := by
    cases path.start <;> decide
  rw [toText]
  split
  next empty => simp [empty.2]
  next =>
    rw [String.toList_append, List.mem_append, joined]
    exact or_iff_right started

end Path

end HtmlNesting
