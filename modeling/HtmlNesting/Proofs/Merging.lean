import HtmlNesting.Proofs.Assigning

/-!
# Merging settings, path by path

Newer settings are laid over older ones dictionary by dictionary. What a way of keys leads to
afterwards depends only on what it leads to in either of the two: where the newer settings have a
value, that value is laid over the older one (`find?_laidOver_of_some`); where they block the way,
there is nothing; where they have nothing and do not block it, the older settings stay in view
(`find?_laidOver_of_none`).

Both settings may disagree at any depth about what is a dictionary, so these laws are stated for a
newer value over an older one that may be missing or of any kind. They need each key once in the
newer dictionaries, which `Proper` says; all values that are read have that. A `Configuration` is a
dictionary that has it.
-/

namespace HtmlNesting

namespace Json

/-- Every dictionary in a value, at any depth, has each key once. -/
inductive Proper : Json → Prop where
  | null : Proper null
  | bool (value : Bool) : Proper (bool value)
  | integer (value : Int) : Proper (integer value)
  | decimal (value : Float) : Proper (decimal value)
  | text (value : String) : Proper (text value)
  | list {items : List Json} (inside : ∀ item ∈ items, Proper item) : Proper (list items)
  | dictionary {entries : List (Scalar × Json)} (once : (Dictionary.keys entries).Nodup)
      (inside : ∀ entry ∈ entries, Proper entry.2) : Proper (dictionary entries)

theorem Proper.once {entries : List (Scalar × Json)} (proper : Proper (Json.dictionary entries)) :
    (Dictionary.keys entries).Nodup := by
  cases proper with
  | dictionary once inside => exact once

theorem Proper.of_mem {entries : List (Scalar × Json)} (proper : Proper (Json.dictionary entries))
    {entry : Scalar × Json} (member : entry ∈ entries) : Proper entry.2 := by
  cases proper with
  | dictionary once inside => exact inside entry member

theorem Proper.of_get? {entries : List (Scalar × Json)} (proper : Proper (Json.dictionary entries))
    {key : Scalar} {value : Json} (found : Dictionary.get? entries key = some value) :
    Proper value :=
  proper.of_mem (Dictionary.mem_of_get? found)

variable {older newer : List (Scalar × Json)} {value : Json}

/-! ## One dictionary over another -/

@[simp] theorem laidOver_none (value : Json) : value.laidOver none = value := by
  cases value <;> rfl

/-- Anything but a dictionary takes the place of what was there. -/
theorem laidOver_of_not_dictionary (other : value.isDictionary = false) (present : Option Json) :
    value.laidOver present = value := by
  cases value with
  | dictionary entries => cases other
  | _ => rfl

/-- A dictionary takes the place of anything else. -/
theorem laidOver_some_of_not_dictionary {present : Json} (other : present.isDictionary = false)
    (value : Json) : value.laidOver (some present) = value := by
  cases value with
  | dictionary entries =>
    cases present with
    | dictionary inner => cases other
    | _ => rfl
  | _ => rfl

@[simp] theorem laidOver_dictionary (older newer : List (Scalar × Json)) :
    (dictionary newer).laidOver (some (dictionary older)) =
      dictionary (mergeEntries older newer) := by
  rw [laidOver]

/-- The value of a key in a merged dictionary: the newer one over the older one if there is a newer
one, and else the older one. -/
theorem get?_mergeEntries (once : (Dictionary.keys newer).Nodup) (older : List (Scalar × Json))
    (key : Scalar) :
    Dictionary.get? (mergeEntries older newer) key =
      ((Dictionary.get? newer key).map fun value =>
        value.laidOver (Dictionary.get? older key)).or (Dictionary.get? older key) := by
  induction newer generalizing older with
  | nil => simp [mergeEntries, Dictionary.get?]
  | cons entry rest ih =>
    obtain ⟨first, value⟩ := entry
    rw [Dictionary.keys, List.map_cons, List.nodup_cons] at once
    rw [mergeEntries, ih once.2, Dictionary.get?]
    by_cases same : first = key
    · subst same
      -- The key does not occur again, so its value stays what it is made here.
      have absent : Dictionary.get? rest first = none := by
        cases present : Dictionary.get? rest first with
        | none => rfl
        | some held =>
          exact absurd ((Dictionary.mem_keys_iff rest first).mpr ⟨held, present⟩) once.1
      rw [absent, Dictionary.get?_set_self]
      simp
    · rw [Dictionary.get?_set_of_ne _ _ _ _ (Ne.symm same)]
      simp [same]

/-- A dictionary whose values do not change when the newer ones are laid over them stays as it
is. -/
theorem mergeEntries_eq_self
    (settled : ∀ entry ∈ newer, ∃ held, Dictionary.get? older entry.1 = some held ∧
      entry.2.laidOver (some held) = held) :
    mergeEntries older newer = older := by
  induction newer with
  | nil => rw [mergeEntries]
  | cons entry rest ih =>
    obtain ⟨key, value⟩ := entry
    obtain ⟨held, present, unchanged⟩ := settled _ List.mem_cons_self
    rw [mergeEntries, present, unchanged, Dictionary.set_eq_self older key held present]
    exact ih fun entry member => settled entry (List.mem_cons_of_mem _ member)

/-- New keys go to the end. -/
theorem mergeEntries_of_disjoint (once : (Dictionary.keys newer).Nodup)
    (apart : ∀ key ∈ Dictionary.keys newer, key ∉ Dictionary.keys older) :
    mergeEntries older newer = older ++ newer := by
  induction newer generalizing older with
  | nil => rw [mergeEntries, List.append_nil]
  | cons entry rest ih =>
    obtain ⟨key, value⟩ := entry
    rw [Dictionary.keys, List.map_cons, List.nodup_cons] at once
    have absent : key ∉ Dictionary.keys older := apart key (by simp [Dictionary.keys])
    have nothing : Dictionary.get? older key = none := by
      cases present : Dictionary.get? older key with
      | none => rfl
      | some held => exact absurd ((Dictionary.mem_keys_iff older key).mpr ⟨held, present⟩) absent
    rw [mergeEntries, nothing, laidOver_none, Dictionary.set_of_not_mem value absent, ih once.2]
    · simp
    · intro other member listed
      rw [Dictionary.keys, List.map_append, List.mem_append] at listed
      rcases listed with before | last
      · exact apart other (List.mem_cons_of_mem _ member) before
      · have same : other = key := by simpa using last
        exact once.1 (same ▸ member)

/-- A value that was laid over another one is no different when it is laid over the result. -/
theorem laidOver_laidOver (proper : Proper value) (older : Option Json) :
    value.laidOver (some (value.laidOver older)) = value.laidOver older := by
  induction proper generalizing older with
  | @dictionary entries once inside ih =>
    have again : ∀ entry ∈ entries, ∀ held : Option Json,
        entry.2.laidOver (some (entry.2.laidOver held)) = entry.2.laidOver held :=
      fun entry member held => ih entry member held
    by_cases both : ∃ present, older = some (dictionary present)
    · obtain ⟨present, rfl⟩ := both
      rw [laidOver_dictionary, laidOver_dictionary, dictionary.injEq]
      refine mergeEntries_eq_self fun entry member => ?_
      refine ⟨entry.2.laidOver (Dictionary.get? present entry.1), ?_, again entry member _⟩
      rw [get?_mergeEntries once, Dictionary.get?_of_mem once member]
      rfl
    · have alone : (dictionary entries).laidOver older = dictionary entries := by
        cases older with
        | none => rfl
        | some held =>
          refine laidOver_some_of_not_dictionary ?_ _
          cases held with
          | dictionary present => exact absurd ⟨present, rfl⟩ both
          | _ => rfl
      rw [alone, laidOver_dictionary, dictionary.injEq]
      refine mergeEntries_eq_self fun entry member => ?_
      refine ⟨entry.2, Dictionary.get?_of_mem once member, ?_⟩
      simpa using again entry member none
  | _ => rfl

namespace Proper

/-- Setting a key keeps a dictionary proper. -/
theorem set {entries : List (Scalar × Json)} (proper : Proper (Json.dictionary entries))
    (key : Scalar) (held : Proper value) :
    Proper (Json.dictionary (Dictionary.set key value entries)) := by
  refine .dictionary (Dictionary.nodup_keys_set _ _ _ proper.once) ?_
  intro entry member
  rcases Dictionary.mem_set member with before | rfl
  · exact proper.of_mem before
  · exact held

/-- If each newer value is proper wherever it is laid, so is the merged dictionary. -/
theorem mergeEntries (olderProper : Proper (Json.dictionary older))
    (each : ∀ entry ∈ newer, ∀ present : Option Json, (∀ held ∈ present, Proper held) →
      Proper (entry.2.laidOver present)) :
    Proper (Json.dictionary (Json.mergeEntries older newer)) := by
  induction newer generalizing older with
  | nil => rwa [Json.mergeEntries]
  | cons entry rest ih =>
    obtain ⟨key, value⟩ := entry
    rw [Json.mergeEntries]
    have first : Proper (value.laidOver (Dictionary.get? older key)) :=
      each _ List.mem_cons_self _ fun held found => olderProper.of_get? found
    exact ih (olderProper.set key first) fun entry member =>
      each entry (List.mem_cons_of_mem _ member)

/-- A proper value laid over a proper one is proper. -/
theorem laidOver {newer : Json} (proper : Proper newer) {older : Option Json}
    (olderProper : ∀ held ∈ older, Proper held) : Proper (newer.laidOver older) := by
  induction proper generalizing older with
  | @dictionary entries once inside ih =>
    match older with
    | some (.dictionary present) =>
      rw [laidOver_dictionary]
      exact mergeEntries (olderProper _ rfl) fun entry member present held =>
        ih entry member held
    | none => exact .dictionary once inside
    | some .null | some (.bool _) | some (.integer _) | some (.decimal _) | some (.text _)
    | some (.list _) => exact .dictionary once inside
  | list inside _ => exact .list inside
  | _ => constructor

end Proper

end Json

namespace Settings

open Json

variable {newer : Json} {older : Option Json} {keys : List String}

/-! ## Following keys through what was laid over -/

/-- A way that is blocked from where its first key leads is blocked. -/
theorem Blocked.cons {entries : Dictionary Scalar Json} {key : String} {inner : Json}
    (found : Dictionary.get? entries (.text key) = some inner) (blocked : Blocked inner keys) :
    Blocked (.dictionary entries) (key :: keys) := by
  obtain ⟨way, below, part, shorter, leads, other⟩ := blocked
  refine ⟨key :: way, below, List.cons_prefix_cons.mpr ⟨rfl, part⟩, by simpa using shorter, ?_,
    other⟩
  rw [find?_cons, found, Option.bind_some, leads]

/-- Two dictionaries are merged. Otherwise the newer value is there alone, and if it is a dictionary
no key leads anywhere in the older one. -/
theorem laidOver_cases (newer : Json) (older : Option Json) :
    (∃ inner present, newer = .dictionary inner ∧ older = some (.dictionary present)) ∨
    newer.laidOver older = newer ∧ (newer.isDictionary = true → ∀ key rest,
      (older.bind fun held => find? held (key :: rest)) = none) := by
  cases newer with
  | dictionary inner =>
    match older with
    | some (.dictionary present) => exact .inl ⟨inner, present, rfl, rfl⟩
    | none => exact .inr ⟨rfl, fun _ _ _ => rfl⟩
    | some .null | some (.bool _) | some (.integer _) | some (.decimal _) | some (.text _)
    | some (.list _) => exact .inr ⟨rfl, fun _ _ _ => rfl⟩
  | _ => exact .inr ⟨rfl, by simp [isDictionary]⟩

/-- What the keys lead to in the newer value is laid over what they lead to in the older one. -/
theorem find?_laidOver_of_some (proper : Proper newer) {value : Json}
    (found : find? newer keys = some value) :
    find? (newer.laidOver older) keys =
      some (value.laidOver (older.bind fun held => find? held keys)) := by
  induction keys generalizing newer older with
  | nil =>
    rw [find?, Option.some.injEq] at found
    rw [found, find?]
    cases older <;> rfl
  | cons key rest ih =>
    cases newer with
    | dictionary inner =>
      rcases laidOver_cases (.dictionary inner) older with
        ⟨_, present, same, rfl⟩ | ⟨alone, nothing⟩
      · rw [laidOver_dictionary, Option.bind_some, find?_cons, find?_cons,
          get?_mergeEntries proper.once]
        rw [find?_cons] at found
        obtain ⟨below, held, leads⟩ := Option.bind_eq_some_iff.mp found
        rw [held, Option.map_some, Option.some_or, Option.bind_some]
        exact ih (proper.of_get? held) leads
      · rw [alone, nothing rfl, laidOver_none, found]
    | _ => cases found

/-- Where the newer value has nothing and does not block the way, the older one is found. -/
theorem find?_laidOver_of_none (proper : Proper newer) (absent : find? newer keys = none)
    (free : ¬ Blocked newer keys) :
    find? (newer.laidOver older) keys = older.bind fun held => find? held keys := by
  induction keys generalizing newer older with
  | nil => cases absent
  | cons key rest ih =>
    cases newer with
    | dictionary inner =>
      rcases laidOver_cases (.dictionary inner) older with
        ⟨_, present, same, rfl⟩ | ⟨alone, nothing⟩
      · rw [laidOver_dictionary, Option.bind_some, find?_cons, find?_cons,
          get?_mergeEntries proper.once]
        cases held : Dictionary.get? inner (.text key) with
        | none => rw [Option.map_none, Option.none_or]
        | some below =>
          rw [Option.map_some, Option.some_or, Option.bind_some]
          rw [find?_cons, held, Option.bind_some] at absent
          exact ih (proper.of_get? held) absent fun blocked => free (blocked.cons held)
      · rw [alone, nothing rfl, absent]
    | _ =>
      -- Anything else blocks every way on.
      exact absurd ⟨[], _, List.nil_prefix, by simp, rfl, rfl⟩ free

/-- A way that the newer value blocks stays blocked. -/
theorem find?_laidOver_of_blocked (proper : Proper newer) (blocked : Blocked newer keys) :
    find? (newer.laidOver older) keys = none := by
  obtain ⟨way, below, part, shorter, found, other⟩ := blocked
  refine find?_of_blocked ⟨way, below, part, shorter, ?_, other⟩
  rw [find?_laidOver_of_some proper found, laidOver_of_not_dictionary other]

end Settings

/-- A dictionary in which each key occurs once, at any depth. -/
structure Configuration where
  entries : Dictionary Scalar Json
  proper : (Json.dictionary entries).Proper

namespace Settings

open Json

/-- Merging follows the newer settings wherever they say something. Let keys lead through the merged
settings.

If they lead to something other than a dictionary in the newer settings, they lead to the same
afterwards. If some but not all of them do, they lead to nothing. If they lead to a dictionary in
the newer settings, they lead to one afterwards. In all other cases they lead to what they led to
before.

Merging the same settings once more changes nothing, merging nothing changes nothing, and merged
over nothing the newer settings are what they are. -/
theorem merge_path_law (older : Dictionary Scalar Json) (configuration : Configuration) :
    let newer := configuration.entries
    let merged := mergeEntries older newer
    (∀ keys,
      (∀ value, find? (.dictionary newer) keys = some value → value.isDictionary = false →
        find? (.dictionary merged) keys = some value) ∧
      (Blocked (.dictionary newer) keys → find? (.dictionary merged) keys = none) ∧
      (∀ inner, find? (.dictionary newer) keys = some (.dictionary inner) →
        ∃ both, find? (.dictionary merged) keys = some (.dictionary both)) ∧
      (find? (.dictionary newer) keys = none → ¬ Blocked (.dictionary newer) keys →
        find? (.dictionary merged) keys = find? (.dictionary older) keys)) ∧
    mergeEntries merged newer = merged ∧ mergeEntries older [] = older ∧
      mergeEntries [] newer = newer := by
  intro newer merged
  have proper : (Json.dictionary newer).Proper := configuration.proper
  have laid : Json.dictionary merged = (Json.dictionary newer).laidOver (some (.dictionary older)) :=
    (laidOver_dictionary older newer).symm
  refine ⟨fun keys => ⟨?_, ?_, ?_, ?_⟩, ?_, ?_, ?_⟩
  · intro value found other
    rw [laid, find?_laidOver_of_some proper found, laidOver_of_not_dictionary other]
  · intro blocked
    rw [laid, find?_laidOver_of_blocked proper blocked]
  · intro inner found
    rw [laid, find?_laidOver_of_some proper found, Option.bind_some]
    cases find? (.dictionary older) keys with
    | none => exact ⟨inner, rfl⟩
    | some held =>
      cases held with
      | dictionary present => exact ⟨mergeEntries present inner, by rw [laidOver_dictionary]⟩
      | _ => exact ⟨inner, rfl⟩
  · intro absent free
    rw [laid, find?_laidOver_of_none proper absent free, Option.bind_some]
  · have again := laidOver_laidOver proper (some (.dictionary older))
    rw [laidOver_dictionary, laidOver_dictionary] at again
    exact Json.dictionary.inj again
  · rw [mergeEntries]
  · have apart : ∀ key ∈ Dictionary.keys newer, key ∉ Dictionary.keys ([] : Dictionary Scalar Json) :=
      fun key _ => List.not_mem_nil
    rw [mergeEntries_of_disjoint proper.once apart, List.nil_append]

/-- Settings that take a text for a dictionary and a dictionary for a text. -/
def plainSettings : Dictionary Scalar Json := [
  ("lint", .dictionary [("workers", .integer 4), ("overrides", .text "none")]),
  ("debug", .dictionary [("level", .text "INFO")])]

/-- Settings that have it the other way round. -/
def projectSettings : Configuration where
  entries := [
    ("debug", .text "off"),
    ("lint", .dictionary [("overrides", .dictionary [("CONTENT_TOO_MANY", .text "error")])])]
  proper := by
    refine .dictionary (by decide) ?_
    simp only [List.forall_mem_cons, List.not_mem_nil, false_implies, implies_true, and_true]
    refine ⟨.text _, .dictionary (by decide) ?_⟩
    simp only [List.forall_mem_cons, List.not_mem_nil, false_implies, implies_true, and_true]
    refine .dictionary (by decide) ?_
    simp only [List.forall_mem_cons, List.not_mem_nil, false_implies, implies_true, and_true]
    exact .text _

/-- The dictionary with the level gives way to a text, the text to a dictionary, and the number of
workers stays. -/
theorem merge_path_law_projectSettings :
    let merged := mergeEntries plainSettings projectSettings.entries
    find? (.dictionary merged) ["debug"] = some (.text "off") ∧
    find? (.dictionary merged) ["debug", "level"] = none ∧
    (∃ both, find? (.dictionary merged) ["lint", "overrides"] = some (.dictionary both)) ∧
    find? (.dictionary merged) ["lint", "workers"] = some (.integer 4) ∧
    mergeEntries merged projectSettings.entries = merged := by
  obtain ⟨along, again, -, -⟩ := merge_path_law plainSettings projectSettings
  refine ⟨?_, ?_, ?_, ?_, again⟩
  · exact (along ["debug"]).1 _ rfl rfl
  · exact (along ["debug", "level"]).2.1 ⟨["debug"], _, by decide, by decide, rfl, rfl⟩
  · exact (along ["lint", "overrides"]).2.2.1 _ rfl
  · refine (along ["lint", "workers"]).2.2.2 rfl fun blocked => ?_
    exact not_blocked_single _ _ (blocked_cons_cons.mp blocked)

end Settings

end HtmlNesting
