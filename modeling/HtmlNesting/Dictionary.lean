/-!
# Dictionaries in order of insertion

A dictionary is a list of pairs. Setting a key that is present replaces its value where it stands;
a new key goes to the end. Built this way a dictionary has each key once, which
`nodup_keys_ofList` states.
-/

namespace HtmlNesting

/-- Keys with values, in the order in which the keys were first set. -/
abbrev Dictionary (κ α : Type) := List (κ × α)

namespace Dictionary

variable {κ α : Type}

/-- The keys in order. -/
def keys (entries : Dictionary κ α) : List κ :=
  entries.map Prod.fst

@[simp] theorem keys_cons (entry : κ × α) (rest : Dictionary κ α) :
    keys (entry :: rest) = entry.1 :: keys rest :=
  rfl

variable [BEq κ]

/-- The value of a key, if it is present. -/
def get? (entries : Dictionary κ α) (key : κ) : Option α :=
  match entries with
  | [] => none
  | (other, value) :: rest => if other == key then some value else get? rest key

/-- Whether a key is present. -/
def has (entries : Dictionary κ α) (key : κ) : Bool :=
  (entries.get? key).isSome

/-- Gives a key a value, in its place if it is present and at the end otherwise. -/
def set (key : κ) (value : α) : Dictionary κ α → Dictionary κ α
  | [] => [(key, value)]
  | (other, old) :: rest =>
    if other == key then (other, value) :: rest else (other, old) :: set key value rest

/-- The dictionary that setting some pairs one after another makes of the empty one: of equal keys
the last value wins, in the place of the first. -/
def ofList (pairs : List (κ × α)) : Dictionary κ α :=
  pairs.foldl (fun entries pair => set pair.1 pair.2 entries) []

/-- A key has the value it was given. -/
@[simp] theorem get?_set_self [LawfulBEq κ] (entries : Dictionary κ α) (key : κ) (value : α) :
    get? (set key value entries) key = some value := by
  induction entries with
  | nil => simp [set, get?]
  | cons entry rest ih =>
    obtain ⟨first, old⟩ := entry
    by_cases same : (first == key) = true
    · simp [set, get?, same]
    · simp [set, get?, same, ih]

/-- Giving one key a value does not change that of another. -/
theorem get?_set_of_ne [LawfulBEq κ] (entries : Dictionary κ α) (key other : κ) (value : α)
    (distinct : other ≠ key) : get? (set key value entries) other = get? entries other := by
  induction entries with
  | nil => simp [set, get?, distinct.symm]
  | cons entry rest ih =>
    obtain ⟨first, old⟩ := entry
    by_cases same : (first == key) = true
    · have equal : first = key := eq_of_beq same
      simp [set, get?, equal, distinct.symm]
    · simp [set, get?, same, ih]

/-- Giving a key the value it has changes nothing. -/
theorem set_eq_self (entries : Dictionary κ α) (key : κ) (value : α)
    (present : get? entries key = some value) : set key value entries = entries := by
  induction entries with
  | nil => simp [get?] at present
  | cons entry rest ih =>
    obtain ⟨first, old⟩ := entry
    by_cases same : (first == key) = true
    · have equal : old = value := by simpa [get?, same] using present
      simp [set, same, equal]
    · have tail : get? rest key = some value := by simpa [get?, same] using present
      simp [set, same, ih tail]

/-- A key that is found is there with its value. -/
theorem mem_of_get? [LawfulBEq κ] {entries : Dictionary κ α} {key : κ} {value : α}
    (found : get? entries key = some value) : (key, value) ∈ entries := by
  induction entries with
  | nil => simp [get?] at found
  | cons entry rest ih =>
    obtain ⟨first, held⟩ := entry
    by_cases same : (first == key) = true
    · have equal : held = value := by simpa [get?, same] using found
      simp [eq_of_beq same, equal]
    · have tail : get? rest key = some value := by simpa [get?, same] using found
      exact List.mem_cons_of_mem _ (ih tail)

/-- Where no key occurs twice, every value is found under its key. -/
theorem get?_of_mem [LawfulBEq κ] {entries : Dictionary κ α} {key : κ} {value : α}
    (distinct : (keys entries).Nodup) (member : (key, value) ∈ entries) :
    get? entries key = some value := by
  induction entries with
  | nil => simp at member
  | cons entry rest ih =>
    obtain ⟨first, held⟩ := entry
    rw [keys, List.map_cons, List.nodup_cons] at distinct
    rcases List.mem_cons.mp member with here | later
    · cases here
      simp [get?]
    · have different : first ≠ key := by
        rintro rfl
        exact distinct.1 (List.mem_map.mpr ⟨_, later, rfl⟩)
      simp [get?, different, ih distinct.2 later]

/-- A key is there exactly if it has a value. -/
theorem mem_keys_iff [LawfulBEq κ] (entries : Dictionary κ α) (key : κ) :
    key ∈ keys entries ↔ ∃ value, get? entries key = some value := by
  induction entries with
  | nil => simp [keys, get?]
  | cons entry rest ih =>
    obtain ⟨other, held⟩ := entry
    rw [keys] at ih ⊢
    by_cases same : other = key
    · simp [get?, same]
    · simp [get?, same, Ne.symm same, ← ih]

/-- After setting a key an entry was there before or is the one that was set. -/
theorem mem_set [LawfulBEq κ] {entries : Dictionary κ α} {key : κ} {value : α} {entry : κ × α}
    (member : entry ∈ set key value entries) : entry ∈ entries ∨ entry = (key, value) := by
  induction entries with
  | nil => exact .inr (by simpa [set] using member)
  | cons head rest ih =>
    obtain ⟨first, old⟩ := head
    by_cases same : (first == key) = true
    · have equal : first = key := eq_of_beq same
      rw [set, if_pos same, List.mem_cons] at member
      rcases member with rfl | later
      · exact .inr (by rw [equal])
      · exact .inl (List.mem_cons_of_mem _ later)
    · rw [set, if_neg same, List.mem_cons] at member
      rcases member with rfl | later
      · exact .inl List.mem_cons_self
      · exact (ih later).imp_left (List.mem_cons_of_mem _)

/-- A key is among the keys after setting one exactly if it was there or is that one. -/
theorem mem_keys_set [LawfulBEq κ] (entries : Dictionary κ α) (key : κ) (value : α) (other : κ) :
    other ∈ keys (set key value entries) ↔ other ∈ keys entries ∨ other = key := by
  induction entries with
  | nil => simp [set, keys]
  | cons entry rest ih =>
    obtain ⟨first, old⟩ := entry
    by_cases same : (first == key) = true
    · rw [set, if_pos same, keys_cons, keys_cons, eq_of_beq same]
      constructor
      · exact .inl
      · rintro (before | rfl)
        · exact before
        · exact List.mem_cons_self
    · rw [set, if_neg same, keys_cons, keys_cons, List.mem_cons, ih, List.mem_cons, or_assoc]

/-- Setting a key keeps the keys distinct. -/
theorem nodup_keys_set [LawfulBEq κ] (entries : Dictionary κ α) (key : κ) (value : α)
    (distinct : (keys entries).Nodup) : (keys (set key value entries)).Nodup := by
  induction entries with
  | nil => simp [set, keys]
  | cons entry rest ih =>
    obtain ⟨first, old⟩ := entry
    have split : first ∉ keys rest ∧ (keys rest).Nodup := by
      simpa [keys] using distinct
    by_cases same : (first == key) = true
    · simpa [set, same, keys] using distinct
    · have other : first ≠ key := by
        intro equal
        exact same (by simp [equal])
      have absent : first ∉ keys (set key value rest) := by
        rw [mem_keys_set]
        simp [split.1, other]
      have tail := ih split.2
      simp only [keys] at absent tail ⊢
      simp [set, same, absent, tail]

/-- A new key goes to the end. -/
theorem set_of_not_mem [LawfulBEq κ] {entries : Dictionary κ α} {key : κ} (value : α)
    (absent : key ∉ keys entries) : set key value entries = entries ++ [(key, value)] := by
  induction entries with
  | nil => rfl
  | cons entry rest ih =>
    obtain ⟨other, old⟩ := entry
    rw [keys, List.map_cons, List.mem_cons, not_or] at absent
    simp [set, Ne.symm absent.1, ih absent.2]

theorem ofList_concat (pairs : List (κ × α)) (pair : κ × α) :
    ofList (pairs ++ [pair]) = set pair.1 pair.2 (ofList pairs) := by
  rw [ofList, ofList, List.foldl_append, List.foldl_cons, List.foldl_nil]

/-- An entry of a dictionary made of pairs is one of them. -/
theorem mem_of_mem_ofList [LawfulBEq κ] {pairs : List (κ × α)} {entry : κ × α}
    (member : entry ∈ ofList pairs) : entry ∈ pairs := by
  have general : ∀ entries : Dictionary κ α,
      entry ∈ pairs.foldl (fun entries pair => set pair.1 pair.2 entries) entries →
        entry ∈ entries ∨ entry ∈ pairs := by
    clear member
    induction pairs with
    | nil => exact fun entries member => .inl member
    | cons pair rest ih =>
      intro entries member
      rcases ih _ member with inside | later
      · rcases mem_set inside with before | rfl
        · exact .inl before
        · exact .inr List.mem_cons_self
      · exact .inr (List.mem_cons_of_mem _ later)
  exact (general [] member).resolve_left List.not_mem_nil

/-- A dictionary made of pairs has each key once. -/
theorem nodup_keys_ofList [LawfulBEq κ] (pairs : List (κ × α)) :
    (keys (ofList pairs)).Nodup := by
  have general : ∀ entries : Dictionary κ α, (keys entries).Nodup →
      (keys (pairs.foldl (fun entries pair => set pair.1 pair.2 entries) entries)).Nodup := by
    induction pairs with
    | nil => intro entries distinct; exact distinct
    | cons pair rest ih =>
      intro entries distinct
      exact ih _ (nodup_keys_set entries pair.1 pair.2 distinct)
  exact general [] (by simp [keys])

end Dictionary

end HtmlNesting
