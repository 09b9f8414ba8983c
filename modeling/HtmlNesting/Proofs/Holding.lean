import HtmlNesting.Settings.Store

/-!
# Values held in a store

`Reads` says what a held value is read as, and through which places: its feet. Where no place occurs
twice among the feet, no list or dictionary is in two parts of the value. What a value is read as
depends on the objects at its feet alone (`Reads.of_agrees`), and so another object may change
without it.

Keys lead through a held value as they lead through what it is read as (`Reads.find?`), and an entry
of a dictionary can be exchanged for another one (`ReadsEntries.get?`).
-/

namespace HtmlNesting.Store

/-! ## Stores with the same objects -/

/-- Two stores have the same objects at some places. -/
def Agrees (store other : Store) (feet : List Nat) : Prop :=
  ∀ place ∈ feet, other.objects[place]? = store.objects[place]?

theorem getElem?_of_grows {store other : Store} (grows : store.objects <+: other.objects)
    {place : Nat} (inside : place < store.objects.length) :
    other.objects[place]? = store.objects[place]? := by
  rw [List.prefix_iff_getElem?.mp grows place inside, List.getElem?_eq_getElem inside]

namespace Agrees

variable {store other : Store} {feet part : List Nat}

theorem subset (agrees : Agrees store other feet) (inside : part ⊆ feet) :
    Agrees store other part :=
  fun place member => agrees place (inside member)

theorem head {place : Nat} (agrees : Agrees store other (place :: feet)) :
    other.objects[place]? = store.objects[place]? :=
  agrees place List.mem_cons_self

theorem tail {place : Nat} (agrees : Agrees store other (place :: feet)) :
    Agrees store other feet :=
  agrees.subset (List.subset_cons_self place feet)

theorem left (agrees : Agrees store other (feet ++ part)) : Agrees store other feet :=
  agrees.subset (List.subset_append_left feet part)

theorem right (agrees : Agrees store other (feet ++ part)) : Agrees store other part :=
  agrees.subset (List.subset_append_right feet part)

/-- What is added to a store changes nothing that was there. -/
theorem of_grows (grows : store.objects <+: other.objects)
    (bounded : ∀ place ∈ feet, place < store.objects.length) : Agrees store other feet :=
  fun place member => getElem?_of_grows grows (bounded place member)

end Agrees

/-! ## Reading -/

mutual

/-- A value in a store is read as a value, through some places. -/
inductive Reads (store : Store) : Held → Json → List Nat → Prop where
  | scalar (value : Scalar) : Reads store (.scalar value) value.json []
  | list {place : Nat} {items : List Held} {values : List Json} {feet : List Nat}
      (here : store.objects[place]? = some (.list items))
      (inside : ReadsItems store items values feet) :
      Reads store (.object place) (.list values) (place :: feet)
  | dictionary {place : Nat} {entries : Dictionary Scalar Held} {values : Dictionary Scalar Json}
      {feet : List Nat} (here : store.objects[place]? = some (.dictionary entries))
      (inside : ReadsEntries store entries values feet) :
      Reads store (.object place) (.dictionary values) (place :: feet)

/-- So are some values in order. -/
inductive ReadsItems (store : Store) : List Held → List Json → List Nat → Prop where
  | nil : ReadsItems store [] [] []
  | cons {item : Held} {value : Json} {items : List Held} {values : List Json}
      {feet others : List Nat} (first : Reads store item value feet)
      (rest : ReadsItems store items values others) :
      ReadsItems store (item :: items) (value :: values) (feet ++ others)

/-- So are some entries in order, with their keys. -/
inductive ReadsEntries (store : Store) :
    Dictionary Scalar Held → Dictionary Scalar Json → List Nat → Prop where
  | nil : ReadsEntries store [] [] []
  | cons {key : Scalar} {held : Held} {value : Json} {entries : Dictionary Scalar Held}
      {values : Dictionary Scalar Json} {feet others : List Nat}
      (first : Reads store held value feet) (rest : ReadsEntries store entries values others) :
      ReadsEntries store ((key, held) :: entries) ((key, value) :: values) (feet ++ others)

end

variable {store other : Store}

mutual

/-- What a value is read as depends on the objects at its feet alone. -/
theorem Reads.of_agrees {held : Held} {value : Json} {feet : List Nat} :
    store.Reads held value feet → Agrees store other feet → other.Reads held value feet
  | .scalar value, _ => .scalar value
  | .list here inside, agrees =>
    .list (agrees.head.trans here) (ReadsItems.of_agrees inside agrees.tail)
  | .dictionary here inside, agrees =>
    .dictionary (agrees.head.trans here) (ReadsEntries.of_agrees inside agrees.tail)

theorem ReadsItems.of_agrees {items : List Held} {values : List Json} {feet : List Nat} :
    store.ReadsItems items values feet → Agrees store other feet →
      other.ReadsItems items values feet
  | .nil, _ => .nil
  | .cons first rest, agrees =>
    .cons (Reads.of_agrees first agrees.left) (ReadsItems.of_agrees rest agrees.right)

theorem ReadsEntries.of_agrees {entries : Dictionary Scalar Held}
    {values : Dictionary Scalar Json} {feet : List Nat} :
    store.ReadsEntries entries values feet → Agrees store other feet →
      other.ReadsEntries entries values feet
  | .nil, _ => .nil
  | .cons first rest, agrees =>
    .cons (Reads.of_agrees first agrees.left) (ReadsEntries.of_agrees rest agrees.right)

end

theorem lt_length_of_getElem? {place : Nat} {object : Shape Held}
    (here : store.objects[place]? = some object) : place < store.objects.length :=
  (List.getElem?_eq_some_iff.mp here).1

mutual

/-- The feet of a value are places in the store. -/
theorem Reads.lt_length {held : Held} {value : Json} {feet : List Nat} :
    store.Reads held value feet → ∀ place ∈ feet, place < store.objects.length
  | .scalar _, _, member => nomatch member
  | .list here inside, place, member => by
    rcases List.mem_cons.mp member with rfl | later
    · exact lt_length_of_getElem? here
    · exact ReadsItems.lt_length inside place later
  | .dictionary here inside, place, member => by
    rcases List.mem_cons.mp member with rfl | later
    · exact lt_length_of_getElem? here
    · exact ReadsEntries.lt_length inside place later

theorem ReadsItems.lt_length {items : List Held} {values : List Json} {feet : List Nat} :
    store.ReadsItems items values feet → ∀ place ∈ feet, place < store.objects.length
  | .nil, _, member => nomatch member
  | .cons first rest, place, member => by
    rcases List.mem_append.mp member with before | later
    · exact Reads.lt_length first place before
    · exact ReadsItems.lt_length rest place later

theorem ReadsEntries.lt_length {entries : Dictionary Scalar Held}
    {values : Dictionary Scalar Json} {feet : List Nat} :
    store.ReadsEntries entries values feet → ∀ place ∈ feet, place < store.objects.length
  | .nil, _, member => nomatch member
  | .cons first rest, place, member => by
    rcases List.mem_append.mp member with before | later
    · exact Reads.lt_length first place before
    · exact ReadsEntries.lt_length rest place later

end

/-- What is added to a store does not change what is read. -/
theorem Reads.of_grows {held : Held} {value : Json} {feet : List Nat}
    (reads : store.Reads held value feet) (grows : store.objects <+: other.objects) :
    other.Reads held value feet :=
  reads.of_agrees (.of_grows grows reads.lt_length)

/-! ## Entries and keys -/

/-- There is a value on both sides, and the one is read as the other, or there is none. -/
inductive ReadsOption (store : Store) : Option Held → Option Json → List Nat → Prop where
  | none : ReadsOption store none none []
  | some {held : Held} {value : Json} {feet : List Nat} (reads : store.Reads held value feet) :
      ReadsOption store (some held) (some value) feet

/-- The feet of what is found under a key stand in one piece among the others. Anything can be put
there, in any store with the same objects for the other entries. -/
theorem ReadsEntries.get? {entries : Dictionary Scalar Held} {values : Dictionary Scalar Json}
    {feet : List Nat} (reads : store.ReadsEntries entries values feet) (key : Scalar) :
    ∃ before inner behind, feet = before ++ inner ++ behind ∧
      store.ReadsOption (Dictionary.get? entries key) (Dictionary.get? values key) inner ∧
      ∀ {other newHeld newValue newFeet}, Agrees store other (before ++ behind) →
        other.Reads newHeld newValue newFeet →
        other.ReadsEntries (Dictionary.set key newHeld entries)
          (Dictionary.set key newValue values) (before ++ newFeet ++ behind) := by
  induction entries generalizing values feet with
  | nil =>
    cases reads
    refine ⟨[], [], [], rfl, .none, fun _ newReads => ?_⟩
    rw [List.nil_append]
    exact .cons newReads .nil
  | cons entry rest ih =>
    cases reads with
    | @cons first held value _ values feet others firstReads restReads =>
      by_cases same : (first == key) = true
      · simp only [Dictionary.get?, Dictionary.set, if_pos same]
        exact ⟨[], feet, others, rfl, .some firstReads, fun agrees newReads =>
          .cons newReads (restReads.of_agrees agrees)⟩
      · simp only [Dictionary.get?, Dictionary.set, if_neg same]
        obtain ⟨before, inner, behind, rfl, found, exchange⟩ := ih restReads
        refine ⟨feet ++ before, inner, behind, by simp only [List.append_assoc], found, ?_⟩
        intro other newHeld newValue newFeet agrees newReads
        rw [List.append_assoc] at agrees
        rw [show feet ++ before ++ newFeet ++ behind = feet ++ (before ++ newFeet ++ behind) by
          simp only [List.append_assoc]]
        exact .cons (firstReads.of_agrees agrees.left) (exchange agrees.right newReads)

/-- What is read as a dictionary is one at a place. -/
theorem Reads.place_of_dictionary {held : Held} {values : Dictionary Scalar Json}
    {feet : List Nat} (reads : store.Reads held (.dictionary values) feet) :
    ∃ place entries, held = .object place ∧
      store.objects[place]? = some (.dictionary entries) := by
  generalize isDictionary : Json.dictionary values = value at reads
  cases reads with
  | scalar plain => cases plain <;> cases isDictionary
  | list here inside => cases isDictionary
  | dictionary here inside => exact ⟨_, _, rfl, here⟩

theorem objectAt_of_getElem? {place : Nat} {object : Shape Held}
    (here : store.objects[place]? = some object) : store.objectAt place = object := by
  rw [objectAt, here, Option.getD_some]

/-- Keys lead through a held value as they lead through what it is read as. -/
theorem Reads.find? {held : Held} {value : Json} {feet : List Nat}
    (reads : store.Reads held value feet) (keys : List String) :
    ∃ inner, store.ReadsOption (store.find? held keys) (Settings.find? value keys) inner ∧
      inner.Sublist feet := by
  induction keys generalizing held value feet with
  | nil => exact ⟨feet, .some reads, .refl feet⟩
  | cons key rest ih =>
    cases reads with
    | scalar value =>
      refine ⟨[], ?_, .refl []⟩
      cases value <;> exact .none
    | list here inside =>
      refine ⟨[], ?_, List.nil_sublist _⟩
      simp only [Store.find?, shape, objectAt_of_getElem? here, Settings.find?]
      exact .none
    | @dictionary place entries values _ here inside =>
      simp only [Store.find?, shape, objectAt_of_getElem? here, Settings.find?]
      obtain ⟨before, inner, behind, rfl, found, -⟩ := inside.get? (.text key)
      have within : inner.Sublist (before ++ inner ++ behind) :=
        (List.sublist_append_right before inner).trans (List.sublist_append_left _ behind)
      match Dictionary.get? entries (.text key), Dictionary.get? values (.text key), found with
      | _, _, .none => exact ⟨[], .none, List.nil_sublist _⟩
      | _, _, .some reads =>
        obtain ⟨last, leads, part⟩ := ih reads
        exact ⟨last, leads, (part.trans within).trans (List.sublist_cons_self _ _)⟩

/-- What keys lead to depends on the objects at the feet alone. -/
theorem Reads.find?_of_agrees {held : Held} {value : Json} {feet : List Nat}
    (reads : store.Reads held value feet) (agrees : Agrees store other feet)
    (keys : List String) : other.find? held keys = store.find? held keys := by
  induction keys generalizing held value feet with
  | nil => rfl
  | cons key rest ih =>
    cases reads with
    | scalar value => rfl
    | list here inside =>
      simp only [Store.find?, shape, objectAt_of_getElem? here,
        objectAt_of_getElem? (agrees.head.trans here)]
    | @dictionary place entries values _ here inside =>
      simp only [Store.find?, shape, objectAt_of_getElem? here,
        objectAt_of_getElem? (agrees.head.trans here)]
      obtain ⟨before, inner, behind, rfl, found, -⟩ := inside.get? (.text key)
      match Dictionary.get? entries (.text key), Dictionary.get? values (.text key), found with
      | _, _, .none => rfl
      | _, _, .some reads => exact ih reads agrees.tail.left.right

/-- After a change keys lead to the same held value as before, and it is read as before. -/
structure Kept (store after : Store) (held : Held) (keys : List String) : Prop where
  leads : after.find? held keys = store.find? held keys
  reads : ∀ {found}, store.find? held keys = some found →
    ∃ value feet, store.Reads found value feet ∧ after.Reads found value feet

/-- Where the objects at the feet are the same, keys lead to the same. -/
theorem Reads.kept {held : Held} {value : Json} {feet : List Nat}
    (reads : store.Reads held value feet) (agrees : Agrees store other feet)
    (keys : List String) : Kept store other held keys where
  leads := reads.find?_of_agrees agrees keys
  reads := by
    intro found leads
    obtain ⟨inner, held, part⟩ := reads.find? keys
    rw [leads] at held
    match Settings.find? value keys, held with
    | _, .some reads => exact ⟨_, inner, reads, reads.of_agrees (agrees.subset part.subset)⟩

theorem find?_of_getElem? {place : Nat} {entries : Dictionary Scalar Held}
    (here : store.objects[place]? = some (.dictionary entries)) (key : String)
    (rest : List String) : store.find? (.object place) (key :: rest) =
      (Dictionary.get? entries (.text key)).bind fun inner => store.find? inner rest := by
  simp only [find?, shape, objectAt_of_getElem? here]
  cases Dictionary.get? entries (.text key) <;> rfl

/-- If a key leads to the same held value, and keys lead to the same from there, all of them do. -/
theorem Kept.cons {place : Nat} {entries newEntries : Dictionary Scalar Held} {key : String}
    {rest : List String} (here : store.objects[place]? = some (.dictionary entries))
    (newHere : other.objects[place]? = some (.dictionary newEntries))
    (same : Dictionary.get? newEntries (.text key) = Dictionary.get? entries (.text key))
    (below : ∀ {inner}, Dictionary.get? entries (.text key) = some inner →
      Kept store other inner rest) : Kept store other (.object place) (key :: rest) := by
  constructor
  · rw [find?_of_getElem? newHere, find?_of_getElem? here, same]
    cases found : Dictionary.get? entries (.text key) with
    | none => rfl
    | some inner => exact (below found).leads
  · intro held leads
    rw [find?_of_getElem? here] at leads
    obtain ⟨inner, found, further⟩ := Option.bind_eq_some_iff.mp leads
    exact (below found).reads further

/-! ## New values -/

theorem prefix_add (store : Store) (object : Shape Held) :
    store.objects <+: (store.add object).1.objects :=
  List.prefix_append _ _

theorem getElem?_add (store : Store) (object : Shape Held) :
    (store.add object).1.objects[store.objects.length]? = some object :=
  List.getElem?_concat_length

/-- Some places are new to a store, and none of them occurs twice. -/
structure AreNew (store : Store) (feet : List Nat) : Prop where
  once : feet.Nodup
  isNew : ∀ place ∈ feet, store.objects.length ≤ place

namespace AreNew

variable {feet others : List Nat}

theorem nil : AreNew store [] :=
  ⟨.nil, nofun⟩

/-- New places, and others that are new after them. -/
theorem append (first : AreNew store feet) (rest : AreNew other others)
    (bounded : ∀ place ∈ feet, place < other.objects.length)
    (grows : store.objects <+: other.objects) : AreNew store (feet ++ others) := by
  have longer := grows.length_le
  refine ⟨List.nodup_append.mpr ⟨first.once, rest.once, ?_⟩, ?_⟩
  · rintro place member _ later rfl
    exact Nat.not_le_of_lt (bounded place member) (rest.isNew place later)
  · intro place member
    rcases List.mem_append.mp member with before | later
    · exact first.isNew place before
    · exact Nat.le_trans longer (rest.isNew place later)

/-- New places, and one after them. -/
theorem cons_length (inside : AreNew store feet)
    (bounded : ∀ place ∈ feet, place < other.objects.length)
    (grows : store.objects <+: other.objects) :
    AreNew store (other.objects.length :: feet) := by
  refine ⟨List.nodup_cons.mpr ⟨fun member => ?_, inside.once⟩, ?_⟩
  · exact Nat.lt_irrefl _ (bounded _ member)
  · intro place member
    rcases List.mem_cons.mp member with rfl | later
    · exact grows.length_le
    · exact inside.isNew place later

end AreNew

mutual

/-- A new value is read as what it was made of, through new places. -/
theorem reads_addJson (store : Store) : (value : Json) →
    store.objects <+: (store.addJson value).1.objects ∧
      ∃ feet, (store.addJson value).1.Reads (store.addJson value).2 value feet ∧
        AreNew store feet
  | .null => ⟨List.prefix_refl _, [], .scalar .null, .nil⟩
  | .bool value => ⟨List.prefix_refl _, [], .scalar (.bool value), .nil⟩
  | .integer value => ⟨List.prefix_refl _, [], .scalar (.integer value), .nil⟩
  | .decimal value => ⟨List.prefix_refl _, [], .scalar (.decimal value), .nil⟩
  | .text value => ⟨List.prefix_refl _, [], .scalar (.text value), .nil⟩
  | .list items => by
    obtain ⟨grows, feet, reads, areNew⟩ := readsItems_addItems store items
    have further := prefix_add (store.addItems items).1 (.list (store.addItems items).2)
    refine ⟨grows.trans further, _, .list (getElem?_add _ _) (reads.of_agrees ?_),
      areNew.cons_length reads.lt_length grows⟩
    exact .of_grows further reads.lt_length
  | .dictionary entries => by
    obtain ⟨grows, feet, reads, areNew⟩ := readsEntries_addEntries store entries
    have further := prefix_add (store.addEntries entries).1
      (.dictionary (store.addEntries entries).2)
    refine ⟨grows.trans further, _, .dictionary (getElem?_add _ _) (reads.of_agrees ?_),
      areNew.cons_length reads.lt_length grows⟩
    exact .of_grows further reads.lt_length

theorem readsItems_addItems (store : Store) : (values : List Json) →
    store.objects <+: (store.addItems values).1.objects ∧
      ∃ feet, (store.addItems values).1.ReadsItems (store.addItems values).2 values feet ∧
        AreNew store feet
  | [] => ⟨List.prefix_refl _, [], .nil, .nil⟩
  | value :: rest => by
    obtain ⟨grows, feet, reads, areNew⟩ := reads_addJson store value
    obtain ⟨further, others, readsRest, areNewRest⟩ :=
      readsItems_addItems (store.addJson value).1 rest
    exact ⟨grows.trans further, _, .cons (reads.of_grows further) readsRest,
      areNew.append areNewRest reads.lt_length grows⟩

theorem readsEntries_addEntries (store : Store) : (values : List (Scalar × Json)) →
    store.objects <+: (store.addEntries values).1.objects ∧
      ∃ feet, (store.addEntries values).1.ReadsEntries (store.addEntries values).2 values feet ∧
        AreNew store feet
  | [] => ⟨List.prefix_refl _, [], .nil, .nil⟩
  | (key, value) :: rest => by
    obtain ⟨grows, feet, reads, areNew⟩ := reads_addJson store value
    obtain ⟨further, others, readsRest, areNewRest⟩ :=
      readsEntries_addEntries (store.addJson value).1 rest
    exact ⟨grows.trans further, _, .cons (reads.of_grows further) readsRest,
      areNew.append areNewRest reads.lt_length grows⟩

end

end HtmlNesting.Store
