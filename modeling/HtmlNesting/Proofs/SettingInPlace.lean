import HtmlNesting.Proofs.Assigning
import HtmlNesting.Proofs.HeldCasts

/-!
# Setting a value in place

Setting a value changes dictionaries where they are. If it fails, it has changed nothing, whatever
the store is like: once a dictionary was made on the way, nothing can fail any more
(`assign_unmade`).

If no list or dictionary is in two parts of the settings, and none of them is in the new value, the
settings are read afterwards as what setting the value gives for settings without places
(`Reads.assign`). What other keys lead to is then the same held value as before, read as before
(`Changed`). Where the settings share a dictionary with something, a change of the one is seen in
the other.
-/

namespace HtmlNesting.Store

variable {store other : Store}

/-! ## Changes of a dictionary -/

theorem entriesAt_of_getElem? {place : Nat} {entries : Dictionary Scalar Held}
    (here : store.objects[place]? = some (.dictionary entries)) : store.entriesAt place = entries := by
  rw [entriesAt, objectAt_of_getElem? here]

theorem getElem?_of_objectAt {place : Nat} {entries : Dictionary Scalar Held}
    (here : store.objectAt place = .dictionary entries) :
    store.objects[place]? = some (.dictionary entries) := by
  rw [objectAt] at here
  cases found : store.objects[place]? with
  | none =>
    rw [found] at here
    cases here
  | some object =>
    rw [found] at here
    exact congrArg some here

@[simp] theorem length_setKey (store : Store) (place : Nat) (key : Scalar) (held : Held) :
    (store.setKey place key held).objects.length = store.objects.length :=
  List.length_set

theorem getElem?_setKey_self {place : Nat} {entries : Dictionary Scalar Held}
    (here : store.objects[place]? = some (.dictionary entries)) (key : Scalar) (held : Held) :
    (store.setKey place key held).objects[place]? =
      some (.dictionary (Dictionary.set key held entries)) := by
  rw [setKey, entriesAt_of_getElem? here]
  exact List.getElem?_set_self (lt_length_of_getElem? here)

theorem getElem?_setKey_of_ne {place foot : Nat} (different : foot ≠ place) (key : Scalar)
    (held : Held) : (store.setKey place key held).objects[foot]? = store.objects[foot]? :=
  List.getElem?_set_ne different.symm

/-- A change of one dictionary is not seen elsewhere. -/
theorem agrees_setKey {place : Nat} {feet : List Nat} (outside : place ∉ feet) (key : Scalar)
    (held : Held) : Agrees store (store.setKey place key held) feet := by
  intro foot member
  have different : foot ≠ place := by
    rintro rfl
    exact outside member
  exact getElem?_setKey_of_ne different key held

/-- A new dictionary, put under a key of another one. -/
theorem getElem?_setKey_add {place : Nat} (inside : place < store.objects.length) (key : Scalar) :
    ((store.add (.dictionary [])).1.setKey place key (.object store.objects.length)).objects[
      store.objects.length]? = some (.dictionary []) := by
  rw [getElem?_setKey_of_ne (Nat.ne_of_gt inside), getElem?_add]

/-! ## Failures -/

variable {limits : Limits} {value : Held}

/-- In an empty dictionary a value can always be stored. -/
theorem assign_of_empty (limits : Limits) (value : Held) (keys : List String) {place : Nat}
    (here : store.objects[place]? = some (.dictionary [])) :
    ∃ uncast, (store.assign limits value keys place).2 = .stored uncast := by
  induction keys generalizing store place with
  | nil => exact ⟨none, rfl⟩
  | cons key rest ih =>
    have nothing : Dictionary.get? (store.entriesAt place) (.text key) = none := by
      rw [entriesAt_of_getElem? here]
      rfl
    cases rest with
    | nil =>
      rw [assign, nothing]
      exact ⟨none, rfl⟩
    | cons next rest =>
      simp only [assign, nothing]
      exact ih (getElem?_setKey_add (lt_length_of_getElem? here) _)

/-- An assignment that fails has changed nothing. -/
theorem assign_unmade {keys : List String} {place : Nat} {entries : Dictionary Scalar Held}
    (here : store.objects[place]? = some (.dictionary entries))
    (unmade : ∀ uncast, (store.assign limits value keys place).2 ≠ .stored uncast) :
    (store.assign limits value keys place).1 = store := by
  fun_induction assign limits value keys store place generalizing entries with
  | case1 store place => rfl
  | case2 key store place cast uncast isCast => exact absurd rfl (unmade uncast)
  | case3 key store place fault failed => rfl
  | case4 key next rest store place absent ih =>
    -- The dictionary that was made is empty, so the rest does not fail.
    obtain ⟨uncast, stored⟩ := assign_of_empty limits value (next :: rest)
      (getElem?_setKey_add (lt_length_of_getElem? here) (.text key))
    exact absurd stored (unmade uncast)
  | case5 key next rest store place scalar found => rfl
  | case6 key next rest store place inner found entries isDictionary ih =>
    exact ih (getElem?_of_objectAt isDictionary) unmade
  | case7 => rfl

/-! ## Changes -/

/-- A store after a change of the dictionary at a place where some keys lead. Only objects at its
feet have changed. It is read as some entries, through older feet, those of the new value and new
ones. Keys that lead neither towards the end of the given ones nor further on from it lead to what
they led to before. -/
structure Changed (store after : Store) (keys : List String) (place : Nat)
    (values : Dictionary Scalar Json) (feet others : List Nat) : Prop where
  longer : store.objects.length ≤ after.objects.length
  elsewhere : ∀ foot < store.objects.length, foot ∉ feet →
    after.objects[foot]? = store.objects[foot]?
  reads : ∃ newFeet, after.Reads (.object place) (.dictionary values) newFeet ∧ newFeet.Nodup ∧
    ∀ foot ∈ newFeet, foot ∈ feet ∨ foot ∈ others ∨ store.objects.length ≤ foot
  apart : ∀ ways, ¬ keys <+: ways → ¬ ways <+: keys → Kept store after (.object place) ways

namespace Changed

variable {after : Store} {place : Nat} {values : Dictionary Scalar Json}
  {before inner behind newFeet feet others : List Nat}

theorem refl (reads : store.Reads (.object place) (.dictionary values) feet)
    (apart : (feet ++ others).Nodup) (keys : List String) :
    Changed store store keys place values feet others where
  longer := Nat.le_refl _
  elsewhere := fun _ _ _ => rfl
  reads := ⟨feet, reads, (List.nodup_append.mp apart).1, fun _ member => .inl member⟩
  apart := fun ways _ _ => reads.kept (fun _ _ => rfl) ways

/-- Feet that are exchanged for others keep apart from the rest. -/
theorem nodup_exchange {bound : Nat} (apart : (before ++ inner ++ behind ++ others).Nodup)
    (bounded : ∀ foot ∈ before ++ inner ++ behind, foot < bound) (once : newFeet.Nodup)
    (within : ∀ foot ∈ newFeet, foot ∈ inner ∨ foot ∈ others ∨ bound ≤ foot) :
    (before ++ newFeet ++ behind).Nodup := by
  simp only [List.nodup_append, List.mem_append] at apart bounded ⊢
  grind

end Changed

/-- A dictionary is held at a place, apart from some other feet, and something is read under a key
of it or there is nothing. -/
structure Opened (store : Store) (place : Nat) (key : Scalar) (entries : Dictionary Scalar Held)
    (values : Dictionary Scalar Json) (before inner behind others : List Nat) : Prop where
  here : store.objects[place]? = some (.dictionary entries)
  found : store.ReadsOption (Dictionary.get? entries key) (Dictionary.get? values key) inner
  exchange : ∀ {after newHeld newValue newFeet}, Agrees store after (before ++ behind) →
    after.Reads newHeld newValue newFeet →
    after.ReadsEntries (Dictionary.set key newHeld entries) (Dictionary.set key newValue values)
      (before ++ newFeet ++ behind)
  apart : (place :: (before ++ inner ++ behind) ++ others).Nodup
  bounded : ∀ foot ∈ place :: (before ++ inner ++ behind), foot < store.objects.length

/-- Every held dictionary opens at every key. -/
theorem Reads.opened {place : Nat} {values : Dictionary Scalar Json} {feet others : List Nat}
    (reads : store.Reads (.object place) (.dictionary values) feet)
    (apart : (feet ++ others).Nodup) (key : Scalar) :
    ∃ entries before inner behind, feet = place :: (before ++ inner ++ behind) ∧
      Opened store place key entries values before inner behind others := by
  have bounded := reads.lt_length
  cases reads with
  | dictionary here entriesRead =>
    obtain ⟨before, inner, behind, rfl, found, exchange⟩ := entriesRead.get? key
    exact ⟨_, before, inner, behind, rfl, here, found, exchange, apart, bounded⟩

namespace Opened

variable {place : Nat} {entries : Dictionary Scalar Held} {values : Dictionary Scalar Json}
  {before inner behind others : List Nat} {key : String} {rest : List String}
  (opened : Opened store place (.text key) entries values before inner behind others)
include opened

theorem lt_length : place < store.objects.length :=
  lt_length_of_getElem? opened.here

theorem not_mem_inner : place ∉ inner := by
  have apart := opened.apart
  simp only [List.cons_append, List.nodup_cons, List.mem_append] at apart
  tauto

theorem not_mem_others : place ∉ others := by
  have apart := opened.apart
  simp only [List.cons_append, List.nodup_cons, List.mem_append] at apart
  tauto

theorem nodup_inner : (inner ++ others).Nodup := by
  have apart := opened.apart
  simp only [List.cons_append, List.nodup_cons, List.nodup_append, List.mem_append] at apart ⊢
  grind

/-- Where nothing changes but the dictionary itself and what is under the key, the other entries are
the same. -/
theorem agrees_of_elsewhere {after : Store}
    (elsewhere : ∀ foot < store.objects.length, foot ∉ place :: inner →
      after.objects[foot]? = store.objects[foot]?) : Agrees store after (before ++ behind) := by
  intro foot member
  have apart := opened.apart
  have bounded := opened.bounded foot
  simp only [List.nodup_cons, List.nodup_append, List.mem_append, List.cons_append,
    List.mem_cons] at apart bounded member
  refine elsewhere foot (bounded (by tauto)) ?_
  rw [List.mem_cons]
  grind

/-- Another key leads to what it led to before, if the other entries are the same. -/
theorem kept_of_ne {after : Store} {newHeld : Held} {first : String} (different : first ≠ key)
    (agrees : Agrees store after (before ++ behind))
    (here : after.objects[place]? =
      some (.dictionary (Dictionary.set (.text key) newHeld entries)))
    (ways : List String) : Kept store after (.object place) (first :: ways) := by
  have otherKey : Scalar.text first ≠ .text key := by simpa using different
  refine .cons opened.here here (Dictionary.get?_set_of_ne _ _ _ _ otherKey) ?_
  -- With a null under the key only the feet of the other entries are left.
  obtain ⟨_, feet, _, split, found, -⟩ :=
    (opened.exchange (fun _ _ => rfl) (Reads.scalar .null)).get? (.text first)
  rw [Dictionary.get?_set_of_ne _ _ _ _ otherKey] at found
  have part : feet ⊆ before ++ behind := by
    intro foot member
    have listed : foot ∈ before ++ [] ++ behind := by
      rw [split]
      exact List.mem_append_left _ (List.mem_append_right _ member)
    rwa [List.append_nil] at listed
  intro inner isHeld
  rw [isHeld] at found
  match Dictionary.get? _ (Scalar.text first), found with
  | _, .some reads => exact reads.kept (agrees.subset part) ways

/-- A change below the key of a dictionary is one of the dictionary. -/
theorem changed {after : Store} {newHeld : Held} {newValue : Json} {newFeet : List Nat}
    (longer : store.objects.length ≤ after.objects.length)
    (elsewhere : ∀ foot < store.objects.length, foot ∉ place :: inner →
      after.objects[foot]? = store.objects[foot]?)
    (here : after.objects[place]? =
      some (.dictionary (Dictionary.set (.text key) newHeld entries)))
    (newReads : after.Reads newHeld newValue newFeet) (once : newFeet.Nodup)
    (within : ∀ foot ∈ newFeet, foot ∈ inner ∨ foot ∈ others ∨ store.objects.length ≤ foot)
    (below : ∀ ways, ¬ rest <+: ways → ¬ ways <+: rest →
      Kept store after (.object place) (key :: ways)) :
    Changed store after (key :: rest) place (Dictionary.set (.text key) newValue values)
      (place :: (before ++ inner ++ behind)) others where
  longer := longer
  elsewhere := by
    intro foot inside outside
    refine elsewhere foot inside fun member => outside ?_
    simp only [List.mem_cons, List.mem_append] at member ⊢
    tauto
  reads := by
    have agrees := opened.agrees_of_elsewhere elsewhere
    refine ⟨_, .dictionary here (opened.exchange agrees newReads), ?_, ?_⟩
    · have apart : ((place :: before) ++ inner ++ behind ++ others).Nodup := opened.apart
      exact Changed.nodup_exchange apart opened.bounded once within
    · intro foot member
      have isWithin := within foot
      simp only [List.mem_cons, List.mem_append] at member ⊢
      tauto
  apart := by
    intro ways notFurther notTowards
    cases ways with
    | nil => exact absurd List.nil_prefix notTowards
    | cons first ways =>
      by_cases same : first = key
      · subst same
        simp only [List.cons_prefix_cons, true_and] at notFurther notTowards
        exact below ways notFurther notTowards
      · exact opened.kept_of_ne same (opened.agrees_of_elsewhere elsewhere) here ways

/-- A change of the dictionary under a key is one of the dictionary. -/
theorem changed_below {after : Store} {innerPlace : Nat} {innerValues : Dictionary Scalar Json}
    (isHeld : Dictionary.get? entries (.text key) = some (.object innerPlace))
    (below : Changed store after rest innerPlace innerValues inner others) :
    Changed store after (key :: rest) place
      (Dictionary.set (.text key) (.dictionary innerValues) values)
      (place :: (before ++ inner ++ behind)) others := by
  obtain ⟨newFeet, newReads, once, within⟩ := below.reads
  have here : after.objects[place]? = some (.dictionary entries) := by
    rw [below.elsewhere place opened.lt_length opened.not_mem_inner, opened.here]
  refine opened.changed below.longer ?_ ?_ newReads once within ?_
  · intro foot inside outside
    exact below.elsewhere foot inside fun member => outside (List.mem_cons_of_mem _ member)
  · rw [here, Dictionary.set_eq_self entries (.text key) _ isHeld]
  · intro ways notFurther notTowards
    refine .cons opened.here here rfl fun found => ?_
    rw [isHeld] at found
    cases found
    exact below.apart ways notFurther notTowards

/-- What a cast gives is put under a key. -/
theorem changed_addCast {cast : Cast Held} {image : Cast Json} {value : Held} {new : Json}
    (newReads : store.Reads value new others) (casts : store.ReadsCastWithin others cast image) :
    Changed store ((store.addCast cast).1.setKey place (.text key) (store.addCast cast).2) [key]
      place (Dictionary.set (.text key) (Json.ofCast image) values)
      (place :: (before ++ inner ++ behind)) others := by
  obtain ⟨grows, newFeet, storedReads, once, within⟩ :=
    casts.addCast (List.nodup_append.mp opened.nodup_inner).2.1 newReads.lt_length
  have outside : place ∉ newFeet := by
    intro member
    rcases within place member with other | isNew
    · exact opened.not_mem_others other
    · exact Nat.not_le_of_lt opened.lt_length isNew
  refine opened.changed ?_ ?_ ?_ (storedReads.of_agrees (agrees_setKey outside _ _)) once
    (fun foot member => .inr (within foot member)) fun ways notFurther _ =>
      absurd List.nil_prefix notFurther
  · rw [length_setKey]
    exact grows.length_le
  · intro foot inside outside
    rw [getElem?_setKey_of_ne (List.ne_of_not_mem_cons outside), getElem?_of_grows grows inside]
  · exact getElem?_setKey_self ((getElem?_of_grows grows opened.lt_length).trans opened.here) _ _

/-- A change of a new dictionary under a new key is one of the dictionary. -/
theorem changed_add {after : Store} {innerValues : Dictionary Scalar Json}
    (absent : Dictionary.get? entries (.text key) = none)
    (below : Changed
      ((store.add (.dictionary [])).1.setKey place (.text key) (.object store.objects.length)) after
      rest store.objects.length innerValues [store.objects.length] others) :
    Changed store after (key :: rest) place
      (Dictionary.set (.text key) (.dictionary innerValues) values)
      (place :: (before ++ inner ++ behind)) others := by
  have grows := store.prefix_add (.dictionary [])
  have oneMore : ((store.add (.dictionary [])).1.setKey place (.text key)
      (.object store.objects.length)).objects.length = store.objects.length + 1 := by
    rw [length_setKey]
    exact List.length_append
  have longer := below.longer
  rw [oneMore] at longer
  have unchanged : ∀ foot < store.objects.length, after.objects[foot]? =
      ((store.add (.dictionary [])).1.setKey place (.text key)
        (.object store.objects.length)).objects[foot]? := by
    intro foot inside
    refine below.elsewhere foot (by omega) ?_
    rw [List.mem_singleton]
    exact Nat.ne_of_lt inside
  have here : after.objects[place]? = some (.dictionary
      (Dictionary.set (.text key) (.object store.objects.length) entries)) := by
    rw [unchanged place opened.lt_length]
    exact getElem?_setKey_self ((getElem?_of_grows grows opened.lt_length).trans opened.here) _ _
  obtain ⟨newFeet, newReads, once, within⟩ := below.reads
  refine opened.changed (by omega) ?_ here newReads once ?_ ?_
  · intro foot inside outside
    rw [unchanged foot inside, getElem?_setKey_of_ne (List.ne_of_not_mem_cons outside),
      getElem?_of_grows grows inside]
  · intro foot member
    rcases within foot member with isNew | other | isNew
    · exact .inr (.inr (Nat.le_of_eq (List.mem_singleton.mp isNew).symm))
    · exact .inr (.inl other)
    · exact .inr (.inr (by omega))
  · -- Before there was nothing under the key, and after it there is only the way to the new value.
    intro ways notFurther notTowards
    have nothing : store.find? (.object place) (key :: ways) = none := by
      rw [find?_of_getElem? opened.here, absent]
      rfl
    refine ⟨?_, fun found => by rw [nothing] at found; cases found⟩
    rw [nothing, find?_of_getElem? here, Dictionary.get?_set_self, Option.bind_some,
      (below.apart ways notFurther notTowards).leads]
    cases ways with
    | nil => exact absurd List.nil_prefix notTowards
    | cons first ways => exact find?_of_getElem? (getElem?_setKey_add opened.lt_length _) _ _

end Opened

/-- Storing a held value ends as storing what it is read as, and changes what is read in the same
way. -/
theorem Reads.assign (limits : Limits) (keys : List String) {value : Held} {new : Json}
    {others : List Nat} {place : Nat} {values : Dictionary Scalar Json} {feet : List Nat}
    (reads : store.Reads (.object place) (.dictionary values) feet)
    (newReads : store.Reads value new others) (apart : (feet ++ others).Nodup) :
    (store.assign limits value keys place).2 = (Settings.assign limits new keys values).2 ∧
      Changed store (store.assign limits value keys place).1 keys place
        (Settings.assign limits new keys values).1 feet others := by
  induction keys generalizing store place values feet with
  | nil => exact ⟨rfl, .refl reads apart []⟩
  | cons key rest ih =>
    have unchanged := Changed.refl reads apart (key :: rest)
    obtain ⟨entries, before, inner, behind, rfl, opened⟩ := reads.opened apart (.text key)
    have found := opened.found
    cases rest with
    | nil =>
      rw [Store.assign, Settings.assign, Settings.casted, entriesAt_of_getElem? opened.here]
      have alike := newReads.castOver limits (List.nodup_append.mp apart).2.1 found
      generalize store.view.castOver limits (Dictionary.get? entries (.text key)) value = result
        at alike
      generalize Json.view.castOver limits (Dictionary.get? values (.text key)) new = image at alike
      cases alike with
      | error fault => exact ⟨rfl, unchanged⟩
      | @ok result image related =>
        obtain ⟨cast, uncast⟩ := result
        obtain ⟨image, same⟩ := image
        obtain ⟨casts, rfl⟩ := related
        exact ⟨rfl, opened.changed_addCast newReads casts⟩
    | cons next rest =>
      rw [Store.assign, Settings.assign, entriesAt_of_getElem? opened.here]
      generalize isHeld : Dictionary.get? entries (.text key) = present at found
      generalize Dictionary.get? values (.text key) = presentValue at found
      cases found with
      | none =>
        have grown : store.add (.dictionary []) |>.1.Reads value new others :=
          newReads.of_grows (store.prefix_add _)
        have newApart : ([store.objects.length] ++ others).Nodup := by
          refine List.nodup_cons.mpr ⟨fun member => ?_, (List.nodup_append.mp apart).2.1⟩
          exact Nat.lt_irrefl _ (newReads.lt_length _ member)
        have below := ih (.dictionary (getElem?_setKey_add opened.lt_length (.text key)) .nil)
          (grown.of_agrees (agrees_setKey opened.not_mem_others _ _)) newApart
        exact ⟨below.1, opened.changed_add isHeld below.2⟩
      | some innerReads =>
        cases innerReads with
        | scalar plain => cases plain <;> exact ⟨rfl, unchanged⟩
        | list here inside =>
          simp only [objectAt_of_getElem? here]
          exact ⟨rfl, unchanged⟩
        | dictionary here inside =>
          have below := ih (.dictionary here inside) newReads opened.nodup_inner
          simp only [objectAt_of_getElem? here]
          exact ⟨below.1, opened.changed_below isHeld below.2⟩

/-! ## Setting values -/

/-- Some values are held apart: they are read as values, and no list or dictionary is in two of them
or in two parts of one. -/
def HeldApart (store : Store) (helds : List Held) (values : List Json) : Prop :=
  ∃ feet, store.ReadsItems helds values feet ∧ feet.Nodup

theorem set_eq_assign {place : Nat} {entries : Dictionary Scalar Held}
    (here : store.objects[place]? = some (.dictionary entries)) (limits : Limits) (path : String)
    (value : Held) : store.set limits (.object place) path value =
      { store := (store.assign limits value (Settings.keysOf path) place).1
        made := (store.assign limits value (Settings.keysOf path) place).2.made
        notices := (store.assign limits value (Settings.keysOf path) place).2.notices path } := by
  simp only [set, objectAt_of_getElem? here]

/-- Setting a value that fails has changed nothing, in any store. -/
theorem set_unmade (limits : Limits) (root value : Held) (path : String)
    (unmade : (store.set limits root path value).made ≠ .ok true) :
    (store.set limits root path value).store = store := by
  cases root with
  | scalar plain => rfl
  | object place =>
    cases here : store.objectAt place with
    | dictionary entries =>
      have isThere := getElem?_of_objectAt here
      rw [set_eq_assign isThere] at unmade ⊢
      refine assign_unmade isThere fun uncast stored => unmade ?_
      simp only [stored, Settings.Assignment.made]
    | _ => simp only [set, here]

/-- Where the settings and a new value are held apart, setting the value ends as it does for what
they are read as. The settings are held apart afterwards, as what they have become, and other keys
lead to what they led to before. -/
theorem set_of_heldApart {root value : Held} {entries : Dictionary Scalar Json} {new : Json}
    (heldApart : store.HeldApart [root, value] [.dictionary entries, new]) (limits : Limits)
    (path : String) :
    let change := store.set limits root path value
    let plain := Settings.set limits (.dictionary entries) path new
    change.made = plain.made ∧ change.notices = plain.notices ∧
      change.store.HeldApart [root] [plain.settings] ∧
      ∀ ways, ¬ Settings.keysOf path <+: ways → ¬ ways <+: Settings.keysOf path →
        Kept store change.store root ways := by
  intro change plain
  obtain ⟨feet, reads, apart⟩ := heldApart
  cases reads with
  | cons rootReads others =>
    cases others with
    | cons newReads none =>
      cases none
      obtain ⟨place, _, rfl, here⟩ := rootReads.place_of_dictionary
      rw [List.append_nil] at apart
      obtain ⟨sameEnd, changed⟩ := rootReads.assign limits (Settings.keysOf path) newReads apart
      obtain ⟨newFeet, reads, once, -⟩ := changed.reads
      simp only [change, plain, Settings.set, set_eq_assign here, sameEnd]
      refine ⟨trivial, trivial, ⟨newFeet, ?_, once⟩, changed.apart⟩
      rw [← List.append_nil newFeet]
      exact .cons reads .nil

/-- Keys that lead to the same held value give the same, whatever the default. -/
theorem Kept.lookup_eq {after : Store} {root : Held} {path : String}
    (kept : Kept store after root (Settings.keysOf path)) (default : Held) :
    after.lookup root path default = store.lookup root path default := by
  rw [lookup, lookup, kept.leads]

/-- A dotted key gives what it leads to, or the default if that is null. -/
theorem lookup_of_heldApart {root : Held} {settings stored : Json} {path : String}
    (heldApart : store.HeldApart [root] [settings])
    (found : Settings.find? settings (Settings.keysOf path) = some stored) :
    ∃ held feet, store.find? root (Settings.keysOf path) = some held ∧
      store.Reads held stored feet ∧
      ∀ default, store.lookup root path default = if stored.isNull then default else held := by
  obtain ⟨feet, reads, -⟩ := heldApart
  cases reads with
  | cons rootReads none =>
    obtain ⟨inner, leads, -⟩ := rootReads.find? (Settings.keysOf path)
    rw [found] at leads
    match isHeld : store.find? root (Settings.keysOf path), leads with
    | _, .some reads =>
      refine ⟨_, inner, rfl, reads, fun default => ?_⟩
      rw [lookup, isHeld]
      cases reads with
      | scalar plain => cases plain <;> rfl
      | list here inside => rfl
      | dictionary here inside => rfl

/-- New values are held apart. -/
theorem heldApart_addItems (store : Store) (values : List Json) :
    (store.addItems values).1.HeldApart (store.addItems values).2 values := by
  obtain ⟨-, feet, reads, areNew⟩ := store.readsItems_addItems values
  exact ⟨feet, reads, areNew.once⟩

/-- Settings with two dictionaries, and a number for one of them. -/
def workerSettings : Dictionary Scalar Json := [
  ("lint", .dictionary [("workers", .integer 4)]),
  ("debug", .dictionary [("level", .text "INFO")])]

def workerStore : Store :=
  (addItems {} [.dictionary workerSettings, .text "8"]).1

-- A dictionary that is stored under a second key is seen to change from there.
example :
    let limits : Limits := { nesting := 1, showing := 1, searching := 1 }
    let shared := (workerStore.set limits (.object 2) "backup" (.object 0)).store
    let after := (shared.set limits (.object 2) "lint.workers" (.scalar (.integer 8))).store
    shared.lookup (.object 2) "backup.workers" (.scalar .null) = .scalar (.integer 4) ∧
      after.lookup (.object 2) "backup.workers" (.scalar .null) = .scalar (.integer 8) :=
  ⟨rfl, rfl⟩

end HtmlNesting.Store
