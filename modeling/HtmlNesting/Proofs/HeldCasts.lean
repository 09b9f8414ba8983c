import Mathlib.Data.List.Perm.Subperm
import HtmlNesting.Proofs.Holding

/-!
# Casting held values

A cast sees a value in a store through its outermost part and those of the values inside, so it ends
as the cast of what the value is read as: with the same fault, or with something that is read as the
result (`Reads.castTo`, `Reads.castOver`). A text shows a value that is inside itself only once;
where the feet of a value occur once there is no such value, and the text is the same
(`Reads.shownIn_eq`).

The feet of what a cast gives are among those of the value. A list made of pairs may lose some, and
have the others in another order.
-/

namespace HtmlNesting

/-! ## Results that are alike -/

/-- Two results are the same fault, or are related values. -/
inductive AlikeResults {ε α β : Type} (related : α → β → Prop) : Except ε α → Except ε β → Prop where
  | error (fault : ε) : AlikeResults related (.error fault) (.error fault)
  | ok {first : α} {second : β} (values : related first second) :
      AlikeResults related (.ok first) (.ok second)

namespace AlikeResults

variable {ε α β γ δ : Type} {related : α → β → Prop} {after : γ → δ → Prop}
  {first : Except ε α} {second : Except ε β}

/-- Results that are alike stay so if what is done with their values is. -/
theorem bind {next : α → Except ε γ} {other : β → Except ε δ}
    (results : AlikeResults related first second)
    (step : ∀ {value image}, related value image → AlikeResults after (next value) (other image)) :
    AlikeResults after (first >>= next) (second >>= other) := by
  cases results with
  | error fault => exact .error fault
  | ok values => exact step values

end AlikeResults

namespace View

variable {ν : Type} (view : View ν) {levels : Nat} {around : List Nat} {value : ν}

theorem any_contains_place? (outside : ∀ place, view.place? value = some place → place ∉ around) :
    (view.place? value).toList.any around.contains = false := by
  cases held : view.place? value with
  | none => rfl
  | some place => simpa using outside place held

/-- A list that is not inside itself is shown by its items. -/
theorem shownIn_list {items : List ν} (seen : view.shape value = .list items)
    (outside : ∀ place, view.place? value = some place → place ∉ around) :
    view.shownIn (levels + 1) around value = do
      let texts ← items.mapM (view.shownIn levels ((view.place? value).toList ++ around))
      return "[" ++ String.intercalate ", " texts ++ "]" := by
  rw [shownIn, seen]
  simp only [view.any_contains_place? outside, Bool.false_eq_true, if_false]

/-- A dictionary that is not inside itself is shown by its entries. -/
theorem shownIn_dictionary {entries : Dictionary Scalar ν}
    (seen : view.shape value = .dictionary entries)
    (outside : ∀ place, view.place? value = some place → place ∉ around) :
    view.shownIn (levels + 1) around value = do
      let texts ← entries.mapM fun entry => do
        let key ← view.shownIn levels ((view.place? value).toList ++ around) (view.single entry.1)
        let inner ← view.shownIn levels ((view.place? value).toList ++ around) entry.2
        return key ++ ": " ++ inner
      return "\x7b" ++ String.intercalate ", " texts ++ "\x7d" := by
  rw [shownIn, seen]
  simp only [view.any_contains_place? outside, Bool.false_eq_true, if_false]

end View

namespace Store

variable {store : Store} {held : Held} {value : Json} {items : List Held} {values : List Json}
  {entries : Dictionary Scalar Held} {images : Dictionary Scalar Json} {feet others : List Nat}

/-! ## Outermost parts -/

/-- The outermost part of a value in a store is read as that of a value. -/
inductive ReadsShape (store : Store) : Shape Held → Shape Json → List Nat → Prop where
  | scalar (value : Scalar) : ReadsShape store (.scalar value) (.scalar value) []
  | list {items : List Held} {values : List Json} {feet : List Nat}
      (inside : store.ReadsItems items values feet) :
      ReadsShape store (.list items) (.list values) feet
  | dictionary {entries : Dictionary Scalar Held} {values : Dictionary Scalar Json}
      {feet : List Nat} (inside : store.ReadsEntries entries values feet) :
      ReadsShape store (.dictionary entries) (.dictionary values) feet

theorem Reads.shape (reads : store.Reads held value feet) :
    ∃ inner, store.ReadsShape (store.view.shape held) (Json.view.shape value) inner ∧
      inner.Sublist feet := by
  cases reads with
  | scalar value =>
    refine ⟨[], ?_, .refl []⟩
    rw [show Json.view.shape value.json = .scalar value from Json.shape_json value]
    exact .scalar value
  | list here inside =>
    refine ⟨_, ?_, List.sublist_cons_self _ _⟩
    rw [show store.view.shape (.object _) = _ from objectAt_of_getElem? here]
    exact .list inside
  | dictionary here inside =>
    refine ⟨_, ?_, List.sublist_cons_self _ _⟩
    rw [show store.view.shape (.object _) = _ from objectAt_of_getElem? here]
    exact .dictionary inside

/-- Values without parts are read as they are. -/
theorem readsItems_scalars (store : Store) (values : List Scalar) :
    store.ReadsItems (values.map .scalar) (values.map Scalar.json) [] := by
  induction values with
  | nil => exact .nil
  | cons value rest ih => exact .cons (.scalar value) ih

theorem ReadsEntries.keys_eq (reads : store.ReadsEntries entries images feet) :
    Dictionary.keys entries = Dictionary.keys images := by
  induction entries generalizing images feet with
  | nil =>
    cases reads
    rfl
  | cons entry rest ih =>
    cases reads with
    | cons first rest => rw [Dictionary.keys_cons, Dictionary.keys_cons, ih rest]

/-! ## Members and entries -/

theorem ReadsShape.members {shape : Shape Held} {image : Shape Json}
    (reads : store.ReadsShape shape image feet) :
    AlikeResults (fun items values => ∃ inner, store.ReadsItems items values inner ∧ inner.Sublist feet)
      (store.view.members shape) (Json.view.members image) := by
  cases reads with
  | list inside => exact .ok ⟨_, inside, .refl _⟩
  | @dictionary entries images _ inside =>
    have keys := readsItems_scalars store (Dictionary.keys entries)
    have sameKeys : (Dictionary.keys entries).map Scalar.json =
        images.map fun entry => entry.1.json := by
      rw [inside.keys_eq, Dictionary.keys, List.map_map]
      rfl
    rw [sameKeys, Dictionary.keys, List.map_map] at keys
    exact .ok ⟨[], keys, List.nil_sublist _⟩
  | scalar value =>
    cases value with
    | text words => exact .ok ⟨[], readsItems_scalars store (Scalar.singles words), .refl []⟩
    | _ => exact .error Json.CastFault.unsuitable

/-- A pair is one of values that are read. -/
theorem ReadsShape.asPair {shape : Shape Held} {image : Shape Json}
    (reads : store.ReadsShape shape image feet) :
    AlikeResults (fun pair images => ∃ first second, store.Reads pair.1 images.1 first ∧
        store.Reads pair.2 images.2 second ∧ (first ++ second).Sublist feet)
      (store.view.asPair shape) (Json.view.asPair image) := by
  have members := reads.members
  rw [View.asPair, View.asPair]
  match store.view.members shape, Json.view.members image, members with
  | _, _, .error fault => exact .error fault
  | _, _, .ok ⟨_, .nil, _⟩ => exact .error _
  | _, _, .ok ⟨_, .cons _ .nil, _⟩ => exact .error _
  | _, _, .ok ⟨_, .cons first (.cons second .nil), part⟩ =>
    rw [List.append_nil] at part
    exact .ok ⟨_, _, first, second, part⟩
  | _, _, .ok ⟨_, .cons _ (.cons _ (.cons _ _)), _⟩ => exact .error _

/-- A value is taken as an entry as what it is read as is taken. -/
theorem Reads.asEntry (reads : store.Reads held value feet) :
    AlikeResults (fun entry image => entry.1 = image.1 ∧
        ∃ inner, store.Reads entry.2 image.2 inner ∧ inner.Sublist feet)
      (store.view.asEntry held) (Json.view.asEntry value) := by
  obtain ⟨inner, shapes, part⟩ := reads.shape
  have pairs := shapes.asPair
  rw [View.asEntry, View.asEntry]
  match store.view.asPair (store.view.shape held), Json.view.asPair (Json.view.shape value),
    pairs with
  | _, _, .error fault => exact .error fault
  | .ok (key, inside), .ok (keyImage, insideImage), .ok ⟨first, second, keyReads, reads, both⟩ =>
    obtain ⟨_, keyShapes, -⟩ := keyReads.shape
    dsimp only
    match store.view.shape key, Json.view.shape keyImage, keyShapes with
    | _, _, .scalar key =>
      exact .ok ⟨rfl, second, reads, ((List.sublist_append_right first second).trans both).trans part⟩
    | _, _, .list _ => exact .error _
    | _, _, .dictionary _ => exact .error _

theorem ReadsItems.mapM_asEntry (reads : store.ReadsItems items values feet) :
    AlikeResults (fun pairs images => ∃ inner, store.ReadsEntries pairs images inner ∧
        inner.Sublist feet)
      (items.mapM store.view.asEntry) (values.mapM Json.view.asEntry) := by
  induction items generalizing values feet with
  | nil =>
    cases reads
    exact .ok ⟨[], .nil, .refl []⟩
  | cons item rest ih =>
    cases reads with
    | cons first others =>
      rw [List.mapM_cons, List.mapM_cons]
      refine first.asEntry.bind ?_
      rintro ⟨key, held⟩ ⟨_, image⟩ ⟨rfl, inner, reads, part⟩
      refine (ih others).bind ?_
      rintro pairs images ⟨innerRest, readsRest, partRest⟩
      exact .ok ⟨_, .cons reads readsRest, part.append partRest⟩

/-- One more pair for a dictionary: its feet are added, and those of a value that it replaces go. -/
theorem ReadsEntries.set_memberKey (reads : store.ReadsEntries entries images feet) (key : Scalar)
    (newReads : store.Reads held value others) :
    ∃ after, store.ReadsEntries (Dictionary.set (View.memberKey entries key) held entries)
        (Dictionary.set (View.memberKey images key) value images) after ∧
      after.Subperm (feet ++ others) := by
  have sameKey : View.memberKey images key = View.memberKey entries key := by
    rw [View.memberKey, View.memberKey, reads.keys_eq]
  rw [sameKey]
  obtain ⟨before, inner, behind, rfl, -, exchange⟩ := reads.get? (View.memberKey entries key)
  refine ⟨_, exchange (fun _ _ => rfl) newReads, ?_⟩
  rw [List.subperm_iff_count]
  intro place
  simp only [List.count_append]
  omega

theorem ReadsEntries.foldl_set (entries : Dictionary Scalar Held)
    {pairs : Dictionary Scalar Held} {pairImages : Dictionary Scalar Json}
    (reads : store.ReadsEntries entries images feet)
    (pairsRead : store.ReadsEntries pairs pairImages others) :
    ∃ after, store.ReadsEntries
        (pairs.foldl (fun entries pair =>
          Dictionary.set (View.memberKey entries pair.1) pair.2 entries) entries)
        (pairImages.foldl (fun entries pair =>
          Dictionary.set (View.memberKey entries pair.1) pair.2 entries) images) after ∧
      after.Subperm (feet ++ others) := by
  induction pairs generalizing pairImages entries images feet others with
  | nil =>
    cases pairsRead
    exact ⟨feet, reads, by rw [List.append_nil]⟩
  | cons pair rest ih =>
    cases pairsRead with
    | @cons key held value _ restImages firstFeet restFeet first restRead =>
      obtain ⟨next, nextReads, fewer⟩ := reads.set_memberKey key first
      obtain ⟨after, afterReads, few⟩ := ih _ nextReads restRead
      refine ⟨after, afterReads, few.trans ?_⟩
      rw [← List.append_assoc]
      exact fewer.append (List.Subperm.refl restFeet)

/-- A dictionary made of a value is read as the one made of what the value is read as. -/
theorem ReadsShape.toDictionary {shape : Shape Held} {image : Shape Json}
    (reads : store.ReadsShape shape image feet) :
    AlikeResults (fun entries images => ∃ inner, store.ReadsEntries entries images inner ∧
        inner.Subperm feet)
      (store.view.toDictionary shape) (Json.view.toDictionary image) := by
  have ofMembers : AlikeResults (fun entries images => ∃ inner,
        store.ReadsEntries entries images inner ∧ inner.Subperm feet)
      (do return View.ofPairs (← (← store.view.members shape).mapM store.view.asEntry))
      (do return View.ofPairs (← (← Json.view.members image).mapM Json.view.asEntry)) := by
    refine reads.members.bind ?_
    rintro items values ⟨inner, inside, part⟩
    refine inside.mapM_asEntry.bind ?_
    rintro pairs images ⟨fewer, pairsRead, fewerPart⟩
    obtain ⟨after, afterReads, few⟩ := ReadsEntries.foldl_set [] .nil pairsRead
    exact .ok ⟨after, afterReads, few.trans (fewerPart.trans part).subperm⟩
  cases reads with
  | scalar value => exact ofMembers
  | list inside => exact ofMembers
  | dictionary inside => exact .ok ⟨_, inside, List.Subperm.refl _⟩

/-! ## Texts -/

theorem ReadsItems.mapM_eq {ε γ : Type} {first : Held → Except ε γ} {second : Json → Except ε γ}
    (reads : store.ReadsItems items values feet)
    (same : ∀ {held value inner}, store.Reads held value inner → inner.Sublist feet →
      first held = second value) : items.mapM first = values.mapM second := by
  induction items generalizing values feet with
  | nil =>
    cases reads
    rfl
  | cons item rest ih =>
    cases reads with
    | @cons _ _ _ _ feet others one more =>
      rw [List.mapM_cons, List.mapM_cons, same one (List.sublist_append_left feet others),
        ih more fun reads part => same reads (part.trans (List.sublist_append_right feet others))]

theorem ReadsEntries.mapM_eq {ε γ : Type} {first : Scalar × Held → Except ε γ}
    {second : Scalar × Json → Except ε γ} (reads : store.ReadsEntries entries images feet)
    (same : ∀ {key held value inner}, store.Reads held value inner → inner.Sublist feet →
      first (key, held) = second (key, value)) : entries.mapM first = images.mapM second := by
  induction entries generalizing images feet with
  | nil =>
    cases reads
    rfl
  | cons entry rest ih =>
    cases reads with
    | @cons _ _ _ _ _ feet others one more =>
      rw [List.mapM_cons, List.mapM_cons, same one (List.sublist_append_left feet others),
        ih more fun reads part => same reads (part.trans (List.sublist_append_right feet others))]

/-- If the feet of a value occur once, and not around it, the same is so inside it. -/
theorem apart_inside {place : Nat} {around : List Nat} (apart : (place :: feet).Nodup)
    (outside : ∀ foot ∈ place :: feet, foot ∉ around) :
    place ∉ around ∧ feet.Nodup ∧ ∀ foot ∈ feet, foot ∉ place :: around := by
  rw [List.nodup_cons] at apart
  refine ⟨outside place List.mem_cons_self, apart.2, fun foot member => ?_⟩
  rw [List.mem_cons, not_or]
  exact ⟨fun same => apart.1 (same ▸ member), outside foot (List.mem_cons_of_mem _ member)⟩

/-- A value whose feet occur once, and not around it, is shown as what it is read as. -/
theorem Reads.shownIn_eq (levels : Nat) {around : List Nat} (reads : store.Reads held value feet)
    (apart : feet.Nodup) (outside : ∀ place ∈ feet, place ∉ around) :
    store.view.shownIn levels around held = Json.view.shownIn levels [] value := by
  induction levels generalizing held value feet around with
  | zero => rfl
  | succ levels ih =>
    cases reads with
    | scalar value =>
      have seen : Json.view.shape value.json = .scalar value := Json.shape_json value
      rw [View.shownIn, View.shownIn, seen]
      rfl
    | @list place items values feet here inside =>
      have seen : store.view.shape (.object place) = .list items := objectAt_of_getElem? here
      have inner := apart_inside apart outside
      rw [store.view.shownIn_list seen fun _ same => Option.some.inj same ▸ inner.1,
        Json.view.shownIn_list rfl nofun]
      exact congrArg (· >>= _) (inside.mapM_eq fun reads part =>
        ih reads (inner.2.1.sublist part) fun foot member => inner.2.2 foot (part.subset member))
    | @dictionary place entries values feet here inside =>
      have seen : store.view.shape (.object place) = .dictionary entries :=
        objectAt_of_getElem? here
      have inner := apart_inside apart outside
      rw [store.view.shownIn_dictionary seen fun _ same => Option.some.inj same ▸ inner.1,
        Json.view.shownIn_dictionary rfl nofun]
      refine congrArg (· >>= _) (inside.mapM_eq fun {key} {held} {value} _ reads part => ?_)
      have sameKey : store.view.shownIn levels (place :: around) (.scalar key) =
          Json.view.shownIn levels [] key.json := ih (.scalar key) .nil nofun
      have sameValue := ih reads (inner.2.1.sublist part) fun foot member =>
        inner.2.2 foot (part.subset member)
      exact congrArg₂ (· >>= ·) sameKey (funext fun _ => congrArg (· >>= _) sameValue)

theorem Reads.textOf_eq (levels : Nat) (reads : store.Reads held value feet)
    (apart : feet.Nodup) : store.view.textOf levels held = Json.view.textOf levels value := by
  have shown := reads.shownIn_eq levels apart fun _ _ => List.not_mem_nil
  obtain ⟨_, shapes, -⟩ := reads.shape
  rw [View.textOf, View.textOf, shown]
  match store.view.shape held, Json.view.shape value, shapes with
  | _, _, .scalar value => cases value <;> rfl
  | _, _, .list _ => rfl
  | _, _, .dictionary _ => rfl

/-! ## Casts -/

/-- What a cast gives in a store is read as what a cast gives. -/
inductive ReadsCast (store : Store) : Cast Held → Cast Json → List Nat → Prop where
  | kept {held : Held} {value : Json} {feet : List Nat} (reads : store.Reads held value feet) :
      ReadsCast store (.kept held) (.kept value) feet
  | made {shape : Shape Held} {image : Shape Json} {feet : List Nat}
      (reads : store.ReadsShape shape image feet) : ReadsCast store (.made shape) (.made image) feet
  | read (value : Json) : ReadsCast store (.read value) (.read value) []

/-- It is so through some of the given places. -/
def ReadsCastWithin (store : Store) (feet : List Nat) (cast : Cast Held) (image : Cast Json) :
    Prop :=
  ∃ inner, store.ReadsCast cast image inner ∧ inner.Subperm feet

theorem readsCastWithin_scalar (store : Store) (feet : List Nat) (value : Scalar) :
    store.ReadsCastWithin feet (.made (.scalar value)) (.made (.scalar value)) :=
  ⟨[], .made (.scalar value), List.nil_subperm⟩

theorem ReadsShape.truth_eq {shape : Shape Held} {image : Shape Json}
    (reads : store.ReadsShape shape image feet) : shape.truth = image.truth := by
  cases reads with
  | scalar value => rfl
  | list inside => cases inside <;> rfl
  | dictionary inside => cases inside <;> rfl

theorem ReadsShape.kind_eq {shape : Shape Held} {image : Shape Json}
    (reads : store.ReadsShape shape image feet) : shape.kind = image.kind := by
  cases reads with
  | scalar value => cases value <;> rfl
  | list inside => rfl
  | dictionary inside => rfl

/-- Results without parts are alike if they are the same. -/
theorem alike_scalar (store : Store) (feet : List Nat) {α : Type}
    (result : Except Json.CastFault α) (make : α → Scalar) :
    AlikeResults (store.ReadsCastWithin feet) (do return .made (.scalar (make (← result))))
      (do return .made (.scalar (make (← result)))) := by
  cases result with
  | error fault => exact .error fault
  | ok value => exact .ok (readsCastWithin_scalar store feet (make value))

theorem alike_read (store : Store) (feet : List Nat) (result : Except Json.CastFault Json) :
    AlikeResults (store.ReadsCastWithin feet) (do return .read (← result))
      (do return .read (← result)) := by
  cases result with
  | error fault => exact .error fault
  | ok value => exact .ok ⟨[], .read value, List.nil_subperm⟩

/-- A held value is cast as what it is read as. -/
theorem Reads.castTo (limits : Limits) (goal : Json.Kind) (reads : store.Reads held value feet)
    (apart : feet.Nodup) :
    AlikeResults (store.ReadsCastWithin feet) (store.view.castTo limits goal held)
      (Json.view.castTo limits goal value) := by
  have sameText := reads.textOf_eq limits.showing apart
  obtain ⟨inner, shapes, part⟩ := reads.shape
  have ofList : AlikeResults (store.ReadsCastWithin feet)
      (do return .made (.list (← store.view.members (store.view.shape held))))
      (do return .made (.list (← Json.view.members (Json.view.shape value)))) := by
    refine shapes.members.bind ?_
    rintro items values ⟨fewer, inside, fewerPart⟩
    exact .ok ⟨fewer, .made (.list inside), (fewerPart.trans part).subperm⟩
  have ofDictionary : AlikeResults (store.ReadsCastWithin feet)
      (do return .made (.dictionary (← store.view.toDictionary (store.view.shape held))))
      (do return .made (.dictionary (← Json.view.toDictionary (Json.view.shape value)))) := by
    refine shapes.toDictionary.bind ?_
    rintro entries images ⟨fewer, inside, fewerPart⟩
    exact .ok ⟨fewer, .made (.dictionary inside), fewerPart.trans part.subperm⟩
  have ofTruth : store.ReadsCastWithin feet
      (.made (.scalar (.bool (store.view.shape held).truth)))
      (.made (.scalar (.bool (Json.view.shape value).truth))) := by
    rw [shapes.truth_eq]
    exact readsCastWithin_scalar store feet _
  rw [View.castTo.eq_def, View.castTo.eq_def, sameText]
  -- Only texts are cast in a way of their own, to truths, lists and dictionaries.
  generalize store.view.shape held = shape at shapes ofList ofDictionary ofTruth
  generalize Json.view.shape value = image at shapes ofList ofDictionary ofTruth
  cases goal with
  | null => exact .error _
  | bool =>
    cases shapes with
    | scalar value => cases value <;> exact .ok (readsCastWithin_scalar store feet _)
    | list inside => exact .ok ofTruth
    | dictionary inside => exact .ok ofTruth
  | integer =>
    cases shapes with
    | scalar value => exact alike_scalar store feet _ _
    | list inside => exact .error _
    | dictionary inside => exact .error _
  | decimal =>
    cases shapes with
    | scalar value => exact alike_scalar store feet _ _
    | list inside => exact .error _
    | dictionary inside => exact .error _
  | text => exact alike_scalar store feet _ _
  | list =>
    cases shapes with
    | scalar value =>
      cases value with
      | text words =>
        have parts := readsItems_scalars store ((commaParts words).map .text)
        rw [List.map_map, List.map_map] at parts
        exact .ok ⟨[], .made (.list parts), List.nil_subperm⟩
      | _ => exact ofList
    | list inside => exact ofList
    | dictionary inside => exact ofList
  | dictionary =>
    cases shapes with
    | scalar value =>
      cases value with
      | text words =>
        exact alike_read store feet _
      | _ => exact ofDictionary
    | list inside => exact ofDictionary
    | dictionary inside => exact ofDictionary

/-- What is stored for a held value is read as what is stored for what it is read as. -/
theorem Reads.castOver (limits : Limits) (reads : store.Reads held value feet) (apart : feet.Nodup)
    {older : Option Held} {olderValue : Option Json}
    (olderReads : store.ReadsOption older olderValue others) :
    AlikeResults (fun result image => store.ReadsCastWithin feet result.1 image.1 ∧ result.2 = image.2)
      (store.view.castOver limits older held) (Json.view.castOver limits olderValue value) := by
  have kept : store.ReadsCastWithin feet (.kept held) (.kept value) :=
    ⟨feet, .kept reads, List.Subperm.refl feet⟩
  have sameKind : (older.map fun present => (store.view.shape present).kind) =
      olderValue.map fun present => (Json.view.shape present).kind := by
    cases olderReads with
    | none => rfl
    | some reads =>
      obtain ⟨_, shapes, -⟩ := reads.shape
      rw [Option.map_some, Option.map_some, shapes.kind_eq]
  rw [View.castOver, View.castOver, sameKind]
  split
  next => exact .ok ⟨kept, rfl⟩
  next => exact .ok ⟨kept, rfl⟩
  next kind _ _ =>
    match store.view.castTo limits kind held, Json.view.castTo limits kind value,
      reads.castTo limits kind apart with
    | _, _, .ok casts => exact .ok ⟨casts, rfl⟩
    | _, _, .error fault =>
      cases fault with
      | tooLarge => exact .error _
      | tooDeep => exact .error _
      | unpaired => exact .error _
      | _ => exact .ok ⟨kept, rfl⟩

/-- What a cast gives is added to a store without changing anything there, and is read as what the
cast gives, through new places and some of the given ones. -/
theorem ReadsCastWithin.addCast {cast : Cast Held} {image : Cast Json}
    (casts : store.ReadsCastWithin feet cast image) (apart : feet.Nodup)
    (bounded : ∀ place ∈ feet, place < store.objects.length) :
    store.objects <+: (store.addCast cast).1.objects ∧
      ∃ after, (store.addCast cast).1.Reads (store.addCast cast).2 (Json.ofCast image) after ∧
        after.Nodup ∧ ∀ place ∈ after, place ∈ feet ∨ store.objects.length ≤ place := by
  obtain ⟨inner, reads, part⟩ := casts
  have once : inner.Nodup := by
    obtain ⟨ordered, same, fewer⟩ := part
    exact same.nodup_iff.mp (apart.sublist fewer)
  have inside : ∀ place ∈ inner, place ∈ feet := fun place member => part.subset member
  have outermost : (store.objects.length :: inner).Nodup ∧
      ∀ place ∈ store.objects.length :: inner, place ∈ feet ∨ store.objects.length ≤ place := by
    refine ⟨List.nodup_cons.mpr ⟨fun member => ?_, once⟩, ?_⟩
    · exact Nat.lt_irrefl _ (bounded _ (inside _ member))
    · intro place member
      rcases List.mem_cons.mp member with rfl | later
      · exact .inr (Nat.le_refl _)
      · exact .inl (inside place later)
  cases reads with
  | kept reads => exact ⟨List.prefix_refl _, inner, reads, once, fun place member =>
      .inl (inside place member)⟩
  | read value =>
    obtain ⟨grows, after, reads, areNew⟩ := store.reads_addJson value
    exact ⟨grows, after, reads, areNew.once, fun place member => .inr (areNew.isNew place member)⟩
  | made reads =>
    cases reads with
    | scalar value => exact ⟨List.prefix_refl _, [], .scalar value, .nil, nofun⟩
    | @list items _ _ reads =>
      have grows := store.prefix_add (.list items)
      exact ⟨grows, _, .list (store.getElem?_add _)
        (reads.of_agrees (.of_grows grows reads.lt_length)), outermost⟩
    | @dictionary entries _ _ reads =>
      have grows := store.prefix_add (.dictionary entries)
      exact ⟨grows, _, .dictionary (store.getElem?_add _)
        (reads.of_agrees (.of_grows grows reads.lt_length)), outermost⟩

end Store

end HtmlNesting
