import HtmlNesting.Settings.Load

/-!
# Setting a value by a dotted key

Storing a value goes down from dictionary to dictionary and makes those that are missing. It can
fail on the way, at something that is no dictionary, or at the end, when the new value cannot be
cast. `assign_cases` says when each happens, in terms of what the keys lead to before. Both failures
need something to be there already: a dictionary made on the way blocks nothing and has nothing to
cast to. So a failure leaves the settings as they were, and where the value is stored it is found
again.

A value that takes the place of another one has its kind, with one exception: a text for a
dictionary is read as JSON, and what it holds is stored whatever it is (`kind_of_castTo`).
-/

namespace HtmlNesting.Settings

/-- A dotted key has at least one key. -/
theorem keysOf_ne_nil (path : String) : keysOf path ≠ [] := by
  simp [keysOf, Text.pieces, Text.splitAt_ne_nil]

section

variable {entries inner : Dictionary Scalar Json} {key next : String} {rest : List String}

/-! ## Following keys -/

theorem find?_cons (entries : Dictionary Scalar Json) (key : String) (rest : List String) :
    find? (.dictionary entries) (key :: rest) =
      (Dictionary.get? entries (.text key)).bind fun below => find? below rest := by
  rw [find?]
  cases Dictionary.get? entries (.text key) <;> rfl

theorem find?_single (entries : Dictionary Scalar Json) (key : String) :
    find? (.dictionary entries) [key] = Dictionary.get? entries (.text key) := by
  rw [find?_cons]
  cases Dictionary.get? entries (.text key) <;> rfl

/-- Two keys or more lead to the same through a missing value as through an empty dictionary. -/
theorem find?_cons_cons (entries : Dictionary Scalar Json) (key next : String)
    (rest : List String) :
    find? (.dictionary entries) (key :: next :: rest) =
      find? ((Dictionary.get? entries (.text key)).getD (.dictionary [])) (next :: rest) := by
  rw [find?_cons]
  cases Dictionary.get? entries (.text key) <;> rfl

/-- Keys lead on from where the first of them lead. -/
theorem find?_append (settings : Json) (way further : List String) :
    find? settings (way ++ further) = (find? settings way).bind fun below => find? below further := by
  induction way generalizing settings with
  | nil => rfl
  | cons key way ih =>
    cases settings with
    | dictionary entries =>
      rw [List.cons_append, find?_cons, find?_cons, Option.bind_assoc]
      simp only [ih]
    | _ => rfl

/-- Some keys, but not all of them, lead to something that is no dictionary. -/
def Blocked (settings : Json) (keys : List String) : Prop :=
  ∃ way below, way <+: keys ∧ way ≠ keys ∧ find? settings way = some below ∧
    below.isDictionary = false

/-- A way that is blocked leads to nothing. -/
theorem find?_of_blocked {settings : Json} {keys : List String} (blocked : Blocked settings keys) :
    find? settings keys = none := by
  obtain ⟨way, below, ⟨further, rfl⟩, shorter, found, other⟩ := blocked
  rw [find?_append, found, Option.bind_some]
  cases further with
  | nil => simp at shorter
  | cons key further =>
    cases below with
    | dictionary inner => cases other
    | _ => rfl

theorem not_blocked_single (entries : Dictionary Scalar Json) (key : String) :
    ¬ Blocked (.dictionary entries) [key] := by
  rintro ⟨way, below, part, shorter, found, other⟩
  cases way with
  | nil =>
    cases found
    cases other
  | cons first way =>
    obtain ⟨rfl, further⟩ := List.cons_prefix_cons.mp part
    rw [List.prefix_nil.mp further] at shorter
    exact shorter rfl

/-- What blocks a way is what its first key leads to, or blocks the way from there. -/
theorem blocked_cons_cons :
    Blocked (.dictionary entries) (key :: next :: rest) ↔
      Blocked ((Dictionary.get? entries (.text key)).getD (.dictionary [])) (next :: rest) := by
  constructor
  · rintro ⟨way, below, part, shorter, found, other⟩
    cases way with
    | nil =>
      cases found
      cases other
    | cons first way =>
      obtain ⟨rfl, further⟩ := List.cons_prefix_cons.mp part
      refine ⟨way, below, further, by simpa using shorter, ?_, other⟩
      obtain ⟨held, present, found⟩ := Option.bind_eq_some_iff.mp (find?_cons .. ▸ found)
      rwa [present]
  · rintro ⟨way, below, part, shorter, found, other⟩
    refine ⟨key :: way, below, List.cons_prefix_cons.mpr ⟨rfl, part⟩, by simpa using shorter, ?_,
      other⟩
    cases way with
    | cons first way => rw [find?_cons_cons, found]
    | nil =>
      cases present : Dictionary.get? entries (.text key) with
      | some held => rw [find?_single, present, ← found, present, find?, Option.getD_some]
      | none =>
        -- Nothing is there, and an empty dictionary blocks no way.
        rw [present] at found
        cases found
        cases other

/-! ## Storing a value -/

/-- A dictionary with entries was there before. -/
theorem get?_of_getD
    (here : (Dictionary.get? entries (.text key)).getD (.dictionary []) = .dictionary inner)
    (occupied : inner ≠ []) : Dictionary.get? entries (.text key) = some (.dictionary inner) := by
  cases present : Dictionary.get? entries (.text key) with
  | none =>
    rw [present, Option.getD_none, Json.dictionary.injEq] at here
    exact absurd here.symm occupied
  | some held =>
    rw [present, Option.getD_some] at here
    rw [here]

theorem not_blocked_nil (keys : List String) : ¬ Blocked (.dictionary []) keys := by
  rintro ⟨way, below, -, -, found, other⟩
  cases way with
  | nil =>
    cases found
    cases other
  | cons first way => simp [find?_cons, Dictionary.get?] at found

/-- How an assignment ends is decided by what the keys lead to before it. A way that is blocked and
a value that cannot be cast leave the dictionary as it is; otherwise the value is found at the end
of the way afterwards, cast to the kind of the older one if it can be. -/
theorem assign_cases (limits : Limits) (value : Json) {keys : List String} (nonempty : keys ≠ [])
    (entries : Dictionary Scalar Json) :
    (Blocked (.dictionary entries) keys ∧
      ∃ key, assign limits value keys entries = (entries, .blocked key)) ∨
    ¬ Blocked (.dictionary entries) keys ∧
      ((∃ fault, casted limits (find? (.dictionary entries) keys) value = .error fault ∧
        assign limits value keys entries = (entries, .failed fault)) ∨
      ∃ stored uncast after,
        casted limits (find? (.dictionary entries) keys) value = .ok (stored, uncast) ∧
        assign limits value keys entries = (after, .stored uncast) ∧
        find? (.dictionary after) keys = some stored) := by
  fun_induction assign limits value keys entries with
  | case1 entries => exact absurd rfl nonempty
  | case2 key entries stored uncast cast =>
    refine .inr ⟨not_blocked_single entries key, .inr ⟨stored, uncast, _, ?_, rfl, ?_⟩⟩
    · rw [find?_single, cast]
    · rw [find?_single, Dictionary.get?_set_self]
  | case3 key entries fault cast =>
    exact .inr ⟨not_blocked_single entries key, .inl ⟨fault, by rw [find?_single, cast], rfl⟩⟩
  | case4 key next rest entries inner here below ih =>
    rw [blocked_cons_cons, find?_cons_cons, here]
    -- Both failures below find something in the inner dictionary, which was there then.
    have unchanged : inner ≠ [] → Dictionary.set (.text key) (.dictionary inner) entries = entries :=
      fun occupied => Dictionary.set_eq_self entries (.text key) _ (get?_of_getD here occupied)
    rcases ih (by simp) with ⟨blocked, last, ended⟩ | ⟨free, ⟨fault, cast, ended⟩ |
      ⟨stored, uncast, after, cast, ended, found⟩⟩
    · have occupied : inner ≠ [] := by
        rintro rfl
        exact not_blocked_nil _ blocked
      exact .inl ⟨blocked, last, by rw [show below = _ from ended, unchanged occupied]⟩
    · have occupied : inner ≠ [] := by
        rintro rfl
        cases cast
      exact .inr ⟨free, .inl ⟨fault, cast, by rw [show below = _ from ended, unchanged occupied]⟩⟩
    · refine .inr ⟨free, .inr ⟨stored, uncast, _, cast, by rw [show below = _ from ended], ?_⟩⟩
      rw [find?_cons_cons, Dictionary.get?_set_self, Option.getD_some, found]
  | case5 key next rest entries other =>
    refine .inl ⟨blocked_cons_cons.mpr ⟨[], _, List.nil_prefix, by simp, rfl, ?_⟩, key, rfl⟩
    cases below : (Dictionary.get? entries (.text key)).getD (.dictionary []) with
    | dictionary inner => exact absurd below (other inner)
    | _ => rfl

end

end HtmlNesting.Settings

namespace HtmlNesting

/-! ## Kinds of cast values -/

theorem exists_of_return {ε α β : Type} {result : Except ε α} {make : α → β} {made : β}
    (returned : (do return make (← result)) = Except.ok made) :
    ∃ value, result = .ok value ∧ made = make value := by
  cases result with
  | error fault => cases returned
  | ok value =>
    cases returned
    exact ⟨value, rfl, rfl⟩

theorem Json.ofText_eq_ok_iff {nesting : Nat} {words : String} {read : Json} :
    ofText nesting words = .ok read ↔ parse nesting words = .ok read := by
  rw [ofText]
  cases parse nesting words with
  | ok value => simp
  | error misread => cases misread <;> simp

/-- What a cast gives has the kind it was cast to, unless it is what a text for a dictionary holds.
-/
theorem View.castTo_cases {ν : Type} {view : View ν} {limits : Limits} {goal : Json.Kind} {value : ν}
    {cast : Cast ν} (returned : view.castTo limits goal value = .ok cast) :
    (∃ shape, cast = .made shape ∧ shape.kind = goal) ∨
      goal = .dictionary ∧ ∃ words read, view.shape value = .scalar (.text words) ∧
        Json.parse limits.nesting words = .ok read ∧ cast = .read read := by
  rw [View.castTo.eq_def] at returned
  split at returned
  next => cases returned
  next =>
    cases returned
    exact .inl ⟨_, rfl, rfl⟩
  next =>
    cases returned
    exact .inl ⟨_, rfl, rfl⟩
  next =>
    obtain ⟨number, -, rfl⟩ := exists_of_return returned
    exact .inl ⟨_, rfl, rfl⟩
  next => cases returned
  next =>
    obtain ⟨number, -, rfl⟩ := exists_of_return returned
    exact .inl ⟨_, rfl, rfl⟩
  next => cases returned
  next =>
    obtain ⟨words, -, rfl⟩ := exists_of_return returned
    exact .inl ⟨_, rfl, rfl⟩
  next =>
    cases returned
    exact .inl ⟨_, rfl, rfl⟩
  next =>
    obtain ⟨items, -, rfl⟩ := exists_of_return returned
    exact .inl ⟨_, rfl, rfl⟩
  next words isText =>
    obtain ⟨read, isRead, rfl⟩ := exists_of_return returned
    exact .inr ⟨rfl, words, read, isText, Json.ofText_eq_ok_iff.mp isRead, rfl⟩
  next =>
    obtain ⟨entries, -, rfl⟩ := exists_of_return returned
    exact .inl ⟨_, rfl, rfl⟩

namespace Settings

variable {limits : Limits}

/-- A value that was cast is what the cast to the kind of the older one gives. -/
theorem castTo_of_casted {older value stored : Json} (notNull : older.isNull = false)
    (returned : casted limits (some older) value = .ok (stored, none)) :
    ∃ cast, Json.view.castTo limits older.kind value = .ok cast ∧ stored = Json.ofCast cast := by
  cases older with
  | null => cases notNull
  | _ =>
    simp only [casted, View.castOver, Option.map_some, Json.view, Json.shape, Shape.kind] at returned
    split at returned
    next cast uncast isCast =>
      split at isCast
      next isCasted =>
        cases isCast
        cases returned
        exact ⟨_, isCasted, rfl⟩
      all_goals cases isCast
      cases returned
    next => cases returned

/-- Setting a value keeps the kind of what is replaced. Let the keys lead to a value that is not
null, let the change be made, and let there be no notice that the new value could not be cast. Then
the keys lead to a value of the same kind, except in one case: the older value is a dictionary, and
the new one is a text that holds JSON of another kind. -/
theorem set_keeps_kind_iff (limits : Limits) (entries : Dictionary Scalar Json) (path : String)
    (value older : Json) (found : find? (.dictionary entries) (keysOf path) = some older)
    (notNull : older.isNull = false) :
    let change := set limits (.dictionary entries) path value
    change.made = .ok true → (∀ kind, SettingsNotice.uncast path kind ∉ change.notices) →
      ∃ stored, find? change.settings (keysOf path) = some stored ∧
        (stored.kind = older.kind ↔ ∀ words read, older.kind = .dictionary → value = .text words →
          Json.parse limits.nesting words = .ok read → read.kind = .dictionary) := by
  intro change made noNotice
  rcases assign_cases limits value (keysOf_ne_nil path) entries with ⟨blocked, key, ended⟩ |
    ⟨free, ⟨fault, cast, ended⟩ | ⟨stored, uncast, after, cast, ended, leads⟩⟩
  · simp [change, set, ended, Assignment.made] at made
  · simp [change, set, ended, Assignment.made] at made
  · cases uncast with
    | some kind =>
      have noticed : SettingsNotice.uncast path kind ∈ change.notices := by
        simp [change, set, ended, Assignment.notices]
      exact absurd noticed (noNotice kind)
    | none =>
      rw [found] at cast
      obtain ⟨result, returned, rfl⟩ := castTo_of_casted notNull cast
      have afterwards : change.settings = .dictionary after := by simp only [change, set, ended]
      refine ⟨_, by rw [afterwards, leads], ?_, ?_⟩
      · rintro kept words read ofDictionary rfl parsed
        rw [ofDictionary] at returned
        obtain ⟨held, isHeld, rfl⟩ := exists_of_return
          (show (do return Cast.read (← Json.ofText limits.nesting words)) = _ from returned)
        rw [Json.ofText_eq_ok_iff, parsed] at isHeld
        cases isHeld
        rw [← ofDictionary, ← kept]
        rfl
      · intro onlyDictionaries
        rcases View.castTo_cases returned with
          ⟨shape, rfl, same⟩ | ⟨ofDictionary, words, read, isText, parsed, rfl⟩
        · rw [← same, Json.kind, Json.ofCast, Json.shape_ofShape]
        · have words : value = .text words := by
            cases value <;> cases isText
            rfl
          rw [ofDictionary]
          exact onlyDictionaries _ read ofDictionary words parsed

/-- Codes between commas take the place of a list as a list. -/
theorem set_keeps_kind_iff_codes :
    let limits : Limits := { nesting := 0, showing := 0, searching := 0 }
    let entries : Dictionary Scalar Json := [("lint", .dictionary [("codes", .list [])])]
    let change := set limits (.dictionary entries) "lint.codes" (.text "A, B")
    find? (.dictionary entries) (keysOf "lint.codes") = some (.list []) ∧
      change.made = .ok true ∧ change.notices = [] ∧
      ∃ stored, find? change.settings (keysOf "lint.codes") = some stored ∧
        stored.kind = .list := by
  intro limits entries
  refine ⟨rfl, rfl, rfl, ?_⟩
  obtain ⟨stored, leads, kept⟩ := set_keeps_kind_iff limits entries "lint.codes" (.text "A, B")
    (.list []) rfl rfl rfl (fun kind => List.not_mem_nil)
  refine ⟨stored, leads, kept.mpr ?_⟩
  rintro words read ⟨⟩

/-- A text that holds a list takes the place of a dictionary as a list, and there is no notice. -/
theorem list_replaces_dictionary :
    let limits : Limits := { nesting := 1, showing := 0, searching := 0 }
    let path := "lint.severity_overrides"
    let change := set limits defaults path (.text "[]")
    find? defaults (keysOf path) = some (.dictionary []) ∧ change.made = .ok true ∧
      change.notices = [] ∧ find? change.settings (keysOf path) = some (.list []) := by
  exact ⟨rfl, rfl, rfl, rfl⟩

end Settings

end HtmlNesting
