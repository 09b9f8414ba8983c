import HtmlNesting.Text.Order

/-!
# Orders and sorted lists

Texts are ordered character by character, and paths component by component. Both are the order of
lists by their first difference (`lexLe`), which is an order if that of the items is one
(`IsOrder.lexLe`). Sorting under an order and dropping repetitions leaves a strictly increasing list
of the same items (`pairwise_distinctSorted`, `mem_distinctSorted`), which does not depend on how
they were listed (`IsOrder.distinctSorted_congr`).
-/

namespace HtmlNesting.Text

/-! ## Orders -/

/-- A test that puts any two items in order, and the same two only if they are equal. -/
structure IsOrder {α : Type} (le : α → α → Bool) : Prop where
  total : ∀ first second, (le first second || le second first) = true
  trans : ∀ first second third, le first second = true → le second third = true →
    le first third = true
  antisymm : ∀ first second, le first second = true → le second first = true → first = second

/-- The order of lists by their first difference. -/
def lexLe {α : Type} [DecidableEq α] (le : α → α → Bool) : List α → List α → Bool
  | [], _ => true
  | _ :: _, [] => false
  | first :: rest, other :: others =>
    if first = other then lexLe le rest others else le first other

namespace IsOrder

variable {α : Type} {le : α → α → Bool}

/-- Lists are ordered by their first difference if their items are ordered. -/
theorem lexLe [DecidableEq α] (order : IsOrder le) : IsOrder (lexLe le) where
  total := by
    intro first second
    induction first generalizing second with
    | nil => simp [Text.lexLe]
    | cons head tail ih =>
      cases second with
      | nil => simp [Text.lexLe]
      | cons other others =>
        by_cases same : head = other
        · simpa [Text.lexLe, same] using ih others
        · simpa [Text.lexLe, same, Ne.symm same] using order.total head other
  trans := by
    intro first second third
    induction first generalizing second third with
    | nil => simp [Text.lexLe]
    | cons head tail ih =>
      cases second with
      | nil => simp [Text.lexLe]
      | cons middle middles =>
        cases third with
        | nil => simp [Text.lexLe]
        | cons last lasts =>
          simp only [Text.lexLe]
          intro below above
          by_cases firstSame : head = middle
          · subst firstSame
            rw [if_pos rfl] at below
            split at above
            next lastSame => rw [if_pos lastSame]; exact ih _ _ below above
            next lastOther => rw [if_neg lastOther]; exact above
          · rw [if_neg firstSame] at below
            by_cases lastSame : middle = last
            · subst lastSame
              rw [if_neg firstSame]
              exact below
            · rw [if_neg lastSame] at above
              have ends : head ≠ last := by
                rintro rfl
                exact firstSame (order.antisymm _ _ below above)
              rw [if_neg ends]
              exact order.trans _ _ _ below above
  antisymm := by
    intro first second
    induction first generalizing second with
    | nil => cases second <;> simp [Text.lexLe]
    | cons head tail ih =>
      cases second with
      | nil => simp [Text.lexLe]
      | cons other others =>
        by_cases same : head = other
        · simpa [Text.lexLe, same] using ih others
        · simp only [Text.lexLe, if_neg same, if_neg (Ne.symm same)]
          intro below above
          exact absurd (order.antisymm _ _ below above) same

end IsOrder

/-- Characters are ordered by code point. -/
def charLe (first second : Char) : Bool :=
  decide (first.toNat ≤ second.toNat)

theorem isOrder_charLe : IsOrder charLe where
  total := by
    intro first second
    simp only [charLe, Bool.or_eq_true, decide_eq_true_eq]
    omega
  trans := by
    simp only [charLe, decide_eq_true_eq]
    omega
  antisymm := by
    intro first second below above
    simp only [charLe, decide_eq_true_eq] at below above
    exact Char.toNat_inj.mp (by omega)

theorem charsLe_eq_lexLe (first second : List Char) :
    charsLe first second = lexLe charLe first second := by
  fun_induction charsLe first second with
  | case1 => simp [lexLe]
  | case2 => simp [lexLe]
  | case3 a as b bs same ih =>
    have equal : a = b := Char.toNat_inj.mp (by simpa using same)
    rw [lexLe, if_pos equal, ih]
  | case4 a as b bs different =>
    have apart : a.toNat ≠ b.toNat := by simpa using different
    have other : a ≠ b := fun equal => apart (congrArg Char.toNat equal)
    rw [lexLe, if_neg other, charLe, Bool.eq_iff_iff, Nat.blt_eq, decide_eq_true_eq]
    omega

theorem isOrder_charsLe : IsOrder charsLe := by
  have same : charsLe = lexLe charLe := by
    ext first second
    rw [charsLe_eq_lexLe]
  rw [same]
  exact isOrder_charLe.lexLe

/-- Texts are ordered. -/
theorem isOrder_textLe : IsOrder textLe where
  total := fun first second => isOrder_charsLe.total first.toList second.toList
  trans := fun first second third =>
    isOrder_charsLe.trans first.toList second.toList third.toList
  antisymm := fun _ _ below above =>
    String.toList_inj.mp (isOrder_charsLe.antisymm _ _ below above)

/-! ## Sorted lists -/

/-- Dropping repetitions drops no item altogether. -/
theorem mem_dropRepeats {α : Type} [BEq α] [LawfulBEq α] {item : α} (items : List α) :
    item ∈ dropRepeats items ↔ item ∈ items := by
  fun_induction dropRepeats items with
  | case1 => rfl
  | case2 first => rfl
  | case3 first second rest same ih =>
    rw [ih, eq_of_beq same]
    simp
  | case4 first second rest different ih => simp [ih]

theorem mem_distinctSorted {α : Type} [BEq α] [LawfulBEq α] {le : α → α → Bool} {item : α}
    {items : List α} : item ∈ distinctSorted le items ↔ item ∈ items := by
  rw [distinctSorted, mem_dropRepeats, List.mem_mergeSort]

/-- Sorting texts keeps them all. -/
theorem mem_sortedTexts {text : String} {texts : List String} :
    text ∈ sortedTexts texts ↔ text ∈ texts :=
  mem_distinctSorted

/-- Strictly increasing lists of the same items are the same. -/
theorem eq_of_increasing {α : Type} {le : α → α → Bool} {items others : List α}
    (increasing : items.Pairwise fun first second =>
      le first second = true ∧ le second first = false)
    (otherIncreasing : others.Pairwise fun first second =>
      le first second = true ∧ le second first = false)
    (same : ∀ item, item ∈ items ↔ item ∈ others) : items = others := by
  have nodup {items : List α} (increasing : items.Pairwise fun first second =>
      le first second = true ∧ le second first = false) : items.Nodup := by
    apply increasing.imp
    rintro first second ⟨below, notAbove⟩ rfl
    rw [below] at notAbove
    cases notAbove
  have perm : items.Perm others :=
    (List.perm_ext_iff_of_nodup (nodup increasing) (nodup otherIncreasing)).mpr same
  refine perm.eq_of_pairwise ?_ increasing otherIncreasing
  rintro first second - - ⟨below, -⟩ ⟨-, notBelow⟩
  rw [below] at notBelow
  cases notBelow

variable {α : Type} [BEq α] [LawfulBEq α] {le : α → α → Bool}

/-- A sorted list without repetitions is strictly increasing. -/
theorem pairwise_dropRepeats (trans : ∀ first second third, le first second = true →
      le second third = true → le first third = true)
    {items : List α}
    (antisymm : ∀ first ∈ items, ∀ second ∈ items, le first second = true →
      le second first = true → first = second)
    (sorted : items.Pairwise fun first second => le first second = true) :
    (dropRepeats items).Pairwise fun first second =>
      le first second = true ∧ le second first = false := by
  fun_induction dropRepeats items with
  | case1 => exact List.Pairwise.nil
  | case2 item => exact List.pairwise_singleton _ _
  | case3 first second rest same ih =>
    exact ih (fun a aIn b bIn => antisymm a (.tail _ aIn) b (.tail _ bIn)) sorted.tail
  | case4 first second rest different ih =>
    rw [List.pairwise_cons] at sorted ⊢
    refine ⟨fun item member => ?_, ?_⟩
    · have later : item ∈ second :: rest := (mem_dropRepeats _).mp member
      refine ⟨sorted.1 item later, Bool.eq_false_iff.mpr fun above => different ?_⟩
      -- What follows is no earlier than the second item, so the first two would be equal.
      have next : le second first = true := by
        rcases List.mem_cons.mp later with rfl | further
        · exact above
        · exact trans _ _ _ ((List.pairwise_cons.mp sorted.2).1 item further) above
      rw [antisymm first (by simp) second (by simp) (sorted.1 second (by simp)) next]
      exact beq_self_eq_true second
    · exact ih (fun a aIn b bIn => antisymm a (.tail _ aIn) b (.tail _ bIn)) sorted.2

/-- Sorting and dropping repetitions gives a strictly increasing list. -/
theorem pairwise_distinctSorted
    (total : ∀ first second, (le first second || le second first) = true)
    (trans : ∀ first second third, le first second = true → le second third = true →
      le first third = true)
    {items : List α}
    (antisymm : ∀ first ∈ items, ∀ second ∈ items, le first second = true →
      le second first = true → first = second) :
    (distinctSorted le items).Pairwise fun first second =>
      le first second = true ∧ le second first = false := by
  apply pairwise_dropRepeats trans
  · intro first firstIn second secondIn
    exact antisymm first (List.mem_mergeSort.mp firstIn) second (List.mem_mergeSort.mp secondIn)
  · exact List.pairwise_mergeSort trans total items

/-- Under an order the distinct items in increasing order are strictly increasing. -/
theorem IsOrder.pairwise_distinctSorted (order : IsOrder le) (items : List α) :
    (distinctSorted le items).Pairwise fun first second =>
      le first second = true ∧ le second first = false :=
  Text.pairwise_distinctSorted order.total order.trans fun first _ second _ =>
    order.antisymm first second

/-- The distinct items in increasing order depend only on what the items are. -/
theorem IsOrder.distinctSorted_congr (order : IsOrder le) {items others : List α}
    (same : ∀ item, item ∈ items ↔ item ∈ others) :
    distinctSorted le items = distinctSorted le others := by
  apply eq_of_increasing (order.pairwise_distinctSorted items)
    (order.pairwise_distinctSorted others)
  intro item
  rw [mem_distinctSorted, mem_distinctSorted, same]

end HtmlNesting.Text
