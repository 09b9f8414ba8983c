import Mathlib.Data.List.Induction
import Mathlib.Data.List.Perm.Subperm
import HtmlNesting.Content.Segment

/-!
# The longest match is the best one

`Selects` describes a selection without the search: every item is passed over or leads from the cell
reached so far to a next one. What is taken is a sublist of the items (`selects_iff_sublist`). The
table of the search holds selections only, and for every cell that a selection can reach it holds
one that no other selection is better than. One step of the search keeps both
(`MatchTable.Covers.extend`), so the search ends with a best selection of all.

`Reaches` is a selection that takes every item. The search takes every item exactly if there is such
a one (`forall_mem_longestMatch_iff`).
-/

namespace HtmlNesting

/-- A selection among items that come one after another: the indices taken, latest first, and the
cell it ends in. -/
inductive Selects (segments : List Segment) : List (Tag × Nat) → List Nat → Cell → Prop where
  | start : Selects segments [] [] { segment := none, taken := 0 }
  | pass {items : List (Tag × Nat)} {picked : List Nat} {cell : Cell} (item : Tag × Nat)
      (earlier : Selects segments items picked cell) :
      Selects segments (items ++ [item]) picked cell
  | take {items : List (Tag × Nat)} {picked : List Nat} {cell next : Cell} {item : Tag × Nat}
      (earlier : Selects segments items picked cell)
      (fits : next ∈ cell.next segments item.1) :
      Selects segments (items ++ [item]) (item.2 :: picked) next

/-- Tags that lead to a cell when all of them are taken in order. -/
inductive Reaches (segments : List Segment) : List Tag → Cell → Prop where
  | start : Reaches segments [] { segment := none, taken := 0 }
  | step {tags : List Tag} {cell next : Cell} {tag : Tag} (earlier : Reaches segments tags cell)
      (fits : next ∈ cell.next segments tag) : Reaches segments (tags ++ [tag]) next

section

variable {segments : List Segment} {items : List (Tag × Nat)} {picked : List Nat} {cell : Cell}

/-- Without tags nothing is taken. -/
theorem reaches_nil : Reaches segments [] cell ↔ cell = { segment := none, taken := 0 } := by
  constructor
  · intro reaches
    generalize whole : ([] : List Tag) = all at reaches
    cases reaches with
    | start => rfl
    | step earlier fits => simp at whole
  · rintro rfl
    exact .start

/-- The last of some tags is taken from the cell that the others lead to. -/
theorem reaches_concat {tags : List Tag} {tag : Tag} {next : Cell} :
    Reaches segments (tags ++ [tag]) next ↔
      ∃ cell, Reaches segments tags cell ∧ next ∈ cell.next segments tag := by
  constructor
  · intro reaches
    generalize whole : tags ++ [tag] = all at reaches
    cases reaches with
    | start => simp at whole
    | step earlier fits =>
      obtain ⟨rfl, last⟩ := List.append_inj' whole rfl
      cases last
      exact ⟨_, earlier, fits⟩
  · rintro ⟨cell, earlier, fits⟩
    exact .step earlier fits

/-- A selection takes some of the items, whose tags lead to the cell it ends in. -/
theorem selects_iff_sublist : Selects segments items picked cell ↔
    ∃ chosen : List (Tag × Nat), chosen.Sublist items ∧ picked.reverse = chosen.map Prod.snd ∧
      Reaches segments (chosen.map Prod.fst) cell := by
  constructor
  · intro selects
    induction selects with
    | start => exact ⟨[], .slnil, rfl, .start⟩
    | pass item earlier ih =>
      obtain ⟨chosen, part, indices, reaches⟩ := ih
      exact ⟨chosen, part.trans (List.sublist_append_left _ _), indices, reaches⟩
    | @take items picked cell next item earlier fits ih =>
      obtain ⟨chosen, part, indices, reaches⟩ := ih
      refine ⟨chosen ++ [item], part.append (List.Sublist.refl _), by simp [indices], ?_⟩
      rw [List.map_append]
      exact .step reaches fits
  · rintro ⟨chosen, part, indices, reaches⟩
    induction items using List.reverseRecOn generalizing chosen picked cell with
    | nil =>
      cases List.sublist_nil.mp part
      rw [reaches_nil.mp reaches, List.reverse_eq_nil_iff.mp indices]
      exact .start
    | append_singleton items item ih =>
      obtain ⟨earlier, last, rfl, before, here⟩ := List.sublist_append_iff.mp part
      rcases List.sublist_singleton.mp here with rfl | rfl
      · rw [List.append_nil] at indices reaches
        exact .pass item (ih earlier before indices reaches)
      · rw [List.map_append] at indices reaches
        obtain ⟨previous, reached, fits⟩ := reaches_concat.mp reaches
        have taken : picked = item.2 :: (earlier.map Prod.snd).reverse := by
          rw [← List.reverse_inj, indices]
          simp
        rw [taken]
        exact .take (ih earlier before (by simp) reached) fits

/-- A selection takes indices of items, in order. -/
theorem Selects.sublist (selects : Selects segments items picked cell) :
    picked.reverse.Sublist (items.map Prod.snd) := by
  obtain ⟨chosen, part, indices, -⟩ := selects_iff_sublist.mp selects
  rw [indices]
  exact part.map Prod.snd

/-- A selection of as many indices as there are items takes them all. -/
theorem Selects.reaches (selects : Selects segments items picked cell)
    (all : items.length ≤ picked.length) : Reaches segments (items.map Prod.fst) cell := by
  obtain ⟨chosen, part, indices, reaches⟩ := selects_iff_sublist.mp selects
  have length := congrArg List.length indices
  rw [List.length_reverse, List.length_map] at length
  rwa [part.eq_of_length_le (by omega)] at reaches

/-- To take nothing is a selection. -/
theorem selects_nothing (segments : List Segment) (items : List (Tag × Nat)) :
    Selects segments items [] { segment := none, taken := 0 } :=
  selects_iff_sublist.mpr ⟨[], List.nil_sublist items, rfl, .start⟩

/-- Taking all items is a selection. -/
theorem Reaches.selects (reaches : Reaches segments (items.map Prod.fst) cell) :
    Selects segments items (items.map Prod.snd).reverse cell :=
  selects_iff_sublist.mpr ⟨items, List.Sublist.refl items, List.reverse_reverse _, reaches⟩

/-- The last of some items is passed over or taken. -/
theorem selects_concat {item : Tag × Nat} :
    Selects segments (items ++ [item]) picked cell ↔
      Selects segments items picked cell ∨
        ∃ earlier previous, picked = item.2 :: earlier ∧
          Selects segments items earlier previous ∧ cell ∈ previous.next segments item.1 := by
  constructor
  · intro selects
    generalize whole : items ++ [item] = all at selects
    cases selects with
    | start => simp at whole
    | pass last earlier =>
      obtain ⟨rfl, -⟩ := List.append_inj' whole rfl
      exact .inl earlier
    | take earlier fits =>
      obtain ⟨rfl, same⟩ := List.append_inj' whole rfl
      cases same
      exact .inr ⟨_, _, rfl, earlier, fits⟩
  · rintro (earlier | ⟨earlier, previous, rfl, selects, fits⟩)
    · exact .pass item earlier
    · exact .take selects fits

end

namespace MatchTable

/-- A selection is better than another by its length, and among equally long ones by its end. -/
theorem isBetter_iff {picked other : List Nat} :
    isBetter picked other = true ↔
      other.length < picked.length ∨
        other.length = picked.length ∧ picked.headD 0 < other.headD 0 := by
  cases picked <;> cases other <;> simp [isBetter]

/-- What is no better than something is no better than what that is no better than. -/
theorem isBetter_false_trans {first second third : List Nat}
    (lower : isBetter first second = false) (upper : isBetter second third = false) :
    isBetter first third = false := by
  rw [← Bool.not_eq_true, isBetter_iff] at *
  omega

/-! ## One step of the search -/

/-- Offers selections for cells one after another. -/
def offerAll (table : MatchTable) (offers : List (Cell × List Nat)) : MatchTable :=
  offers.foldl (fun updated entry => updated.offer entry.1 entry.2) table

/-- The selections that an item makes of those found so far. -/
def offers (segments : List Segment) (table : MatchTable) (item : Tag × Nat) :
    List (Cell × List Nat) :=
  table.flatMap fun entry =>
    (entry.1.next segments item.1).map fun cell => (cell, item.2 :: entry.2)

theorem extend_eq_offerAll (segments : List Segment) (table : MatchTable) (item : Tag × Nat) :
    table.extend segments item = table.offerAll (table.offers segments item) := by
  rw [extend, offerAll, offers, List.foldl_flatMap]
  simp only [List.foldl_map]

variable {table : MatchTable} {cell : Cell} {held : List Nat}

/-- After an offer the cell has something at least as long. -/
theorem get?_offer_self (table : MatchTable) (cell : Cell) (picked : List Nat) :
    ∃ kept, Dictionary.get? (table.offer cell picked) cell = some kept ∧
      picked.length ≤ kept.length := by
  rw [offer]
  cases known : Dictionary.get? table cell with
  | none => exact ⟨picked, Dictionary.get?_set_self _ _ _, Nat.le_refl _⟩
  | some held =>
    simp only
    split
    · exact ⟨picked, Dictionary.get?_set_self _ _ _, Nat.le_refl _⟩
    · exact ⟨held, known, by omega⟩

/-- After an offer, whatever the cell, what was there still is or has made way for something
longer. -/
theorem get?_offer_of_some (known : Dictionary.get? table cell = some held) (other : Cell)
    (picked : List Nat) :
    ∃ kept, Dictionary.get? (table.offer other picked) cell = some kept ∧
      (kept = held ∨ held.length < kept.length) := by
  by_cases same : cell = other
  · subst same
    simp only [offer, known]
    split
    · next longer => exact ⟨picked, Dictionary.get?_set_self _ _ _, .inr longer⟩
    · exact ⟨held, known, .inl rfl⟩
  · refine ⟨held, ?_, .inl rfl⟩
    rw [offer]
    split
    · rw [Dictionary.get?_set_of_ne _ _ _ _ same, known]
    · split
      · rw [Dictionary.get?_set_of_ne _ _ _ _ same, known]
      · exact known

/-- After an offer there is nothing but what was there and what was offered. -/
theorem mem_offer {picked : List Nat} {entry : Cell × List Nat}
    (member : entry ∈ table.offer cell picked) : entry ∈ table ∨ entry = (cell, picked) := by
  rw [offer] at member
  split at member
  · exact Dictionary.mem_set member
  · split at member
    · exact Dictionary.mem_set member
    · exact .inl member

theorem get?_offerAll_of_some (known : Dictionary.get? table cell = some held)
    (offers : List (Cell × List Nat)) :
    ∃ kept, Dictionary.get? (table.offerAll offers) cell = some kept ∧
      (kept = held ∨ held.length < kept.length) := by
  induction offers generalizing table held with
  | nil => exact ⟨held, known, .inl rfl⟩
  | cons entry rest ih =>
    obtain ⟨next, nextFound, nextKept⟩ := get?_offer_of_some known entry.1 entry.2
    obtain ⟨kept, found, isKept⟩ := ih nextFound
    refine ⟨kept, found, ?_⟩
    rcases nextKept with rfl | longer
    · exact isKept
    · right
      rcases isKept with rfl | longest
      · exact longer
      · omega

theorem get?_offerAll_of_mem {picked : List Nat} {offers : List (Cell × List Nat)}
    (offered : (cell, picked) ∈ offers) (table : MatchTable) :
    ∃ kept, Dictionary.get? (table.offerAll offers) cell = some kept ∧
      picked.length ≤ kept.length := by
  induction offers generalizing table with
  | nil => simp at offered
  | cons entry rest ih =>
    rcases List.mem_cons.mp offered with rfl | later
    · obtain ⟨next, nextFound, enough⟩ := get?_offer_self table cell picked
      obtain ⟨kept, found, isKept⟩ := get?_offerAll_of_some nextFound rest
      refine ⟨kept, found, ?_⟩
      rcases isKept with rfl | longer
      · exact enough
      · omega
    · exact ih later (table.offer entry.1 entry.2)

theorem mem_offerAll {offers : List (Cell × List Nat)} {entry : Cell × List Nat}
    (member : entry ∈ table.offerAll offers) : entry ∈ table ∨ entry ∈ offers := by
  induction offers generalizing table with
  | nil => exact .inl member
  | cons first rest ih =>
    rcases ih member with updated | later
    · rcases mem_offer updated with old | rfl
      · exact .inl old
      · exact .inr List.mem_cons_self
    · exact .inr (List.mem_cons_of_mem _ later)

/-- A table that holds selections only, and for every cell that a selection ends in one that no
other is better than. -/
structure Covers (segments : List Segment) (items : List (Tag × Nat)) (table : MatchTable) :
    Prop where
  sound : ∀ entry ∈ table, Selects segments items entry.2 entry.1
  complete : ∀ {picked : List Nat} {cell : Cell}, Selects segments items picked cell →
    ∃ kept, Dictionary.get? table cell = some kept ∧ isBetter picked kept = false

/-- Before any item the table covers the empty selection. -/
theorem covers_start (segments : List Segment) : Covers segments [] start where
  sound := by
    intro entry member
    rw [List.mem_singleton.mp member]
    exact .start
  complete := by
    intro picked cell selects
    generalize none : ([] : List (Tag × Nat)) = items at selects
    cases selects with
    | start => exact ⟨[], rfl, rfl⟩
    | pass item earlier => simp at none
    | take earlier fits => simp at none

/-- A step of the search with a later item covers the selections that take the item and those that
pass it over. -/
theorem Covers.extend {segments : List Segment} {items : List (Tag × Nat)} {item : Tag × Nat}
    (covers : Covers segments items table) (later : ∀ index ∈ items.map Prod.snd, index < item.2) :
    Covers segments (items ++ [item]) (table.extend segments item) := by
  rw [extend_eq_offerAll]
  have sound : ∀ entry ∈ table.offerAll (table.offers segments item),
      Selects segments (items ++ [item]) entry.2 entry.1 := by
    intro entry member
    rcases mem_offerAll member with old | offered
    · exact .pass item (covers.sound entry old)
    · obtain ⟨old, known, fromOld⟩ := List.mem_flatMap.mp offered
      obtain ⟨next, fits, rfl⟩ := List.mem_map.mp fromOld
      exact .take (covers.sound old known) fits
  refine ⟨sound, ?_⟩
  intro picked cell selects
  rcases selects_concat.mp selects with passed | ⟨earlier, previous, rfl, selected, fits⟩
  · obtain ⟨held, known, noBetter⟩ := covers.complete passed
    obtain ⟨kept, found, isKept⟩ := get?_offerAll_of_some known (table.offers segments item)
    refine ⟨kept, found, ?_⟩
    rcases isKept with rfl | longer
    · exact noBetter
    · rw [← Bool.not_eq_true, isBetter_iff] at noBetter ⊢
      omega
  · obtain ⟨held, known, noBetter⟩ := covers.complete selected
    have offered : (cell, item.2 :: held) ∈ table.offers segments item :=
      List.mem_flatMap.mpr ⟨_, Dictionary.mem_of_get? known, List.mem_map_of_mem fits⟩
    obtain ⟨kept, found, enough⟩ := get?_offerAll_of_mem offered table
    refine ⟨kept, found, ?_⟩
    -- Nothing in the table ends later than the item does.
    have early : kept.headD 0 ≤ item.2 := by
      have indices := (sound _ (Dictionary.mem_of_get? found)).sublist.subset
      cases kept with
      | nil => exact Nat.zero_le _
      | cons last rest =>
        have known : last ∈ items.map Prod.snd ++ [item.2] := by
          simpa using indices (List.mem_reverse.mpr List.mem_cons_self)
        rcases List.mem_append.mp known with before | same
        · exact Nat.le_of_lt (later last before)
        · exact Nat.le_of_eq (List.mem_singleton.mp same)
    rw [← Bool.not_eq_true, isBetter_iff] at noBetter ⊢
    simp only [List.length_cons, List.headD_cons] at enough ⊢
    omega

/-! ## The whole search -/

/-- The search through items in order covers all their selections. -/
theorem covers_search (segments : List Segment) {items : List (Tag × Nat)}
    (ordered : (items.map Prod.snd).Pairwise (· < ·)) :
    Covers segments items (items.foldl (MatchTable.extend segments) start) := by
  induction items using List.reverseRecOn with
  | nil => exact covers_start segments
  | append_singleton items item ih =>
    rw [List.map_append, List.pairwise_append] at ordered
    obtain ⟨earlier, -, before⟩ := ordered
    rw [List.foldl_append]
    refine (ih earlier).extend ?_
    intro index known
    exact before index known item.2 List.mem_cons_self

/-- The better of two selections, the first if neither is. -/
def better (found picked : List Nat) : List Nat := if isBetter picked found then picked else found

theorem best_eq_foldl (table : MatchTable) :
    best table = (table.map Prod.snd).foldl better [] := by
  rw [List.foldl_map]
  rfl

theorem isBetter_self (picked : List Nat) : isBetter picked picked = false := by
  rw [← Bool.not_eq_true, isBetter_iff]
  omega

/-- Neither of two selections is better than the better one. -/
theorem isBetter_better (found picked : List Nat) :
    isBetter found (better found picked) = false ∧
      isBetter picked (better found picked) = false := by
  rw [better]
  split
  · next wins =>
    refine ⟨?_, isBetter_self picked⟩
    rw [← Bool.not_eq_true, isBetter_iff]
    rw [isBetter_iff] at wins
    omega
  · next loses => exact ⟨isBetter_self found, by simpa using loses⟩

theorem foldl_better_mem (found : List Nat) (selections : List (List Nat)) :
    selections.foldl better found ∈ found :: selections := by
  induction selections generalizing found with
  | nil => exact List.mem_cons_self
  | cons picked rest ih =>
    rcases List.mem_cons.mp (ih (better found picked)) with same | member
    · rw [List.foldl_cons, same, better]
      split <;> simp
    · exact List.mem_cons_of_mem _ (List.mem_cons_of_mem _ member)

theorem isBetter_foldl_better (found : List Nat) (selections : List (List Nat)) {picked : List Nat}
    (member : picked ∈ found :: selections) :
    isBetter picked (selections.foldl better found) = false := by
  induction selections generalizing found picked with
  | nil =>
    rw [List.mem_singleton.mp member]
    exact isBetter_self found
  | cons next rest ih =>
    obtain ⟨overFound, overNext⟩ := isBetter_better found next
    have overBetter := ih (better found next) List.mem_cons_self
    rcases List.mem_cons.mp member with rfl | member
    · exact isBetter_false_trans overFound overBetter
    · rcases List.mem_cons.mp member with rfl | member
      · exact isBetter_false_trans overNext overBetter
      · exact ih _ (List.mem_cons_of_mem _ member)

end MatchTable

section

variable (segments : List Segment) (tags : List Tag)

/-- The items that the search goes through stand in order. -/
theorem covers_longestMatch : MatchTable.Covers segments tags.zipIdx
    (tags.zipIdx.foldl (MatchTable.extend segments) MatchTable.start) := by
  apply MatchTable.covers_search
  rw [List.zipIdx_map_snd]
  exact List.pairwise_lt_range'

/-- The longest match is a selection. -/
theorem longestMatch_selects :
    ∃ cell, Selects segments tags.zipIdx (longestMatch segments tags).reverse cell := by
  have covers := covers_longestMatch segments tags
  rw [longestMatch, List.reverse_reverse, MatchTable.best_eq_foldl]
  rcases List.mem_cons.mp (MatchTable.foldl_better_mem [] (List.map Prod.snd _)) with none | member
  · rw [none]
    exact ⟨_, selects_nothing segments tags.zipIdx⟩
  · obtain ⟨entry, known, same⟩ := List.mem_map.mp member
    rw [← same]
    exact ⟨entry.1, covers.sound entry known⟩

variable {segments tags}

/-- No selection is better than the longest match. -/
theorem isBetter_longestMatch {picked : List Nat} {cell : Cell}
    (selects : Selects segments tags.zipIdx picked cell) :
    MatchTable.isBetter picked (longestMatch segments tags).reverse = false := by
  obtain ⟨kept, found, noBetter⟩ := (covers_longestMatch segments tags).complete selects
  rw [longestMatch, List.reverse_reverse, MatchTable.best_eq_foldl]
  refine MatchTable.isBetter_false_trans noBetter (MatchTable.isBetter_foldl_better _ _ ?_)
  exact List.mem_cons_of_mem _ (List.mem_map_of_mem (Dictionary.mem_of_get? found))

/-- The longest match takes indices in order. -/
theorem longestMatch_sublist :
    (longestMatch segments tags).Sublist (List.range' 0 tags.length) := by
  obtain ⟨cell, selects⟩ := longestMatch_selects segments tags
  simpa only [List.reverse_reverse, List.zipIdx_map_snd] using selects.sublist

/-- The longest match takes every tag exactly if all tags together fit into the segments. -/
theorem forall_mem_longestMatch_iff :
    (∀ index < tags.length, index ∈ longestMatch segments tags) ↔
      ∃ cell, Reaches segments tags cell := by
  constructor
  · intro all
    obtain ⟨cell, selects⟩ := longestMatch_selects segments tags
    have whole : (List.range tags.length).Subset (longestMatch segments tags) :=
      fun index known => all index (List.mem_range.mp known)
    have enough := (List.subperm_of_subset List.nodup_range whole).length_le
    have reaches := selects.reaches (by simpa using enough)
    rw [List.zipIdx_map_fst] at reaches
    exact ⟨cell, reaches⟩
  · rintro ⟨cell, reaches⟩ index known
    have selects : Selects segments tags.zipIdx (tags.zipIdx.map Prod.snd).reverse cell :=
      Reaches.selects (by rwa [List.zipIdx_map_fst])
    have noBetter := isBetter_longestMatch selects
    rw [← Bool.not_eq_true, MatchTable.isBetter_iff] at noBetter
    simp only [List.length_reverse, List.zipIdx_map_snd, List.length_range'] at noBetter
    rw [longestMatch_sublist.eq_of_length_le (by rw [List.length_range']; omega)]
    simpa using known

end

end HtmlNesting
