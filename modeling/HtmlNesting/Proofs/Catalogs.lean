import Mathlib.Data.List.Nodup
import HtmlNesting.Proofs.Lookups
import HtmlNesting.Proofs.Orders

/-!
# What a discovery leaves behind

The entries of all rule sets form one list, which a discovery goes through in order. `Reflects` says
what the entries so far come to: the table holds the first entry of every known tag, the codes are
those of the entries in the table, and there is a notice on each of the others. One registration
keeps this (`Reflects.register`), so it holds of a whole discovery (`reflects_discover`).

The main statement, `discovery_first_wins`, draws from this what can be seen of a catalog.
-/

namespace HtmlNesting

/-- The entries of rule sets in the order in which they are registered, each with its rule set. -/
def RuleSet.listed (ruleSets : List RuleSet) : List (RuleSet × RuleEntry) :=
  ruleSets.flatMap fun ruleSet => ruleSet.entries.map fun entry => (ruleSet, entry)

/-- An entry that some listed ones put in force for a tag: the first one for it, or a permissive one
if there is none. No entry is in force for the unknown tag. -/
inductive InForce (listed : List RuleEntry) (tag : Tag) : RuleEntry → Prop where
  | first {earlier later : List RuleEntry} {entry : RuleEntry}
      (found : listed = earlier ++ entry :: later) (known : tag ≠ .unknown)
      (own : entry.tag = tag) (fresh : ∀ other ∈ earlier, other.tag ≠ tag) :
      InForce listed tag entry
  | missing (none : tag = .unknown ∨ ∀ entry ∈ listed, entry.tag ≠ tag) :
      InForce listed tag (.permissive tag)

/-- The notice on a listed entry that follows some others, if it is passed over: its name has no
tag, or one of the others has the same tag. -/
def Notice.on? (earlier : List (RuleSet × RuleEntry)) (item : RuleSet × RuleEntry) :
    Option Notice :=
  if item.2.tag = .unknown then some (.unsupported item.2.name item.1.fullName)
  else if ∃ other ∈ earlier, other.2.tag = item.2.tag then
    some (.duplicate item.2.name item.1.fullName)
  else none

/-- The notices on listed entries, in the order of the entries they are on. -/
def Notice.onAll (listed : List (RuleSet × RuleEntry)) : List Notice :=
  listed.zipIdx.filterMap fun item => Notice.on? (listed.take item.2) item.1

/-- The last of some entries has its notice at the end. -/
theorem Notice.onAll_concat (listed : List (RuleSet × RuleEntry)) (item : RuleSet × RuleEntry) :
    Notice.onAll (listed ++ [item]) = Notice.onAll listed ++ (Notice.on? listed item).toList := by
  rw [onAll, List.zipIdx_append, List.filterMap_append]
  refine congrArg₂ (· ++ ·) ?_ ?_
  · apply List.filterMap_congr
    intro other known
    have inRange : other.2 ≤ listed.length := by
      have := (List.mem_zipIdx known).2.1
      omega
    rw [List.take_append_of_le_length inRange]
  · cases answer : Notice.on? listed item <;> simp [answer]

namespace Discovery

/-- What a discovery has come to after some listed entries. -/
structure Reflects (discovery : Discovery) (listed : List (RuleSet × RuleEntry)) : Prop where
  entries : ∀ tag, Dictionary.get? discovery.registry.entries tag =
    listedFor? (listed.map Prod.snd) tag
  distinct : (Dictionary.keys discovery.registry.entries).Nodup
  codes : discovery.codes = discovery.registry.entries.flatMap fun entry => entry.2.codeNames
  notices : discovery.notices = Notice.onAll listed

/-- A known tag is taken exactly if one of the listed entries has it. -/
theorem Reflects.has_iff {discovery : Discovery} {listed : List (RuleSet × RuleEntry)}
    (reflects : discovery.Reflects listed) {tag : Tag} (known : tag ≠ .unknown) :
    Dictionary.has discovery.registry.entries tag = true ↔ ∃ item ∈ listed, item.2.tag = tag := by
  rw [Dictionary.has, reflects.entries, listedFor?, if_neg known, List.find?_isSome]
  simp only [List.mem_map, decide_eq_true_eq]
  constructor
  · rintro ⟨_, ⟨item, member, rfl⟩, own⟩
    exact ⟨item, member, own⟩
  · rintro ⟨item, member, own⟩
    exact ⟨item.2, ⟨item, member, rfl⟩, own⟩

/-- An entry that is passed over leaves the notice on it and nothing else. -/
theorem Reflects.pass {discovery : Discovery} {listed : List (RuleSet × RuleEntry)}
    (reflects : discovery.Reflects listed) {item : RuleSet × RuleEntry} {notice : Notice}
    (passed : Notice.on? listed item = some notice)
    (entries : ∀ tag, Dictionary.get? discovery.registry.entries tag =
      listedFor? ((listed ++ [item]).map Prod.snd) tag) :
    Discovery.Reflects { discovery with notices := discovery.notices ++ [notice] }
      (listed ++ [item]) where
  entries := entries
  distinct := reflects.distinct
  codes := reflects.codes
  notices := by
    rw [Notice.onAll_concat, passed, reflects.notices]
    rfl

/-- One registration: the entry is registered, or there is a notice on it. -/
theorem Reflects.register {discovery : Discovery} {listed : List (RuleSet × RuleEntry)}
    (reflects : discovery.Reflects listed) (ruleSet : RuleSet) (entry : RuleEntry) :
    (discovery.register ruleSet entry).Reflects (listed ++ [(ruleSet, entry)]) := by
  have entries : ∀ tag,
      Dictionary.get? (discovery.register ruleSet entry).registry.entries tag =
        listedFor? ((listed ++ [(ruleSet, entry)]).map Prod.snd) tag := by
    intro tag
    rw [get?_register, reflects.entries, List.map_append, listedFor?_append]
    rfl
  by_cases unsupported : entry.tag = .unknown
  · rw [Discovery.register, if_pos unsupported] at entries ⊢
    exact reflects.pass (if_pos unsupported) entries
  · have taken := reflects.has_iff unsupported
    by_cases duplicate : Dictionary.has discovery.registry.entries entry.tag = true
    · rw [Discovery.register, if_neg unsupported, if_pos duplicate] at entries ⊢
      refine reflects.pass ?_ entries
      rw [Notice.on?, if_neg unsupported, if_pos (taken.mp duplicate)]
    · rw [Discovery.register, if_neg unsupported, if_neg duplicate] at entries ⊢
      refine ⟨entries, ?_, ?_, ?_⟩
      · have free : entry.tag ∉ Dictionary.keys discovery.registry.entries := by
          intro listed
          obtain ⟨held, found⟩ := (Dictionary.mem_keys_iff _ _).mp listed
          exact duplicate (by rw [Dictionary.has, found]; rfl)
        rw [Dictionary.keys, List.map_append, List.map_singleton, ← List.concat_eq_append]
        exact reflects.distinct.concat free
      · simp [reflects.codes]
      · rw [Notice.onAll_concat, Notice.on?, if_neg unsupported, if_neg (taken.not.mp duplicate),
          reflects.notices]
        simp

/-- Registering the entries of a rule set one after another. -/
theorem Reflects.foldl_register {discovery : Discovery} {listed : List (RuleSet × RuleEntry)}
    (reflects : discovery.Reflects listed) (ruleSet : RuleSet) (entries : List RuleEntry) :
    (entries.foldl (Discovery.register ruleSet) discovery).Reflects
      (listed ++ entries.map fun entry => (ruleSet, entry)) := by
  induction entries generalizing discovery listed with
  | nil => simpa using reflects
  | cons entry rest ih =>
    have further := ih (reflects.register ruleSet entry)
    rwa [List.append_assoc, List.singleton_append] at further

/-- Registering rule sets one after another. -/
theorem Reflects.foldl_registerAll {discovery : Discovery} {listed : List (RuleSet × RuleEntry)}
    (reflects : discovery.Reflects listed) (ruleSets : List RuleSet) :
    (ruleSets.foldl registerAll discovery).Reflects (listed ++ RuleSet.listed ruleSets) := by
  induction ruleSets generalizing discovery listed with
  | nil => simpa [RuleSet.listed] using reflects
  | cons ruleSet rest ih =>
    have further := ih (reflects.foldl_register ruleSet ruleSet.entries)
    rwa [List.append_assoc] at further

/-- Before any entry there is nothing. -/
theorem reflects_nothing : Discovery.Reflects {} [] where
  entries := by
    intro tag
    simp [Dictionary.get?, listedFor?]
  distinct := List.nodup_nil
  codes := rfl
  notices := rfl

/-- A discovery comes to what the entries of all its rule sets come to. -/
theorem reflects_discover (ruleSets : List RuleSet) :
    (Registry.discover ruleSets).Reflects (RuleSet.listed ruleSets) :=
  reflects_nothing.foldl_registerAll ruleSets

/-- The entry in force for a tag is the first one, or a permissive one. -/
theorem Reflects.inForce {discovery : Discovery} {listed : List (RuleSet × RuleEntry)}
    (reflects : discovery.Reflects listed) (tag : Tag) :
    InForce (listed.map Prod.snd) tag (discovery.registry.entry tag) := by
  rw [Registry.entry, reflects.entries, listedFor?]
  by_cases unknown : tag = .unknown
  · rw [if_pos unknown]
    exact .missing (.inl unknown)
  · rw [if_neg unknown]
    cases found : (listed.map Prod.snd).find? fun entry => entry.tag = tag with
    | none =>
      apply InForce.missing
      right
      intro entry member
      simpa using List.find?_eq_none.mp found entry member
    | some entry =>
      obtain ⟨own, earlier, later, split, fresh⟩ := List.find?_eq_some_iff_append.mp found
      exact .first split unknown (by simpa using own) (by simpa using fresh)

/-- The codes met are those of the entries in force. -/
theorem Reflects.mem_codes_iff {discovery : Discovery} {listed : List (RuleSet × RuleEntry)}
    (reflects : discovery.Reflects listed) (code : String) :
    code ∈ discovery.codes ↔ ∃ tag, code ∈ (discovery.registry.entry tag).codeNames := by
  rw [reflects.codes, List.mem_flatMap]
  constructor
  · rintro ⟨⟨tag, entry⟩, member, declared⟩
    refine ⟨tag, ?_⟩
    rwa [Registry.entry, Dictionary.get?_of_mem reflects.distinct member]
  · rintro ⟨tag, declared⟩
    rw [Registry.entry] at declared
    cases registered : Dictionary.get? discovery.registry.entries tag with
    | none =>
      -- A permissive entry declares nothing, so its tag contributes no code.
      rw [registered, Option.getD_none, RuleEntry.codeNames, Text.mem_sortedTexts] at declared
      simp [RuleEntry.permissive, RuleEntry.of, RuleEntry.codes] at declared
    | some entry =>
      rw [registered] at declared
      exact ⟨_, Dictionary.mem_of_get? registered, declared⟩

/-- The codes met are those that the registry finds in its table. -/
theorem Reflects.sortedTexts_codes {discovery : Discovery} {listed : List (RuleSet × RuleEntry)}
    (reflects : discovery.Reflects listed) :
    Text.sortedTexts discovery.codes = discovery.registry.codeNames := by
  apply Text.isOrder_textLe.distinctSorted_congr
  intro code
  rw [reflects.codes, List.mem_flatMap, List.mem_flatMap]
  simp only [RuleEntry.codeNames, Text.mem_sortedTexts]

end Discovery

/-- An entry in force for a tag is an entry for it. -/
theorem InForce.tag_eq {listed : List RuleEntry} {tag : Tag} {entry : RuleEntry}
    (inForce : InForce listed tag entry) : entry.tag = tag := by
  cases inForce with
  | first found known own fresh => exact own
  | missing none => exact RuleEntry.tag_of tag [] Option.none

namespace Catalog

/-- The first entry for a tag wins, and no tag is without one. After a discovery the table has the
first listed entry for every known tag that has one and a permissive entry for every other tag; the
codes are those of the entries in the table, in strictly increasing order; there is one notice on
each entry passed over, in the order of the entries, and no other; and a further discovery changes
nothing, whatever rule sets there are by then. -/
theorem discovery_first_wins (ruleSets others : List RuleSet) :
    let listed := RuleSet.listed ruleSets
    let catalog := empty.discover ruleSets
    (∀ tag, Dictionary.get? catalog.discovery.registry.table tag = some (catalog.entry tag) ∧
        (catalog.entry tag).tag = tag ∧
        InForce (listed.map Prod.snd) tag (catalog.entry tag)) ∧
      catalog.entry .unknown = { name := "", contexts := [], content := none } ∧
      catalog.codeNames.Pairwise (fun first second =>
        Text.textLe first second = true ∧ Text.textLe second first = false) ∧
      (∀ code, code ∈ catalog.codeNames ↔ ∃ tag, code ∈ (catalog.entry tag).codeNames) ∧
      catalog.codeNames = catalog.discovery.registry.codeNames ∧
      catalog.notices = Notice.onAll listed ∧
      catalog.discover others = catalog := by
  intro listed catalog
  have reflects : catalog.discovery.Reflects listed := Discovery.reflects_discover ruleSets
  refine ⟨fun tag => ⟨Registry.get?_table _ tag, ?_, reflects.inForce tag⟩, ?_, ?_, ?_,
    reflects.sortedTexts_codes, reflects.notices, rfl⟩
  · exact (reflects.inForce tag).tag_eq
  · have unknown : InForce _ .unknown (catalog.entry .unknown) := reflects.inForce .unknown
    generalize catalog.entry .unknown = entry at unknown ⊢
    cases unknown with
    | first found known own fresh => exact absurd rfl known
    | missing none => rfl
  · exact Text.isOrder_textLe.pairwise_distinctSorted catalog.discovery.codes
  · intro code
    rw [codeNames, Text.mem_sortedTexts]
    exact reflects.mem_codes_iff code

end Catalog

end HtmlNesting
