import HtmlNesting.Rulebook

/-!
# Filling a registry

The first entry for a tag wins. One registration adds an entry exactly if its tag is known and free
(`get?_register`), so after any number of rule sets the entry of a tag is the first one listed for
it, or a permissive one (`entry_discover`).

The built-in rules have one entry for each tag they speak of. Looking up a tag there is therefore a
question of membership: `mem_of_builtin_contexts` and `mem_of_builtin_content` lead from a rule in
force to its entry in the rulebook, and `builtin_entry_of_mem` back.
-/

namespace HtmlNesting

namespace Tag

/-- Every tag is in the list of all tags. -/
theorem mem_all (tag : Tag) : tag ∈ all := by
  cases tag <;> decide

/-- A tag is the tag of its name. -/
theorem ofName_name (tag : Tag) : ofName tag.name = tag := by
  have listed : ∀ tag ∈ all, ofName tag.name = tag := by decide +kernel
  exact listed tag (mem_all tag)

end Tag

/-- The tag of an entry under the name of a tag. -/
@[simp] theorem RuleEntry.tag_of (tag : Tag) (contexts : List ContextRule)
    (content : Option ContentModel) : (RuleEntry.of tag contexts content).tag = tag :=
  Tag.ofName_name tag

/-- A key is looked up in the first of two dictionaries, and in the second if it is not there. -/
theorem Dictionary.get?_append {κ α : Type} [BEq κ] (first second : Dictionary κ α) (key : κ) :
    get? (first ++ second) key = (get? first key).or (get? second key) := by
  induction first with
  | nil => rfl
  | cons entry rest ih =>
    obtain ⟨other, value⟩ := entry
    by_cases same : (other == key) = true
    · simp [get?, same]
    · simp [get?, same, ih]

/-- A key that does not occur is not found. -/
theorem Dictionary.get?_eq_none {κ α : Type} [BEq κ] [LawfulBEq κ] {entries : Dictionary κ α}
    {key : κ} (missing : key ∉ keys entries) : get? entries key = none := by
  induction entries with
  | nil => rfl
  | cons entry rest ih =>
    rw [keys, List.map_cons, List.mem_cons, not_or] at missing
    have different : (entry.1 == key) = false := by simpa using Ne.symm missing.1
    simp [get?, different, ih missing.2]

/-- The first of some entries for a tag. The unknown tag has none. -/
def listedFor? (entries : List RuleEntry) (tag : Tag) : Option RuleEntry :=
  if tag = .unknown then none else entries.find? fun entry => entry.tag = tag

namespace Discovery

/-- One registration: an entry is found afterwards if it was found before, or if it is the
registered one and its tag was free. -/
theorem get?_register (ruleSet : RuleSet) (discovery : Discovery) (entry : RuleEntry) (tag : Tag) :
    Dictionary.get? (discovery.register ruleSet entry).registry.entries tag =
      (Dictionary.get? discovery.registry.entries tag).or (listedFor? [entry] tag) := by
  by_cases unsupported : entry.tag = .unknown
  · have missing : listedFor? [entry] tag = none := by
      by_cases unknown : tag = .unknown
      · simp [listedFor?, unknown]
      · simp [listedFor?, unknown, unsupported, Ne.symm unknown]
    simp [register, unsupported, missing]
  · cases known : Dictionary.get? discovery.registry.entries entry.tag with
    | some earlier =>
      rw [register, if_neg unsupported, if_pos (by simp [Dictionary.has, known])]
      by_cases same : entry.tag = tag
      · simp [← same, known]
      · simp [listedFor?, same]
    | none =>
      rw [register, if_neg unsupported, if_neg (by simp [Dictionary.has, known]),
        Dictionary.get?_append]
      refine congrArg _ ?_
      by_cases same : entry.tag = tag
      · simp [Dictionary.get?, listedFor?, ← same, unsupported]
      · simp [Dictionary.get?, listedFor?, same]

/-- The first entry in two lists is that of the first list, or else that of the second. -/
theorem listedFor?_append (first second : List RuleEntry) (tag : Tag) :
    listedFor? (first ++ second) tag = (listedFor? first tag).or (listedFor? second tag) := by
  by_cases unknown : tag = .unknown
  · simp [listedFor?, unknown]
  · simp [listedFor?, unknown]

/-- Registering entries in order looks for the first of them. -/
theorem get?_foldl_register (ruleSet : RuleSet) (entries : List RuleEntry) (discovery : Discovery)
    (tag : Tag) :
    Dictionary.get? (entries.foldl (register ruleSet) discovery).registry.entries tag =
      (Dictionary.get? discovery.registry.entries tag).or (listedFor? entries tag) := by
  induction entries generalizing discovery with
  | nil => simp [listedFor?]
  | cons entry rest ih =>
    have split := listedFor?_append [entry] rest tag
    rw [List.singleton_append] at split
    rw [List.foldl_cons, ih, get?_register, split, Option.or_assoc]

/-- Registering rule sets in order looks for the first entry in any of them. -/
theorem get?_foldl_registerAll (ruleSets : List RuleSet) (discovery : Discovery) (tag : Tag) :
    Dictionary.get? (ruleSets.foldl registerAll discovery).registry.entries tag =
      (Dictionary.get? discovery.registry.entries tag).or
        (listedFor? (ruleSets.flatMap RuleSet.entries) tag) := by
  induction ruleSets generalizing discovery with
  | nil => simp [listedFor?]
  | cons ruleSet rest ih =>
    rw [List.foldl_cons, ih, registerAll, get?_foldl_register, List.flatMap_cons,
      listedFor?_append, Option.or_assoc]

end Discovery

/-- The entry of a tag in a filled registry is the first one listed for it, or a permissive one. -/
theorem Registry.entry_discover (ruleSets : List RuleSet) (tag : Tag) :
    (Registry.discover ruleSets).registry.entry tag =
      (listedFor? (ruleSets.flatMap RuleSet.entries) tag).getD (.permissive tag) := by
  rw [Registry.entry, Registry.discover, Discovery.get?_foldl_registerAll]
  rfl

/-! ## The built-in rules -/

/-- All built-in entries in order. -/
def Rulebook.entries : List RuleEntry :=
  Rulebook.ruleSets.flatMap RuleSet.entries

/-- The tags that have built-in rules, in the order of their entries. -/
def Rulebook.tags : List Tag := [
  .html, .head, .body, .ins, .del, .img, .iframe, .embed, .object, .param, .video, .audio, .source,
  .track, .map, .area, .p, .hr, .pre, .blockquote, .ol, .ul, .li, .dl, .dt, .dd, .figure,
  .figcaption, .div, .main, .title, .base, .link, .metaTag, .style, .article, .sectionTag, .nav,
  .aside, .h1, .h2, .h3, .h4, .h5, .h6, .header, .footer, .address, .table, .caption, .colgroup,
  .col, .tbody, .thead, .tfoot, .tr, .td, .th, .a, .em, .strong, .small, .s, .cite, .q, .abbr,
  .data, .time, .code, .var, .samp, .kbd, .sub, .sup, .i, .b, .u, .mark, .bdi, .bdo, .span, .dfn,
  .ruby, .rb, .rt, .rtc, .rp, .br, .wbr]

/-- The built-in entries are listed under the names of their tags. -/
theorem Rulebook.entries_tag : Rulebook.entries.map RuleEntry.tag = Rulebook.tags := by
  have names : Rulebook.entries.map RuleEntry.name = Rulebook.tags.map Tag.name := rfl
  have byName : RuleEntry.tag = Tag.ofName ∘ RuleEntry.name := rfl
  rw [byName, ← List.map_map, names, List.map_map]
  simp [Function.comp_def, Tag.ofName_name]

/-- A built-in entry is listed beside its tag. Evaluation over this list reads no names. -/
theorem Rulebook.mem_zip_tags {entry : RuleEntry} (member : entry ∈ Rulebook.entries) :
    (entry, entry.tag) ∈ Rulebook.entries.zip Rulebook.tags := by
  rw [← entries_tag, ← List.map_prod_left_eq_zip]
  exact List.mem_map_of_mem member

/-- The built-in entries are for different tags, none of which is the unknown one. -/
theorem Rulebook.distinct_tags :
    (Rulebook.entries.map RuleEntry.tag).Nodup ∧
      Tag.unknown ∉ Rulebook.entries.map RuleEntry.tag := by
  rw [entries_tag]
  decide +kernel

/-- Looking up a tag in the built-in registry. -/
theorem Registry.builtin_entry (tag : Tag) :
    Registry.builtin.entry tag = (listedFor? Rulebook.entries tag).getD (.permissive tag) := by
  rw [Registry.builtin, Registry.entry_discover, Rulebook.entries]

/-- Of entries with different tags, each is the first one for its tag. -/
theorem listedFor?_of_mem {entries : List RuleEntry} {entry : RuleEntry}
    (distinct : (entries.map RuleEntry.tag).Nodup) (known : entry.tag ≠ .unknown)
    (member : entry ∈ entries) : listedFor? entries entry.tag = some entry := by
  rw [listedFor?, if_neg known]
  obtain ⟨earlier, later, rfl⟩ := List.append_of_mem member
  rw [List.map_append, List.nodup_append] at distinct
  rw [List.find?_append, List.find?_eq_none.mpr, Option.none_or, List.find?_cons_of_pos (by simp)]
  intro other isEarlier same
  have sameTag : other.tag = entry.tag := by simpa using same
  exact distinct.2.2 other.tag (List.mem_map_of_mem isEarlier) entry.tag (by simp) sameTag

/-- A built-in entry is in force for its tag. -/
theorem Registry.builtin_entry_of_mem {entry : RuleEntry} (member : entry ∈ Rulebook.entries) :
    Registry.builtin.entry entry.tag = entry := by
  have known : entry.tag ≠ .unknown := by
    intro unknown
    exact Rulebook.distinct_tags.2 (unknown ▸ List.mem_map_of_mem member)
  rw [builtin_entry, listedFor?_of_mem Rulebook.distinct_tags.1 known member, Option.getD_some]

/-- A built-in entry written for a tag is in force for it. -/
theorem Registry.builtin_entry_of {tag : Tag} {contexts : List ContextRule}
    {content : Option ContentModel} (listed : .of tag contexts content ∈ Rulebook.entries) :
    Registry.builtin.entry tag = .of tag contexts content := by
  have inForce := builtin_entry_of_mem listed
  rwa [RuleEntry.tag_of] at inForce

/-- The content model of a built-in entry is in force for its tag. -/
theorem Registry.builtin_content_of_mem {entry : RuleEntry} (member : entry ∈ Rulebook.entries) :
    Registry.builtin.content? entry.tag = entry.content := by
  rw [content?, builtin_entry_of_mem member]

/-- An entry in force is a built-in one for the tag or has no rules. -/
theorem Registry.builtin_entry_cases (tag : Tag) :
    (Registry.builtin.entry tag ∈ Rulebook.entries ∧ (Registry.builtin.entry tag).tag = tag) ∨
      Registry.builtin.entry tag = .permissive tag := by
  rw [builtin_entry, listedFor?]
  split
  · exact .inr rfl
  · cases found : Rulebook.entries.find? fun entry => entry.tag = tag with
    | none => exact .inr rfl
    | some entry =>
      left
      exact ⟨List.mem_of_find?_eq_some found, by simpa using List.find?_some found⟩

/-- A context rule in force comes from the rulebook. -/
theorem Registry.mem_of_builtin_contexts {tag : Tag} {rule : ContextRule}
    (inForce : rule ∈ (Registry.builtin.entry tag).contexts) :
    ∃ entry ∈ Rulebook.entries, entry.tag = tag ∧ rule ∈ entry.contexts := by
  rcases builtin_entry_cases tag with ⟨member, same⟩ | permissive
  · exact ⟨_, member, same, inForce⟩
  · simp [permissive, RuleEntry.permissive, RuleEntry.of] at inForce

/-- A content model in force comes from the rulebook. -/
theorem Registry.mem_of_builtin_content {tag : Tag} {model : ContentModel}
    (inForce : Registry.builtin.content? tag = some model) :
    ∃ entry ∈ Rulebook.entries, entry.tag = tag ∧ entry.content = some model := by
  rw [content?] at inForce
  rcases builtin_entry_cases tag with ⟨member, same⟩ | permissive
  · exact ⟨_, member, same, inForce⟩
  · simp [permissive, RuleEntry.permissive, RuleEntry.of] at inForce

end HtmlNesting
