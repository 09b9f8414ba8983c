import Mathlib.Computability.Language
import HtmlNesting.Proofs.Reports

/-!
# The language of a grouped model

Groups are some `first` children followed by some `second` ones, over and over. The check looks only
at both ends of the parts and goes back over the last `first` ones. That is enough, because a word
over the two tags is one of the language exactly if it is empty or starts with `first` and ends with
`second` (`Groups.mem_language_iff`).

What comes before the child that is reported is the longest prefix of the parts in the language,
whichever end is wrong (`Groups.exists_longestPrefix`).
-/

namespace HtmlNesting

/-- The runs of one tag or more of a kind. -/
def someOf (tag : Tag) : Language Tag :=
  {run | run ≠ [] ∧ ∀ other ∈ run, other = tag}

section

variable {tag : Tag} {run : List Tag}

theorem head?_of_mem_someOf (member : run ∈ someOf tag) : run.head? = some tag := by
  obtain ⟨nonempty, same⟩ := member
  rw [List.head?_eq_some_head nonempty, same _ (List.head_mem nonempty)]

theorem getLast?_of_mem_someOf (member : run ∈ someOf tag) : run.getLast? = some tag := by
  obtain ⟨nonempty, same⟩ := member
  rw [List.getLast?_eq_some_getLast nonempty, same _ (List.getLast_mem nonempty)]

theorem concat_mem_someOf (same : ∀ other ∈ run, other = tag) : run ++ [tag] ∈ someOf tag := by
  refine ⟨by simp, ?_⟩
  intro other member
  rcases List.mem_append.mp member with earlier | last
  · exact same other earlier
  · exact List.mem_singleton.mp last

end

namespace Groups

/-- The words of a grouped model: a run of `first` and a run of `second`, over and over. -/
def language (groups : Groups) : Language Tag :=
  KStar.kstar (someOf groups.first * someOf groups.second)

variable {groups : Groups} {word : List Tag}

/-- A word that is not empty starts with `first` and ends with `second`. -/
theorem ends_of_mem_language (member : word ∈ groups.language) (nonempty : word ≠ []) :
    word.head? = some groups.first ∧ word.getLast? = some groups.second := by
  obtain ⟨blocks, rfl, all⟩ := Language.mem_kstar.mp member
  clear member
  induction blocks with
  | nil => exact absurd rfl nonempty
  | cons block blocks ih =>
    obtain ⟨opening, firsts, closing, seconds, rfl⟩ :=
      Language.mem_mul.mp (all block List.mem_cons_self)
    rw [List.flatten_cons]
    constructor
    · rw [List.append_assoc, List.head?_append, head?_of_mem_someOf firsts, Option.some_or]
    · rw [List.getLast?_append, List.getLast?_append, getLast?_of_mem_someOf seconds]
      by_cases last : blocks.flatten = []
      · rw [last]
        rfl
      · rw [(ih (fun other later => all other (List.mem_cons_of_mem _ later)) last).2]
        rfl

/-- A word goes on with another group. -/
theorem append_mem_language {block : List Tag} (member : word ∈ groups.language)
    (group : block ∈ someOf groups.first * someOf groups.second) :
    word ++ block ∈ groups.language := by
  rw [language, ← Language.one_add_kstar_mul_self_eq_kstar]
  exact .inr (Language.append_mem_mul member group)

/-- The last group of a word goes on with another `second`. -/
theorem concat_second_mem_language (member : word ∈ groups.language) (nonempty : word ≠ []) :
    word ++ [groups.second] ∈ groups.language := by
  have unfolded : word ∈ (1 : Language Tag) +
      groups.language * (someOf groups.first * someOf groups.second) := by
    rw [language, Language.one_add_kstar_mul_self_eq_kstar]
    exact member
  rcases unfolded with empty | product
  · exact absurd empty nonempty
  · obtain ⟨earlier, before, block, last, rfl⟩ := Language.mem_mul.mp product
    obtain ⟨opening, firsts, closing, seconds, rfl⟩ := Language.mem_mul.mp last
    have longer : opening ++ (closing ++ [groups.second]) ∈
        someOf groups.first * someOf groups.second :=
      Language.append_mem_mul firsts (concat_mem_someOf seconds.2)
    rw [List.append_assoc, List.append_assoc]
    exact append_mem_language before longer

/-- A word over the two tags that does not start with `second` is one of the language followed by
`first` tags. -/
theorem exists_word_append (known : ∀ tag ∈ word, tag = groups.first ∨ tag = groups.second)
    (opened : word.head? ≠ some groups.second) :
    ∃ done opening, word = done ++ opening ∧ done ∈ groups.language ∧
      ∀ tag ∈ opening, tag = groups.first := by
  induction word using List.reverseRecOn with
  | nil => exact ⟨[], [], rfl, Language.nil_mem_kstar _, by simp⟩
  | append_singleton word tag ih =>
    have earlierOpened : word.head? ≠ some groups.second := by
      intro second
      rw [List.head?_append, second] at opened
      exact opened rfl
    obtain ⟨done, opening, rfl, inLanguage, firsts⟩ :=
      ih (fun other earlier => known other (List.mem_append_left _ earlier)) earlierOpened
    rcases known tag (by simp) with rfl | rfl
    · exact ⟨done, opening ++ [groups.first], List.append_assoc .., inLanguage,
        (concat_mem_someOf firsts).2⟩
    · refine ⟨done ++ opening ++ [groups.second], [], (List.append_nil _).symm, ?_, by simp⟩
      by_cases closed : opening = []
      · rw [closed, List.append_nil] at opened ⊢
        refine concat_second_mem_language inLanguage ?_
        rintro rfl
        exact opened rfl
      · -- The tag closes a group that the `first` tags have opened.
        have block : opening ++ [groups.second] ∈ someOf groups.first * someOf groups.second :=
          Language.append_mem_mul ⟨closed, firsts⟩ ⟨by simp, by simp⟩
        rw [List.append_assoc]
        exact append_mem_language inLanguage block

/-- The ends of a word over the two tags decide whether it is in the language. -/
theorem mem_language_iff (different : groups.first ≠ groups.second)
    (known : ∀ tag ∈ word, tag = groups.first ∨ tag = groups.second) :
    word ∈ groups.language ↔
      word = [] ∨ word.head? = some groups.first ∧ word.getLast? = some groups.second := by
  constructor
  · intro member
    by_cases empty : word = []
    · exact .inl empty
    · exact .inr (ends_of_mem_language member empty)
  · rintro (rfl | ⟨start, finish⟩)
    · exact Language.nil_mem_kstar _
    · obtain ⟨done, opening, rfl, inLanguage, firsts⟩ :=
        exists_word_append known (by simpa [start] using different)
      by_cases closed : opening = []
      · rwa [closed, List.append_nil]
      · have last := getLast?_of_mem_someOf ⟨closed, firsts⟩
        rw [List.getLast?_append, last, Option.some_or, Option.some.injEq] at finish
        exact absurd finish different

/-- The longest prefix of a word that is in a language. -/
structure LongestPrefix (language : Language Tag) (word done : List Tag) : Prop where
  part : done <+: word
  member : done ∈ language
  longest : ∀ other, other <+: word → other ∈ language → other.length ≤ done.length

/-- A word is in a language exactly if nothing comes after its longest prefix there. -/
theorem LongestPrefix.mem_iff {language : Language Tag} {done : List Tag}
    (prefixed : LongestPrefix language word done) :
    word ∈ language ↔ word.length ≤ done.length := by
  constructor
  · exact prefixed.longest word List.prefix_rfl
  · intro whole
    rw [← prefixed.part.eq_of_length_le whole]
    exact prefixed.member

/-- In a word that starts with something else than `first` the longest prefix is empty. -/
theorem longestPrefix_of_unopened {tag : Tag} (unopened : tag ≠ groups.first) :
    LongestPrefix groups.language (tag :: word) [] where
  part := List.nil_prefix
  member := Language.nil_mem_kstar _
  longest := by
    intro other part member
    cases other with
    | nil => exact Nat.le_refl _
    | cons start other =>
      obtain ⟨rfl, -⟩ := List.cons_prefix_cons.mp part
      have opened := (ends_of_mem_language member (by simp)).1
      exact absurd (Option.some.inj opened) unopened

/-- After a word of the language `first` tags alone make no longer one. -/
theorem longestPrefix_of_firsts (different : groups.first ≠ groups.second) {opening : List Tag}
    (member : word ∈ groups.language) (firsts : ∀ tag ∈ opening, tag = groups.first) :
    LongestPrefix groups.language (word ++ opening) word where
  part := List.prefix_append word opening
  member := member
  longest := by
    intro other part isWord
    apply Nat.le_of_not_lt
    intro longer
    obtain ⟨further, rfl⟩ :=
      List.prefix_of_prefix_length_le (List.prefix_append word opening) part (Nat.le_of_lt longer)
    have inOpening : further <+: opening := (List.prefix_append_right_inj word).mp part
    have nonempty : further ≠ [] := by
      rintro rfl
      simp at longer
    have last : further.getLast? = some groups.first :=
      getLast?_of_mem_someOf ⟨nonempty, fun tag inside => firsts tag (inOpening.subset inside)⟩
    have closed := (ends_of_mem_language isWord (by simp [nonempty])).2
    rw [List.getLast?_append, last, Option.some_or, Option.some.injEq] at closed
    exact different closed

/-! ## The report on a broken structure -/

/-- Going back from the end of a word no `first` comes before a `second`. -/
theorem takeWhile_reverse_of_mem_language (different : groups.first ≠ groups.second)
    {done : List StartTag} (member : done.map StartTag.tag ∈ groups.language) :
    (done.reverse.takeWhile fun part => part.tag == groups.first) = [] := by
  cases reversed : done.reverse with
  | nil => rfl
  | cons closing before =>
    have isLast : done.getLast? = some closing := by
      rw [List.getLast?_eq_head?_reverse, reversed, List.head?_cons]
    have nonempty : done.map StartTag.tag ≠ [] := by
      rintro empty
      simp [List.map_eq_nil_iff.mp empty] at isLast
    have closed := (ends_of_mem_language member nonempty).2
    rw [List.getLast?_map, isLast, Option.map_some, Option.some.injEq] at closed
    rw [List.takeWhile_cons_of_neg]
    simpa [closed] using different.symm

/-- Going back over the last `first` ones leads to the first of them after a word. -/
theorem lastOpening_of_split (different : groups.first ≠ groups.second) {part last : StartTag}
    {done opening earlier : List StartTag} (member : done.map StartTag.tag ∈ groups.language)
    (firsts : ∀ other ∈ part :: opening, other.tag = groups.first)
    (reversed : (done ++ part :: opening).reverse = last :: earlier) :
    groups.lastOpening last earlier = part := by
  have nothing := takeWhile_reverse_of_mem_language different member
  rw [List.reverse_append, List.reverse_cons, List.append_assoc] at reversed
  cases backwards : opening.reverse with
  | nil =>
    rw [backwards, List.nil_append, List.singleton_append] at reversed
    obtain ⟨rfl, rfl⟩ := List.cons.inj reversed
    rw [lastOpening, nothing]
    rfl
  | cons final between =>
    rw [backwards, List.cons_append] at reversed
    obtain ⟨rfl, rfl⟩ := List.cons.inj reversed
    have allFirst : ∀ other ∈ between ++ [part], (other.tag == groups.first) = true := by
      intro other inside
      have listed : other ∈ opening.reverse ++ [part] := by
        rw [backwards]
        exact List.mem_cons_of_mem _ inside
      simpa using firsts other (by simpa [or_comm] using listed)
    rw [lastOpening, ← List.append_assoc, List.takeWhile_append_of_pos allFirst, nothing,
      List.append_nil, List.getLast?_append]
    rfl

section

variable {parent start last part : StartTag} {rest earlier parts done opening : List StartTag}

/-- Both ends of the parts decide on the report. -/
theorem breakReports_cons (reversed : (start :: rest).reverse = last :: earlier) :
    groups.breakReports parent (start :: rest) =
      if start.tag ≠ groups.first then [groups.openingReport parent start]
      else if last.tag ≠ groups.second then
        [groups.closingReport parent (groups.lastOpening last earlier)]
      else [] := by
  simp only [breakReports, reversed]

/-- Parts that do not start with `first` are reported at the first one. -/
theorem breakReports_of_unopened (unopened : start.tag ≠ groups.first) :
    groups.breakReports parent (start :: rest) = [groups.openingReport parent start] := by
  cases reversed : (start :: rest).reverse with
  | nil => simp at reversed
  | cons last earlier => rw [breakReports_cons reversed, if_pos unopened]

/-- Parts that are a word of the language are not reported. -/
theorem breakReports_of_mem_language (member : parts.map StartTag.tag ∈ groups.language) :
    groups.breakReports parent parts = [] := by
  cases parts with
  | nil => rfl
  | cons start rest =>
    cases reversed : (start :: rest).reverse with
    | nil => simp at reversed
    | cons last earlier =>
      have isLast : (start :: rest).getLast? = some last := by
        rw [List.getLast?_eq_head?_reverse, reversed, List.head?_cons]
      obtain ⟨opened, closed⟩ := ends_of_mem_language member (by simp)
      rw [List.getLast?_map, isLast, Option.map_some, Option.some.injEq] at closed
      rw [List.map_cons, List.head?_cons, Option.some.injEq] at opened
      rw [breakReports_cons reversed, if_neg (not_not.mpr opened), if_neg (not_not.mpr closed)]

/-- Parts that end with `first` ones after a word are reported at the first of these. -/
theorem breakReports_of_opening (different : groups.first ≠ groups.second)
    (member : done.map StartTag.tag ∈ groups.language)
    (firsts : ∀ other ∈ part :: opening, other.tag = groups.first) :
    groups.breakReports parent (done ++ part :: opening) = [groups.closingReport parent part] := by
  cases whole : done ++ part :: opening with
  | nil => simp at whole
  | cons start rest =>
    have opened : start.tag = groups.first := by
      cases done with
      | nil =>
        obtain ⟨rfl, -⟩ := List.cons.inj whole
        exact firsts part List.mem_cons_self
      | cons head done =>
        obtain ⟨rfl, -⟩ := List.cons.inj whole
        exact Option.some.inj (ends_of_mem_language member (by simp)).1
    cases reversed : (start :: rest).reverse with
    | nil => simp at reversed
    | cons last earlier =>
      have isLast : (done ++ part :: opening).getLast? = some last := by
        rw [whole, List.getLast?_eq_head?_reverse, reversed, List.head?_cons]
      rw [List.getLast?_append_cons] at isLast
      have unclosed : last.tag ≠ groups.second := by
        rw [firsts last (List.mem_of_getLast? isLast)]
        exact different
      rw [breakReports_cons reversed, if_neg (not_not.mpr opened), if_pos unclosed,
        lastOpening_of_split different member firsts (whole ▸ reversed)]

/-- Parts are reported once, at the one after their longest prefix in the language, if there is
one. -/
theorem exists_longestPrefix (different : groups.first ≠ groups.second) (parent : StartTag)
    (known : ∀ part ∈ parts, part.tag = groups.first ∨ part.tag = groups.second) :
    ∃ done, LongestPrefix groups.language (parts.map StartTag.tag) done ∧
      ((parts[done.length]? = none ∧ groups.breakReports parent parts = []) ∨
        ∃ part message, parts[done.length]? = some part ∧
          groups.breakReports parent parts =
            [.atElement .groupBroken part message groups.severity]) := by
  have knownTags : ∀ tag ∈ parts.map StartTag.tag, tag = groups.first ∨ tag = groups.second :=
    List.forall_mem_map.mpr known
  by_cases opened : (parts.map StartTag.tag).head? = some groups.second
  · cases parts with
    | nil => simp at opened
    | cons start rest =>
      have unopened : start.tag ≠ groups.first := by
        rw [Option.some.inj opened]
        exact different.symm
      exact ⟨[], longestPrefix_of_unopened unopened,
        .inr ⟨start, _, rfl, breakReports_of_unopened unopened⟩⟩
  · obtain ⟨_, _, whole, member, firsts⟩ := exists_word_append knownTags opened
    obtain ⟨done, opening, rfl, rfl, rfl⟩ := List.map_eq_append_iff.mp whole
    have prefixed := longestPrefix_of_firsts different member firsts
    rw [← List.map_append] at prefixed
    refine ⟨_, prefixed, ?_⟩
    rw [List.length_map]
    cases opening with
    | nil =>
      rw [List.append_nil]
      exact .inl ⟨List.getElem?_eq_none (Nat.le_refl _), breakReports_of_mem_language member⟩
    | cons part opening =>
      exact .inr ⟨part, _, by simp,
        breakReports_of_opening different member (List.forall_mem_map.mp firsts)⟩

end

/-! ## Children of an element -/

/-- Whether a child has one of the two tags. -/
def isPart (groups : Groups) (child : Node) : Bool :=
  child.tag? = some groups.first ∨ child.tag? = some groups.second

theorem part?_eq_ite (groups : Groups) (child : Node) :
    groups.part? child = if groups.isPart child then child.start? else none := by
  rw [part?, isPart, Node.tag?]
  cases child.start? with
  | none => simp
  | some start => simp

theorem isNone_part? (groups : Groups) (child : Node) :
    (groups.part? child).isNone = !groups.isPart child := by
  rw [part?, isPart, Node.tag?]
  cases child.start? with
  | none => simp
  | some start =>
    by_cases known : start.tag = groups.first ∨ start.tag = groups.second <;> simp [known]

/-- The children that are parts are elements, with the start tags of the parts. -/
theorem map_start?_filter_isPart (groups : Groups) (nodes : List Node) :
    (nodes.filter groups.isPart).map Node.start? = (nodes.filterMap groups.part?).map some := by
  induction nodes with
  | nil => rfl
  | cons node rest ih =>
    cases selected : groups.isPart node with
    | false =>
      have unread : groups.part? node = none := by simp [part?_eq_ite, selected]
      rw [List.filter_cons_of_neg (by simp [selected]), List.filterMap_cons_none unread, ih]
    | true =>
      cases node with
      | text data position => simp [isPart] at selected
      | element start inside =>
        have read : groups.part? (.element start inside) = some start := by
          rw [part?_eq_ite, selected]
          rfl
        rw [List.filter_cons_of_pos selected, List.filterMap_cons_some read, List.map_cons,
          List.map_cons, ih]
        rfl

/-- Every part has one of the two tags. -/
theorem tag_of_mem_parts {children : List Node} {part : StartTag}
    (member : part ∈ groups.parts children) :
    part.tag = groups.first ∨ part.tag = groups.second := by
  obtain ⟨child, -, read⟩ := List.mem_filterMap.mp member
  rw [part?] at read
  cases own : child.start? with
  | none => simp [own] at read
  | some start =>
    simp only [own, Option.ite_none_right_eq_some, Option.some.injEq] at read
    rw [← read.2]
    exact read.1

/-- Elements have the tags of their start tags. -/
theorem filterMap_tag?_of_map_start? {nodes : List Node} {starts : List StartTag}
    (same : nodes.map Node.start? = starts.map some) :
    nodes.filterMap Node.tag? = starts.map StartTag.tag := by
  have read := congrArg (List.filterMap (Option.map StartTag.tag)) same
  rw [List.filterMap_map, List.filterMap_map] at read
  rw [← List.filterMap_eq_map]
  exact read

/-- An element is reported under its own name and position. -/
theorem atElement_of_start? {node : Node} {start : StartTag} (same : node.start? = some start)
    (code : Code) (message : String) (severity : Severity) :
    (Diagnostic.atElement code start message severity).position = node.position ∧
      (Diagnostic.atElement code start message severity).tag = node.name := by
  cases node with
  | text data position => cases same
  | element own inside =>
    cases same
    exact ⟨rfl, rfl⟩

/-- The reports on strays and on a broken structure are told apart by their codes. -/
theorem filter_isUnder_checkChildren (groups : Groups) (parent : StartTag) (children : List Node) :
    (groups.checkChildren parent children).filter (Diagnostic.isUnder [.notAllowed]) =
        (groups.strays children).map (groups.strayReport parent) ∧
      (groups.checkChildren parent children).filter (Diagnostic.isUnder [.groupBroken]) =
        groups.breakReports parent (groups.parts children) := by
  have strayCode : ∀ finding ∈ (groups.strays children).map (groups.strayReport parent),
      finding.code = Code.notAllowed.name := by
    simp [strayReport, Diagnostic.atNode]
  have breakCode : ∀ finding ∈ groups.breakReports parent (groups.parts children),
      finding.code = Code.groupBroken.name := by
    intro finding member
    obtain ⟨part, -, message, rfl⟩ := mem_breakReports member
    rfl
  simp only [checkChildren, List.filter_append, filter_isUnder_of_code strayCode,
    filter_isUnder_of_code breakCode]
  constructor
  · rw [if_pos (by decide), if_neg (by decide), List.append_nil]
  · rw [if_neg (by decide), if_pos (by decide), List.nil_append]

/-- A grouped model checks that the children are groups. Of the children white space and
script-supporting elements are left out, and of the others the strays: texts, and elements with
neither tag. Every stray is reported once as not allowed, and nothing else is.

A broken structure is reported exactly if the tags of the children left are no word of the language,
which are groups of `first` tags and `second` tags, one after another. It is reported once, at the
child after the longest prefix of the tags that is such a word. -/
theorem broken_after_longest_word (groups : Groups) (different : groups.first ≠ groups.second)
    (parent : StartTag) (children : List Node) :
    let relevant := children.filter fun child => !child.isSpaces && !child.isScriptSupporting
    let left := relevant.filter groups.isPart
    let strays := relevant.filter fun child => !groups.isPart child
    let tags := left.filterMap Node.tag?
    let found := groups.checkChildren parent children
    let broken := found.filter (Diagnostic.isUnder [.groupBroken])
    (found.filter (Diagnostic.isUnder [.notAllowed])).map (fun finding =>
        (finding.position, finding.tag)) = strays.map (fun child => (child.position, child.name)) ∧
      (broken = [] ↔ tags ∈ groups.language) ∧
      (tags ∉ groups.language → ∃ done child finding,
        LongestPrefix groups.language tags done ∧ left[done.length]? = some child ∧
          broken = [finding] ∧ finding.position = child.position ∧ finding.tag = child.name) := by
  intro relevant left strays tags found broken
  have sameStarts : left.map Node.start? = (groups.parts children).map some :=
    groups.map_start?_filter_isPart relevant
  have sameTags : tags = (groups.parts children).map StartTag.tag :=
    filterMap_tag?_of_map_start? sameStarts
  have sameStrays : groups.strays children = strays := by
    refine List.filter_congr fun child member => ?_
    rw [isNone_part?]
  obtain ⟨notAllowed, isBroken⟩ := groups.filter_isUnder_checkChildren parent children
  obtain ⟨done, prefixed, outcome⟩ := exists_longestPrefix different parent
    fun part => @tag_of_mem_parts groups children part
  have inLanguage := prefixed.mem_iff
  rw [List.length_map, ← sameTags] at inLanguage
  rw [← sameTags] at prefixed
  refine ⟨?_, ?_⟩
  · rw [notAllowed, sameStrays, List.map_map]
    rfl
  · rw [show broken = _ from isBroken, inLanguage]
    rcases outcome with ⟨finished, silent⟩ | ⟨part, message, after, report⟩
    · have whole := List.getElem?_eq_none_iff.mp finished
      exact ⟨iff_of_true silent whole, fun unfinished => absurd whole unfinished⟩
    · have unfinished := (List.getElem?_eq_some_iff.mp after).1
      have read := congrArg (·[done.length]?) sameStarts
      simp only [List.getElem?_map, after, Option.map_some, Option.map_eq_some_iff] at read
      obtain ⟨child, here, isStart⟩ := read
      obtain ⟨position, name⟩ := atElement_of_start? isStart .groupBroken message groups.severity
      refine ⟨iff_of_false (by simp [report]) (by omega), fun _ => ?_⟩
      exact ⟨done, child, _, prefixed, here, report, position, name⟩

end Groups

/-- Terms and descriptions. -/
def definitions : Groups where
  first := .dt
  second := .dd

/-- Terms without a description at the end of a list, with white space, a paragraph and a script
among the groups. -/
def openTerms : List Node := [
  .element (.named "dt" [] { line := 2 }) [], .text "\n" {},
  .element (.named "dd" [] { line := 3 }) [], .element (.named "p" [] { line := 4 }) [],
  .element (.named "dt" [] { line := 5 }) [], .element (.named "script" [] { line := 6 }) [],
  .element (.named "dt" [] { line := 7 }) []]

theorem broken_after_longest_word_openTerms :
    definitions.first ≠ definitions.second ∧
      ∃ finding, (definitions.checkChildren (.named "dl") openTerms).filter
        (Diagnostic.isUnder [.groupBroken]) = [finding] ∧ finding.position.line = 5 := by
  have different : definitions.first ≠ definitions.second := by decide
  have group : [Tag.dt, .dd] ∈ definitions.language :=
    (Groups.mem_language_iff different (by decide)).mpr (.inr ⟨rfl, rfl⟩)
  have longest : Groups.LongestPrefix definitions.language [.dt, .dd, .dt, .dt] [.dt, .dd] :=
    @Groups.longestPrefix_of_firsts definitions _ different [.dt, .dt] group (by decide)
  obtain ⟨-, -, broken⟩ :=
    definitions.broken_after_longest_word different (.named "dl") openTerms
  have tags : ((openTerms.filter fun child => !child.isSpaces && !child.isScriptSupporting).filter
      definitions.isPart).filterMap Node.tag? = [.dt, .dd, .dt, .dt] := by decide +kernel
  have lines : ((openTerms.filter fun child => !child.isSpaces && !child.isScriptSupporting).filter
      definitions.isPart).map (fun child => child.position.line) = [2, 3, 5, 7] := by decide +kernel
  rw [tags] at broken
  obtain ⟨done, child, finding, prefixed, here, report, position, -⟩ :=
    broken fun member => absurd (longest.mem_iff.mp member) (by decide)
  have same : done.length = 2 := Nat.le_antisymm
    (longest.longest done prefixed.part prefixed.member)
    (prefixed.longest _ longest.part longest.member)
  rw [same] at here
  have line := congrArg (·[2]?) lines
  simp only [List.getElem?_map, here, Option.map_some] at line
  refine ⟨different, finding, report, ?_⟩
  rw [position]
  exact Option.some.inj line

end HtmlNesting
