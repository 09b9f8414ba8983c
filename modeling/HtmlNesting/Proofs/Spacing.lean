import HtmlNesting.Proofs.Surroundings
import HtmlNesting.Proofs.Validation

/-!
# White space between elements

`Respaced` relates two lists of nodes one of which comes from the other by putting in and taking out
texts of white space, at any depth. The elements of two such lists correspond, in document order,
and every check finds the same about an element and its counterpart: its siblings and its children
are alike, the start tags around it and inside it are the same. So validation finds the same.
-/

namespace HtmlNesting

/-- Two lists of nodes that differ in texts of white space, at any depth. -/
inductive Respaced : List Node → List Node → Prop where
  | nil : Respaced [] []
  | delete {data : String} {position : Position} {first second : List Node}
      (spaces : Text.isSpaces data = true) (rest : Respaced first second) :
      Respaced (.text data position :: first) second
  | insert {data : String} {position : Position} {first second : List Node}
      (spaces : Text.isSpaces data = true) (rest : Respaced first second) :
      Respaced first (.text data position :: second)
  | text {data : String} {position : Position} {first second : List Node}
      (rest : Respaced first second) :
      Respaced (.text data position :: first) (.text data position :: second)
  | element {start : StartTag} {children others first second : List Node}
      (inside : Respaced children others) (rest : Respaced first second) :
      Respaced (.element start children :: first) (.element start others :: second)

/-- Two trees that differ in texts of white space. -/
inductive Tree.Respaced : Tree → Tree → Prop where
  | detached {start : StartTag} {children others : List Node}
      (inside : HtmlNesting.Respaced children others) :
      Tree.Respaced (.detached start children) (.detached start others)
  | document {nodes others : List Node} (top : HtmlNesting.Respaced nodes others) :
      Tree.Respaced (.document nodes) (.document others)

/-- Lists that are alike stay so with lists that are alike behind them. -/
theorem Alike.append {move : Position → Position} {first second third fourth : List Node}
    (front : Alike move first second) (back : Alike move third fourth) :
    Alike move (first ++ third) (second ++ fourth) := by
  induction front with
  | nil => exact back
  | spacesFirst spaces _ ih => exact .spacesFirst spaces ih
  | spacesSecond spaces _ ih => exact .spacesSecond spaces ih
  | text _ ih => exact .text ih
  | element _ ih => exact .element ih

namespace Respaced

variable {first second : List Node}

/-- Lists that differ in white space look alike. -/
theorem alike (respaced : Respaced first second) : Alike id first second := by
  induction respaced with
  | nil => exact .nil
  | delete spaces _ ih => exact .spacesFirst spaces ih
  | insert spaces _ ih => exact .spacesSecond spaces ih
  | text _ ih => exact .text ih
  | element _ _ _ ih => exact .element ih

/-- A list of nodes differs from itself in no white space. -/
theorem refl : (nodes : List Node) → Respaced nodes nodes
  | [] => .nil
  | .text _ _ :: rest => .text (refl rest)
  | .element _ children :: rest => .element (refl children) (refl rest)

/-- White space adds no start tags at any depth. -/
theorem placesIn_start (respaced : Respaced first second) (above others : List Level)
    (before earlier : List Node) :
    (placesIn above before first).map (fun place => place.start) =
      (placesIn others earlier second).map (fun place => place.start) := by
  induction respaced generalizing above others before earlier with
  | nil => rfl
  | delete _ _ ih => simpa [placesIn, placesOf] using ih _ _ _ _
  | insert _ _ ih => simpa [placesIn, placesOf] using ih _ _ _ _
  | text _ ih => simpa [placesIn, placesOf] using ih _ _ _ _
  | @element start children inner _ _ _ _ insideSame restSame =>
    simp only [placesIn, placesOf, List.map_append, List.map_cons]
    rw [insideSame _ (_ :: others) [] [], restSame _ others _ _]

/-- The content check finds the same about an element below the same start tags whose children
differ in white space. -/
theorem checkContent_congr (registry : Registry) {place other : Place}
    (lineage : place.lineage = other.lineage) (children : Respaced place.children other.children)
    (entry : RuleEntry) :
    entry.checkContent registry (.element place) =
      entry.checkContent registry (.element other) := by
  have inside : place.descendants.map (fun inner => inner.start) =
      other.descendants.map (fun inner => inner.start) := by
    rw [Place.descendants_eq_placesIn, Place.descendants_eq_placesIn]
    exact children.placesIn_start _ _ _ _
  rw [RuleEntry.checkContent, RuleEntry.checkContent]
  cases entry.content with
  | none => rfl
  | some model => exact model.check_congr registry lineage children.alike inside

/-- The checks find the same about an element whose surroundings are alike and whose children differ
in white space. -/
theorem checkPlace_congr (registry : Registry) {place other : Place}
    (around : place.AlikeAround other) (children : Respaced place.children other.children) :
    registry.checkPlace place = registry.checkPlace other := by
  have sameTag : place.tag = other.tag := congrArg StartTag.tag around.start
  have lineage : place.lineage = other.lineage := by
    rw [Place.lineage, Place.lineage, around.start, around.above]
  rw [Registry.checkPlace, Registry.checkPlace, sameTag,
    children.checkContent_congr registry lineage, RuleEntry.checkContext, RuleEntry.checkContext,
    ContextRule.checkAll_congr registry around]

/-- The elements of lists that differ in white space correspond, and the checks find the same about
each of them. -/
theorem map_checkPlace (registry : Registry) (respaced : Respaced first second)
    {above others : List Level} (levels : above.map Level.start = others.map Level.start)
    {before earlier : List Node} (front : Alike id before earlier) :
    (placesIn above before first).map registry.checkPlace =
      (placesIn others earlier second).map registry.checkPlace := by
  induction respaced generalizing above others before earlier with
  | nil => rfl
  | @delete data position _ _ spaces _ ih =>
    have frontAlike : Alike id (before ++ [.text data position]) (earlier ++ []) :=
      front.append (.spacesFirst spaces .nil)
    rw [List.append_nil] at frontAlike
    simpa only [placesIn, placesOf, List.nil_append] using ih levels frontAlike
  | @insert data position _ _ spaces _ ih =>
    have frontAlike : Alike id (before ++ []) (earlier ++ [.text data position]) :=
      front.append (.spacesSecond spaces .nil)
    rw [List.append_nil] at frontAlike
    simpa only [placesIn, placesOf, List.nil_append] using ih levels frontAlike
  | @text data position _ _ _ ih =>
    have frontAlike : Alike id (before ++ [.text data position])
        (earlier ++ [.text data position]) := front.append (.text .nil)
    simpa only [placesIn, placesOf, List.nil_append] using ih levels frontAlike
  | @element start children inner rest restOther inside restRespaced insideSame restSame =>
    have head : registry.checkPlace { start, before, after := rest, children, above } =
        registry.checkPlace
          { start, before := earlier, after := restOther, children := inner, above := others } :=
      checkPlace_congr registry ⟨rfl, front, restRespaced.alike, levels⟩ inside
    have frontAlike : Alike id (before ++ [.element start children])
        (earlier ++ [.element start inner]) := front.append (.element .nil)
    have insideLevels : ({ start, before, after := rest } :: above : List Level).map Level.start =
        ({ start, before := earlier, after := restOther } :: others : List Level).map
          Level.start := by
      rw [List.map_cons, List.map_cons, levels]
    simp only [placesIn, placesOf, List.map_append, List.map_cons, head,
      insideSame insideLevels .nil, restSame levels frontAlike]

end Respaced

/-- The top-level nodes of trees that differ in white space do so too. -/
theorem Tree.Respaced.nodes {tree other : Tree} (respaced : tree.Respaced other) :
    HtmlNesting.Respaced tree.nodes other.nodes := by
  cases respaced with
  | detached inside => exact .element inside .nil
  | document top => exact top

/-- Under any registry validation comes out the same for trees that differ in white space. -/
theorem Registry.validate_respaced (registry : Registry) {tree other : Tree}
    (respaced : tree.Respaced other) : registry.validate tree = registry.validate other := by
  have same : tree.visited.map registry.checkPlace = other.visited.map registry.checkPlace := by
    rw [tree.visited_eq_places, other.visited_eq_places]
    exact respaced.nodes.map_checkPlace registry rfl .nil
  rw [Registry.validate, Registry.validate, gather_congr same]

/-- White space between elements is never content: putting in and taking out texts of white space,
anywhere in a document or an element on its own, leaves the findings as they are. -/
theorem findings_unchanged_by_spaces {tree other : Tree} (respaced : tree.Respaced other) :
    ∃ findings, validate tree = .ok findings ∧ validate other = .ok findings := by
  obtain ⟨findings, returned⟩ := Registry.builtin_validate_returns tree
  refine ⟨findings, returned, ?_⟩
  rw [validate, ← Registry.builtin.validate_respaced respaced]
  exact returned

/-- A table with a row and a stray paragraph, written on one line. -/
def tableOnOneLine : Tree :=
  .document [.element (.named "table") [.element (.named "tr") [], .element (.named "p") []]]

/-- The same table written over several lines. -/
def tableOverLines : Tree :=
  .document [
    .text "\n" {},
    .element (.named "table") [
      .text "\n  " {}, .element (.named "tr") [.text "" {}], .text " \t" {},
      .element (.named "p") [], .text "\r\n" {}]]

theorem findings_unchanged_by_spaces_table :
    tableOnOneLine.Respaced tableOverLines ∧
      ∃ findings,
        validate tableOnOneLine = .ok findings ∧ validate tableOverLines = .ok findings := by
  have respaced : tableOnOneLine.Respaced tableOverLines := by
    refine .document (.insert (by decide) (.element ?_ .nil))
    refine .insert (by decide) (.element (.insert (by decide) .nil) ?_)
    exact .insert (by decide) (.element .nil (.insert (by decide) .nil))
  exact ⟨respaced, findings_unchanged_by_spaces respaced⟩

end HtmlNesting
