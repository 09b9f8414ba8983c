import HtmlNesting.Content.Check

/-!
# What a check sees of a list of nodes

A check of children looks at the start tags of elements and at text that is content. It sees neither
white space between elements nor what is inside the children, and it does nothing with a position
but report it. `Alike move` relates two lists of nodes that differ in these respects only, positions
being carried along a map. Every content model finds the same in both, up to that map.

With the identity as map this says that white space and inner nodes do not matter. With another map
it says that positions are free to serve as marks.
-/

namespace HtmlNesting

/-- A start tag at the position that a map leads to. -/
def StartTag.moved (move : Position → Position) (start : StartTag) : StartTag :=
  { start with position := move start.position }

/-- A finding at the position that a map leads to. -/
def Diagnostic.moved (move : Position → Position) (diagnostic : Diagnostic) : Diagnostic :=
  { diagnostic with position := move diagnostic.position }

section

variable {move : Position → Position}

@[simp] theorem StartTag.moved_tag (start : StartTag) : (start.moved move).tag = start.tag :=
  rfl

@[simp] theorem StartTag.moved_attributes (start : StartTag) :
    (start.moved move).attributes = start.attributes :=
  rfl

@[simp] theorem StartTag.moved_id : StartTag.moved id = id :=
  rfl

@[simp] theorem Diagnostic.moved_id : Diagnostic.moved id = id :=
  rfl

/-- Start tags have the tags they had before they were moved. -/
theorem map_tag_moved (starts : List StartTag) :
    (starts.map (StartTag.moved move)).map StartTag.tag = starts.map StartTag.tag := by
  rw [List.map_map]
  rfl

end

/-- Two lists of nodes that look alike to checks: text that is content and start tags are the same
and in the same order, at positions carried along a map. -/
inductive Alike (move : Position → Position) : List Node → List Node → Prop where
  | nil : Alike move [] []
  | spacesFirst {data : String} {position : Position} {first second : List Node}
      (spaces : Text.isSpaces data = true) (rest : Alike move first second) :
      Alike move (.text data position :: first) second
  | spacesSecond {data : String} {position : Position} {first second : List Node}
      (spaces : Text.isSpaces data = true) (rest : Alike move first second) :
      Alike move first (.text data position :: second)
  | text {data : String} {position : Position} {first second : List Node}
      (rest : Alike move first second) :
      Alike move (.text data position :: first) (.text data (move position) :: second)
  | element {start : StartTag} {children others : List Node} {first second : List Node}
      (rest : Alike move first second) :
      Alike move (.element start children :: first) (.element (start.moved move) others :: second)

namespace Alike

variable {move : Position → Position} {first second : List Node}

/-- Whatever is read off the nodes of a list, white space apart, is read off a list alike to it. -/
theorem filterMap {β γ : Type} {read : Node → Option β} {readMoved : Node → Option γ}
    {carry : β → γ} (alike : Alike move first second)
    (spaces : ∀ data position, Text.isSpaces data = true →
      read (.text data position) = none ∧ readMoved (.text data position) = none)
    (text : ∀ data position,
      readMoved (.text data (move position)) = (read (.text data position)).map carry)
    (element : ∀ start children others,
      readMoved (.element (start.moved move) others) =
        (read (.element start children)).map carry) :
    second.filterMap readMoved = (first.filterMap read).map carry := by
  induction alike with
  | nil => rfl
  | spacesFirst blank _ ih => rw [List.filterMap_cons_none (spaces _ _ blank).1, ih]
  | spacesSecond blank _ ih => rw [List.filterMap_cons_none (spaces _ _ blank).2, ih]
  | @text data position _ _ _ ih =>
    rw [List.filterMap_cons, List.filterMap_cons, text, ih]
    cases read (.text data position) <;> rfl
  | @element start children others _ _ _ ih =>
    rw [List.filterMap_cons, List.filterMap_cons, element start children others, ih]
    cases read (.element start children) <;> rfl

/-- Elements among lists that are alike have the same start tags. -/
theorem starts (alike : Alike move first second) :
    second.filterMap Node.start? = (first.filterMap Node.start?).map (StartTag.moved move) :=
  alike.filterMap (fun _ _ _ => ⟨rfl, rfl⟩) (fun _ _ => rfl) (fun _ _ _ => rfl)

/-- Lists that are alike both hold content or both do not. -/
theorem all_isSpaces (alike : Alike move first second) :
    second.all Node.isSpaces = first.all Node.isSpaces := by
  induction alike with
  | nil => rfl
  | spacesFirst blank _ ih => simp [Node.isSpaces, blank, ih]
  | spacesSecond blank _ ih => simp [Node.isSpaces, blank, ih]
  | text _ ih => simp [Node.isSpaces, ih]
  | element _ _ => simp [Node.isSpaces]

/-- Reports on some of the children are the same for lists that are alike. -/
theorem reports {selected : Node → Bool} {report reportMoved : Node → Diagnostic}
    (alike : Alike move first second)
    (spaces : ∀ data position, Text.isSpaces data = true → selected (.text data position) = false)
    (text : ∀ data position,
      selected (.text data (move position)) = selected (.text data position) ∧
      reportMoved (.text data (move position)) = (report (.text data position)).moved move)
    (element : ∀ start children others,
      selected (.element (start.moved move) others) = selected (.element start children) ∧
      reportMoved (.element (start.moved move) others) =
        (report (.element start children)).moved move) :
    (second.filter selected).map reportMoved =
      ((first.filter selected).map report).map (Diagnostic.moved move) := by
  simp only [← List.filterMap_eq_map, List.filterMap_filter]
  rw [List.filterMap_eq_map (f := Diagnostic.moved move)]
  refine alike.filterMap ?_ ?_ ?_
  · intro data position blank
    simp [spaces data position blank]
  · intro data position
    rw [(text data position).1]
    split <;> simp [(text data position).2]
  · intro start children others
    rw [(element start children others).1]
    split <;> simp [(element start children others).2]

end Alike

/-! ## Membership models -/

/-- A membership model finds the same in lists that are alike. -/
theorem Members.checkFrom_alike {move : Position → Position} {first second : List Node}
    (alike : Alike move first second) (members : Members) (parent : StartTag) (seen : List Tag) :
    members.checkFrom (parent.moved move) seen second =
      (members.checkFrom parent seen first).map (Diagnostic.moved move) := by
  induction alike generalizing seen with
  | nil => rfl
  | spacesFirst blank _ ih =>
    rw [ih]
    simp [checkFrom, skips, Node.tag?, Node.start?, allows, blank, limit?]
  | spacesSecond blank _ ih =>
    rw [← ih]
    simp [checkFrom, skips, Node.tag?, Node.start?, allows, blank, limit?]
  | @text data position _ _ _ ih =>
    have notSkipped : ∀ position, members.skips (.text data position) = false := fun _ => rfl
    have unlimited : ∀ position, members.limit? (.text data position) = none := fun _ => rfl
    have allowed : members.allows (.text data (move position)) =
        members.allows (.text data position) := rfl
    rw [checkFrom, checkFrom, notSkipped, notSkipped, allowed, unlimited, unlimited]
    by_cases isAllowed : members.allows (.text data position) = true
    · simp [isAllowed, ih]
    · simp [isAllowed, ih]
      rfl
  | @element start children others _ _ _ ih =>
    have skipped : members.skips (.element (start.moved move) others) =
        members.skips (.element start children) := rfl
    have allowed : members.allows (.element (start.moved move) others) =
        members.allows (.element start children) := rfl
    have limited : members.limit? (.element (start.moved move) others) =
        members.limit? (.element start children) := rfl
    rw [checkFrom, checkFrom, skipped, allowed, limited]
    by_cases isSkipped : members.skips (.element start children) = true
    · simp [isSkipped, ih]
    · by_cases isAllowed : members.allows (.element start children) = true
      · cases members.limit? (.element start children) with
        | none => simp [isSkipped, isAllowed, ih]
        | some quota =>
          by_cases exceeded : quota.2 < (seen.count quota.1 : Int) + 1
          · simp [isSkipped, isAllowed, exceeded, ih]
            rfl
          · simp [isSkipped, isAllowed, exceeded, ih]
      · simp [isSkipped, isAllowed, ih]
        rfl

/-! ## Ordered models -/

namespace Ordered

variable {move : Position → Position} {first second : List Node}

theorem grammarChild?_moved (ordered : Ordered) (start : StartTag) (children others : List Node) :
    ordered.grammarChild? (.element (start.moved move) others) =
      (ordered.grammarChild? (.element start children)).map (StartTag.moved move) := by
  simp [grammarChild?, Node.start?]

/-- The children of the grammar are the same in lists that are alike. -/
theorem grammarChildren_alike (alike : Alike move first second) (ordered : Ordered) :
    ordered.grammarChildren second =
      (ordered.grammarChildren first).map (StartTag.moved move) := by
  rw [grammarChildren, grammarChildren, List.filterMap_filter, List.filterMap_filter]
  refine alike.filterMap ?_ ?_ ?_
  · intro data position blank
    simp [isRelevant, Node.isSpaces, blank]
  · intro data position
    simp [grammarChild?, Node.start?]
  · intro start children others
    have relevant : ordered.isRelevant (.element (start.moved move) others) =
        ordered.isRelevant (.element start children) := rfl
    rw [relevant, ordered.grammarChild?_moved start children others]
    split <;> rfl

/-- The reports on children outside the grammar are the same for lists that are alike. -/
theorem strayReports_alike (alike : Alike move first second) (ordered : Ordered)
    (parent : StartTag) :
    (ordered.strays second).map (ordered.strayReport (parent.moved move)) =
      ((ordered.strays first).map (ordered.strayReport parent)).map (Diagnostic.moved move) := by
  rw [strays, strays, List.filter_filter, List.filter_filter]
  refine alike.reports ?_ (fun _ _ => ⟨rfl, rfl⟩) ?_
  · intro data position blank
    simp [isRelevant, Node.isSpaces, blank]
  · intro start children others
    refine ⟨?_, rfl⟩
    have relevant : ordered.isRelevant (.element (start.moved move) others) =
        ordered.isRelevant (.element start children) := rfl
    rw [relevant, ordered.grammarChild?_moved start children others, Option.isNone_map]

theorem droppedReport_moved (ordered : Ordered) (parent : StartTag) (tags : List Tag)
    (child : StartTag) :
    ordered.droppedReport (parent.moved move) tags (child.moved move) =
      (ordered.droppedReport parent tags child).moved move := by
  unfold droppedReport
  rw [StartTag.moved_tag]
  cases ordered.allowance child.tag with
  | none => rfl
  | some allowance =>
    simp only
    split <;> rfl

theorem droppedReports_moved (ordered : Ordered) (parent : StartTag) (grammar : List StartTag)
    (kept : List Nat) :
    ordered.droppedReports (parent.moved move) (grammar.map (StartTag.moved move)) kept =
      (ordered.droppedReports parent grammar kept).map (Diagnostic.moved move) := by
  rw [droppedReports, droppedReports, map_tag_moved, List.zipIdx_map, List.filter_map, List.map_map,
    List.map_map]
  refine List.map_congr_left fun item _ => ?_
  exact ordered.droppedReport_moved parent _ item.1

theorem capReports_moved (ordered : Ordered) (parent : StartTag) (grammar : List StartTag)
    (kept : List Nat) :
    ordered.capReports (parent.moved move) (grammar.map (StartTag.moved move)) kept =
      (ordered.capReports parent grammar kept).map (Diagnostic.moved move) := by
  rw [capReports, capReports, List.map_flatMap]
  refine congrArg (List.flatMap · _) (funext fun quota => ?_)
  obtain ⟨tag, cap⟩ := quota
  simp only
  rw [List.zipIdx_map, List.filter_map, List.map_map, List.map_map]
  simp only [← List.map_take, map_tag_moved, Function.comp_def]
  rfl

theorem missingReports_moved (ordered : Ordered) (parent : StartTag) (tags : List Tag) :
    ordered.missingReports (parent.moved move) tags =
      (ordered.missingReports parent tags).map (Diagnostic.moved move) := by
  rw [missingReports, missingReports]
  cases ordered.missing tags <;> rfl

theorem conflictReports_moved (ordered : Ordered) (parent : StartTag) (grammar : List StartTag) :
    ordered.conflictReports (parent.moved move) (grammar.map (StartTag.moved move)) =
      (ordered.conflictReports parent grammar).map (Diagnostic.moved move) := by
  rw [conflictReports, conflictReports, List.map_filterMap]
  refine congrArg (List.filterMap · _) (funext fun families => ?_)
  simp only [map_tag_moved, Option.bind_eq_bind, List.getElem?_map]
  cases (grammar.map StartTag.tag).findIdx? families.1.contains with
  | none => rfl
  | some firstIndex =>
    cases (grammar.map StartTag.tag).findIdx? families.2.contains with
    | none => rfl
    | some secondIndex =>
      simp only [Option.bind_some]
      cases grammar[max firstIndex secondIndex]? <;> rfl

/-- An ordered model finds the same in lists that are alike. -/
theorem checkChildren_alike (alike : Alike move first second) (ordered : Ordered)
    (parent : StartTag) :
    ordered.checkChildren (parent.moved move) second =
      (ordered.checkChildren parent first).map (Diagnostic.moved move) := by
  simp only [checkChildren, grammarChildren_alike alike, strayReports_alike alike, map_tag_moved,
    droppedReports_moved, capReports_moved, missingReports_moved, conflictReports_moved,
    List.map_append]

end Ordered

/-! ## Grouped models -/

namespace Groups

variable {move : Position → Position} {first second : List Node}

theorem part?_moved (groups : Groups) (start : StartTag) (children others : List Node) :
    groups.part? (.element (start.moved move) others) =
      (groups.part? (.element start children)).map (StartTag.moved move) := by
  by_cases isPart : start.tag = groups.first ∨ start.tag = groups.second
  · simp [part?, Node.start?, isPart]
  · simp [part?, Node.start?, isPart]

/-- The parts of groups are the same in lists that are alike. -/
theorem parts_alike (alike : Alike move first second) (groups : Groups) :
    groups.parts second = (groups.parts first).map (StartTag.moved move) := by
  rw [parts, parts, List.filterMap_filter, List.filterMap_filter]
  refine alike.filterMap ?_ ?_ ?_
  · intro data position blank
    simp [isRelevant, Node.isSpaces, blank]
  · intro data position
    simp [part?, Node.start?]
  · intro start children others
    have relevant : isRelevant (.element (start.moved move) others) =
        isRelevant (.element start children) := rfl
    rw [relevant, groups.part?_moved start children others]
    split <;> rfl

/-- The reports on children with neither tag are the same for lists that are alike. -/
theorem strayReports_alike (alike : Alike move first second) (groups : Groups)
    (parent : StartTag) :
    (groups.strays second).map (groups.strayReport (parent.moved move)) =
      ((groups.strays first).map (groups.strayReport parent)).map (Diagnostic.moved move) := by
  rw [strays, strays, List.filter_filter, List.filter_filter]
  refine alike.reports ?_ (fun _ _ => ⟨rfl, rfl⟩) ?_
  · intro data position blank
    simp [isRelevant, Node.isSpaces, blank]
  · intro start children others
    refine ⟨?_, rfl⟩
    have relevant : isRelevant (.element (start.moved move) others) =
        isRelevant (.element start children) := rfl
    rw [relevant, groups.part?_moved start children others, Option.isNone_map]

theorem lastOpening_moved (groups : Groups) (last : StartTag) (earlier : List StartTag) :
    groups.lastOpening (last.moved move) (earlier.map (StartTag.moved move)) =
      (groups.lastOpening last earlier).moved move := by
  rw [lastOpening, lastOpening, List.takeWhile_map, List.getLast?_map, Option.getD_map]
  rfl

theorem breakReports_moved (groups : Groups) (parent : StartTag) (parts : List StartTag) :
    groups.breakReports (parent.moved move) (parts.map (StartTag.moved move)) =
      (groups.breakReports parent parts).map (Diagnostic.moved move) := by
  cases parts with
  | nil => rfl
  | cons head rest =>
    cases reversed : (head :: rest).reverse with
    | nil => simp at reversed
    | cons last earlier =>
      have movedReversed : ((head :: rest).map (StartTag.moved move)).reverse =
          last.moved move :: earlier.map (StartTag.moved move) := by
        rw [← List.map_reverse, reversed, List.map_cons]
      rw [List.map_cons] at movedReversed ⊢
      simp only [breakReports, movedReversed, reversed, StartTag.moved_tag, lastOpening_moved]
      split
      · rfl
      · split <;> rfl

/-- A grouped model finds the same in lists that are alike. -/
theorem checkChildren_alike (alike : Alike move first second) (groups : Groups)
    (parent : StartTag) :
    groups.checkChildren (parent.moved move) second =
      (groups.checkChildren parent first).map (Diagnostic.moved move) := by
  rw [checkChildren, checkChildren, strayReports_alike alike, parts_alike alike,
    breakReports_moved, List.map_append]

end Groups

/-! ## All models -/

section

variable {move : Position → Position} {first second : List Node}

/-- Every plain model finds the same in lists that are alike. -/
theorem PlainModel.checkChildren_alike (alike : Alike move first second) (parent : StartTag)
    (model : PlainModel) :
    model.checkChildren (parent.moved move) second =
      (model.checkChildren parent first).map (Diagnostic.moved move) := by
  cases model with
  | unchecked severity => rfl
  | empty severity =>
    refine alike.reports ?_ (fun _ _ => ⟨rfl, rfl⟩) (fun _ _ _ => ⟨rfl, rfl⟩)
    intro data position blank
    simp [Node.isSpaces, blank]
  | textOnly severity =>
    rw [checkChildren, checkChildren, alike.starts, alike.all_isSpaces, List.map_append,
      List.map_map, List.map_map]
    congr 1
    split <;> rfl
  | members model => exact Members.checkFrom_alike alike model parent []
  | ordered model => exact model.checkChildren_alike alike parent
  | groups model => exact model.checkChildren_alike alike parent

namespace Transparent

/-- The reports on forbidden children are the same for lists that are alike. -/
theorem forbiddenReports_alike (alike : Alike move first second) (parent : StartTag)
    (handing : Transparent) :
    handing.forbiddenReports (parent.moved move) second =
      (handing.forbiddenReports parent first).map (Diagnostic.moved move) :=
  alike.reports (fun _ _ _ => rfl) (fun _ _ => ⟨rfl, rfl⟩) (fun _ _ _ => ⟨rfl, rfl⟩)

/-- The children that are handed on are alike if the children are. -/
theorem visible_alike (alike : Alike move first second) (handing : Transparent) :
    Alike move (handing.visible first) (handing.visible second) := by
  induction alike with
  | nil => exact .nil
  | spacesFirst blank _ ih => exact .spacesFirst blank ih
  | spacesSecond blank _ ih => exact .spacesSecond blank ih
  | text _ ih => exact .text ih
  | @element start children others _ _ _ ih =>
    rw [visible, visible, List.filter_cons, List.filter_cons]
    have same : ∀ tags, isAmong tags (.element (start.moved move) others) =
        isAmong tags (.element start children) := fun _ => rfl
    rw [same, same]
    split
    · exact .element ih
    · exact ih

end Transparent

end

end HtmlNesting
