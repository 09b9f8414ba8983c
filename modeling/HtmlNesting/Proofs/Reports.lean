import HtmlNesting.Proofs.Surroundings

/-!
# What findings are about

Every finding of a check of children is a report on the element itself or on one of its children,
under a code that the model declares. The lemmas `mem_checkFrom` to `mem_breakReports` say this part
by part, and `PlainModel.report_of_mem_checkChildren` draws from them what holds of all models.

A finding does not say which child it is about, since two nodes may have the same position. But a
check does nothing with a position except report it. So the children may be given marks in place of
positions, each its own: `Place.marked` does so, and `ContentModel.checkNear_marked` shows that the
findings about the marked element are those about the element, with marks in place of positions.
-/

namespace HtmlNesting

/-! ## Reports of the models -/

/-- Whether a membership model reports a child as not allowed. -/
def Members.rejects (members : Members) (child : Node) : Bool :=
  !members.skips child && !members.allows child

/-- A membership model reports children that are not allowed or are one too many. -/
theorem Members.mem_checkFrom {members : Members} {parent : StartTag} {seen : List Tag}
    {children : List Node} {finding : Diagnostic}
    (member : finding ∈ members.checkFrom parent seen children) :
    ∃ code ∈ [Code.notAllowed, .tooMany], ∃ child ∈ children, ∃ message,
      finding = .atNode code child message members.severity := by
  induction children generalizing seen with
  | nil => simp [checkFrom] at member
  | cons child rest ih =>
    have later : ∀ {seen}, finding ∈ members.checkFrom parent seen rest →
        ∃ code ∈ [Code.notAllowed, .tooMany], ∃ other ∈ child :: rest, ∃ message,
          finding = .atNode code other message members.severity := by
      intro seen inRest
      obtain ⟨code, known, other, isLater, report⟩ := ih inRest
      exact ⟨code, known, other, List.mem_cons_of_mem _ isLater, report⟩
    rw [checkFrom] at member
    split at member
    · exact later member
    · split at member
      · cases quota : members.limit? child with
        | none => exact later (by simpa [quota] using member)
        | some bound =>
          simp only [quota] at member
          split at member
          · rcases List.mem_cons.mp member with own | inRest
            · exact ⟨.tooMany, by simp, child, by simp, _, own⟩
            · exact later inRest
          · exact later member
      · rcases List.mem_cons.mp member with own | inRest
        · exact ⟨.notAllowed, by simp, child, by simp, _, own⟩
        · exact later inRest

namespace Ordered

variable {ordered : Ordered} {parent : StartTag} {grammar : List StartTag} {kept : List Nat}
  {finding : Diagnostic}

/-- The report on a child left out by the longest match says that it is out of order or one too
many. -/
theorem exists_droppedReport (ordered : Ordered) (parent : StartTag) (tags : List Tag)
    (child : StartTag) :
    ∃ code ∈ [Code.outOfOrder, .tooMany], ∃ message,
      ordered.droppedReport parent tags child = .atElement code child message ordered.severity := by
  unfold droppedReport
  cases ordered.allowance child.tag with
  | none => exact ⟨.outOfOrder, by simp, _, rfl⟩
  | some allowance =>
    simp only
    split
    · exact ⟨.tooMany, by simp, _, rfl⟩
    · exact ⟨.outOfOrder, by simp, _, rfl⟩

/-- A child left out by the longest match is reported as out of order or as one too many. -/
theorem mem_droppedReports (member : finding ∈ ordered.droppedReports parent grammar kept) :
    ∃ code ∈ [Code.outOfOrder, .tooMany], ∃ child ∈ grammar, ∃ message,
      finding = .atElement code child message ordered.severity := by
  obtain ⟨item, dropped, rfl⟩ := List.mem_map.mp member
  have inGrammar : item.1 ∈ grammar := List.fst_mem_of_mem_zipIdx (List.mem_filter.mp dropped).1
  obtain ⟨code, known, message, report⟩ :=
    ordered.exists_droppedReport parent (grammar.map StartTag.tag) item.1
  exact ⟨code, known, item.1, inGrammar, message, report⟩

/-- A child beyond a cap is reported as one too many. -/
theorem mem_capReports (member : finding ∈ ordered.capReports parent grammar kept) :
    ∃ child ∈ grammar, ∃ message,
      finding = .atElement .tooMany child message ordered.severity := by
  obtain ⟨quota, _, reported⟩ := List.mem_flatMap.mp member
  obtain ⟨item, beyond, rfl⟩ := List.mem_map.mp reported
  exact ⟨item.1, List.fst_mem_of_mem_zipIdx (List.mem_filter.mp beyond).1, _, rfl⟩

/-- Missing segments are reported at the element. -/
theorem mem_missingReports {tags : List Tag}
    (member : finding ∈ ordered.missingReports parent tags) :
    ∃ message, finding = .atElement .missingRequired parent message ordered.severity := by
  rw [missingReports] at member
  split at member
  · simp at member
  · exact ⟨_, List.mem_singleton.mp member⟩

/-- Families that occur together are reported at a child. -/
theorem mem_conflictReports (member : finding ∈ ordered.conflictReports parent grammar) :
    ∃ child ∈ grammar, ∃ message,
      finding = .atElement .exclusiveConflict child message ordered.severity := by
  obtain ⟨families, _, reported⟩ := List.mem_filterMap.mp member
  simp only [Option.bind_eq_bind, Option.bind_eq_some_iff, Option.some.injEq] at reported
  obtain ⟨firstIndex, _, secondIndex, _, offender, found, rfl⟩ := reported
  exact ⟨offender, List.mem_of_getElem? found, _, rfl⟩

end Ordered

/-- A broken group structure is reported at one of the parts. -/
theorem Groups.mem_breakReports {groups : Groups} {parent : StartTag} {parts : List StartTag}
    {finding : Diagnostic} (member : finding ∈ groups.breakReports parent parts) :
    ∃ part ∈ parts, ∃ message,
      finding = .atElement .groupBroken part message groups.severity := by
  cases parts with
  | nil => simp [breakReports] at member
  | cons first rest =>
    cases reversed : (first :: rest).reverse with
    | nil => simp at reversed
    | cons last earlier =>
      have listed : ∀ part ∈ last :: earlier, part ∈ first :: rest := by
        intro part isPart
        rw [← reversed, List.mem_reverse] at isPart
        exact isPart
      simp only [breakReports, reversed] at member
      split at member
      · exact ⟨first, by simp, _, List.mem_singleton.mp member⟩
      · split at member
        · refine ⟨groups.lastOpening last earlier, listed _ ?_, _, List.mem_singleton.mp member⟩
          rw [lastOpening]
          cases opening : (earlier.takeWhile fun part => part.tag == groups.first).getLast? with
          | none => simp
          | some part =>
            have inEarlier := (List.takeWhile_sublist _).mem (List.mem_of_getLast? opening)
            simp [inEarlier]
        · simp at member

namespace PlainModel

variable {model : PlainModel} {parent : StartTag} {children : List Node} {finding : Diagnostic}

/-- Every finding of a check of children is the report on some node, under a code that the model
declares and that is not the one of excluded descendants, with the severity of the model. -/
theorem report_of_mem_checkChildren (member : finding ∈ model.checkChildren parent children) :
    ∃ code ∈ model.codes, code ≠ .forbiddenDescendant ∧ ∃ node message,
      finding = .atNode code node message model.severity := by
  -- An element is reported on like the node without children.
  have atElement : ∀ (code : Code) (start : StartTag) (message : String) (severity : Severity),
      Diagnostic.atElement code start message severity =
        .atNode code (.element start []) message severity := fun _ _ _ _ => rfl
  cases model with
  | unchecked severity => simp [checkChildren] at member
  | empty severity =>
    obtain ⟨child, _, rfl⟩ := List.mem_map.mp member
    exact ⟨.notEmpty, by simp [codes], by decide, child, _, rfl⟩
  | textOnly severity =>
    rcases List.mem_append.mp member with element | own
    · obtain ⟨child, _, rfl⟩ := List.mem_map.mp element
      exact ⟨.notAllowed, by simp [codes], by decide, _, _, atElement _ child _ _⟩
    · split at own
      · rw [List.mem_singleton.mp own]
        exact ⟨.textRequired, by simp [codes], by decide, _, _, atElement _ parent _ _⟩
      · simp at own
  | members members =>
    obtain ⟨code, known, child, _, message, rfl⟩ := Members.mem_checkFrom member
    refine ⟨code, List.mem_append_left _ known, ?_, child, message, rfl⟩
    rintro rfl
    simp at known
  | ordered ordered =>
    simp only [checkChildren, Ordered.checkChildren, List.mem_append] at member
    rcases member with (((stray | dropped) | capped) | missing) | conflict
    · obtain ⟨child, _, rfl⟩ := List.mem_map.mp stray
      exact ⟨.notAllowed, by simp [codes, Ordered.codes], by decide, child, _, rfl⟩
    · obtain ⟨code, known, child, _, message, rfl⟩ := Ordered.mem_droppedReports dropped
      refine ⟨code, ?_, ?_, _, _, atElement code child message _⟩
      · simp only [List.mem_cons, List.not_mem_nil, or_false] at known
        rcases known with rfl | rfl <;> simp [codes, Ordered.codes]
      · rintro rfl
        simp at known
    · obtain ⟨child, _, message, rfl⟩ := Ordered.mem_capReports capped
      exact ⟨.tooMany, by simp [codes, Ordered.codes], by decide, _, _, atElement _ child _ _⟩
    · obtain ⟨message, rfl⟩ := Ordered.mem_missingReports missing
      exact ⟨.missingRequired, by simp [codes, Ordered.codes], by decide, _, _,
        atElement _ parent _ _⟩
    · obtain ⟨child, _, message, rfl⟩ := Ordered.mem_conflictReports conflict
      exact ⟨.exclusiveConflict, by simp [codes, Ordered.codes], by decide, _, _,
        atElement _ child _ _⟩
  | groups groups =>
    rcases List.mem_append.mp member with stray | broken
    · obtain ⟨child, _, rfl⟩ := List.mem_map.mp stray
      exact ⟨.notAllowed, by simp [codes, Groups.codes], by decide, child, _, rfl⟩
    · obtain ⟨part, _, message, rfl⟩ := Groups.mem_breakReports broken
      exact ⟨.groupBroken, by simp [codes, Groups.codes], by decide, _, _, atElement _ part _ _⟩

/-- Every finding of a check of children has a code that the model declares, and it is not about
excluded descendants. -/
theorem code_of_mem_checkChildren (member : finding ∈ model.checkChildren parent children) :
    ∃ code ∈ model.codes, code ≠ .forbiddenDescendant ∧ finding.code = code.name := by
  obtain ⟨code, declared, near, node, message, rfl⟩ := report_of_mem_checkChildren member
  exact ⟨code, declared, near, rfl⟩

/-- Every finding of a check of children has the severity of the model. -/
theorem severity_of_mem_checkChildren (member : finding ∈ model.checkChildren parent children) :
    finding.severity = model.severity := by
  obtain ⟨code, _, _, node, message, rfl⟩ := report_of_mem_checkChildren member
  rfl

end PlainModel

/-! ## Findings about an element and its children -/

/-- Whether a finding is under one of some codes. -/
def Diagnostic.isUnder (codes : List Code) (finding : Diagnostic) : Bool :=
  codes.any fun code => finding.code == code.name

/-- Findings with one code are all under some codes or none of them is. -/
theorem filter_isUnder_of_code {found : List Diagnostic} {code : Code}
    (same : ∀ finding ∈ found, finding.code = code.name) (codes : List Code) :
    found.filter (Diagnostic.isUnder codes) =
      if codes.any fun other => code.name == other.name then found else [] := by
  split
  next known =>
    rw [List.filter_eq_self]
    intro finding member
    rw [Diagnostic.isUnder, same finding member]
    exact known
  next unknown =>
    rw [List.filter_eq_nil_iff]
    intro finding member
    rw [Diagnostic.isUnder, same finding member]
    exact unknown

/-- Whether a finding is about something else than an excluded descendant. -/
def Diagnostic.isNear (finding : Diagnostic) : Bool :=
  finding.code != Code.forbiddenDescendant.name

/-- A finding under a code other than that of excluded descendants. -/
theorem Diagnostic.isNear_of_code {finding : Diagnostic} {code : Code}
    (other : code ≠ .forbiddenDescendant) (same : finding.code = code.name) :
    finding.isNear = true := by
  rw [isNear, same]
  revert other
  cases code <;> decide

/-- The scan for excluded descendants finds nothing else. -/
theorem filter_isNear_scanFor (exclusion : Option Exclusion) (place : Place) :
    (scanFor exclusion place).filter Diagnostic.isNear = [] := by
  cases exclusion with
  | none => rfl
  | some exclusion =>
    rw [scanFor, Exclusion.scan, List.filter_map, List.map_eq_nil_iff, List.filter_eq_nil_iff]
    intro descendant _
    simp [Diagnostic.isNear, Exclusion.report, Diagnostic.atElement]

namespace PlainModel

theorem filter_isNear_checkChildren (model : PlainModel) (parent : StartTag)
    (children : List Node) :
    (model.checkChildren parent children).filter Diagnostic.isNear =
      model.checkChildren parent children := by
  rw [List.filter_eq_self]
  intro finding member
  obtain ⟨code, _, other, same⟩ := code_of_mem_checkChildren member
  exact Diagnostic.isNear_of_code other same

theorem filter_isNear_check (place : Place) (model : PlainModel) :
    (model.check place).filter Diagnostic.isNear =
      model.checkChildren place.start place.children := by
  unfold check
  rw [List.filter_append, filter_isNear_checkChildren]
  cases model with
  | members members => simp [filter_isNear_scanFor]
  | _ => simp

end PlainModel

theorem Transparent.filter_isNear_forbiddenReports (handing : Transparent) (parent : StartTag)
    (children : List Node) :
    (handing.forbiddenReports parent children).filter Diagnostic.isNear =
      handing.forbiddenReports parent children := by
  rw [List.filter_eq_self]
  intro finding member
  obtain ⟨child, _, rfl⟩ := List.mem_map.mp member
  exact Diagnostic.isNear_of_code (by decide : Code.notAllowed ≠ .forbiddenDescendant) rfl

namespace ContentModel

/-- The findings of a content check about the element and its children, excluded descendants left
aside. -/
def checkNear (registry : Registry) (place : Place) (model : ContentModel) :
    Except RuleFault (List Diagnostic) :=
  match model.resolve place.attributes with
  | .plain model => .ok (model.checkChildren place.start place.children)
  | .transparent handing =>
    match checkDelegated registry place (handing.visible place.children) with
    | .error fault => .error fault
    | .ok delegated => .ok (handing.forbiddenReports place.start place.children ++ delegated)

/-- Leaving aside excluded descendants in what a content check finds. -/
theorem checkNear_of_check {registry : Registry} {place : Place} {model : ContentModel}
    {found : List Diagnostic} (returned : model.check registry place = .ok found) :
    model.checkNear registry place = .ok (found.filter Diagnostic.isNear) := by
  rw [check] at returned
  rw [checkNear]
  cases resolved : model.resolve place.attributes with
  | plain plain =>
    simp only [resolved, Except.ok.injEq] at returned ⊢
    rw [← returned, plain.filter_isNear_check]
  | transparent handing =>
    simp only [resolved] at returned ⊢
    rw [checkDelegated] at returned ⊢
    cases delegated : delegate registry place with
    | error fault => simp [delegated] at returned
    | ok model =>
      cases model with
      | none =>
        simp only [delegated, Except.ok.injEq] at returned ⊢
        simp [← returned, handing.filter_isNear_forbiddenReports, filter_isNear_scanFor]
      | some plain =>
        simp only [delegated, Except.ok.injEq] at returned ⊢
        simp [← returned, handing.filter_isNear_forbiddenReports, filter_isNear_scanFor,
          plain.filter_isNear_checkChildren]

/-- Carrying positions along a map carries the findings along. -/
theorem checkNear_moved {registry : Registry} {move : Position → Position} {first second : Place}
    (start : first.start.moved move = second.start)
    (above : first.above.map Level.start = second.above.map Level.start)
    (children : Alike move first.children second.children) {model : ContentModel}
    {found : List Diagnostic} (returned : model.checkNear registry first = .ok found) :
    model.checkNear registry second = .ok (found.map (Diagnostic.moved move)) := by
  have attributes : first.attributes = second.attributes := by
    rw [Place.attributes, Place.attributes, ← start, StartTag.moved_attributes]
  have sameDelegate := delegate_congr registry attributes above
  rw [checkNear, attributes] at returned
  rw [checkNear, ← start]
  cases resolved : model.resolve second.attributes with
  | plain plain =>
    simp only [resolved, Except.ok.injEq] at returned ⊢
    rw [← returned, plain.checkChildren_alike children]
  | transparent handing =>
    simp only [resolved, checkDelegated, sameDelegate] at returned ⊢
    cases delegated : delegate registry second with
    | error fault => simp [delegated] at returned
    | ok model =>
      cases model with
      | none =>
        simp only [delegated, Except.ok.injEq, List.append_nil] at returned ⊢
        rw [← returned, handing.forbiddenReports_alike children]
      | some plain =>
        simp only [delegated, Except.ok.injEq] at returned ⊢
        rw [← returned, handing.forbiddenReports_alike children, List.map_append, ← start,
          plain.checkChildren_alike (handing.visible_alike children)]

end ContentModel

/-! ## Marks -/

/-- The mark of the child at an index. -/
def Position.mark (index : Int) : Position :=
  { line := index, column := 0 }

/-- A node with a mark in place of its position. -/
def Node.markedAs (mark : Position) : Node → Node
  | text data _ => text data mark
  | element start children => element { start with position := mark } children

/-- Nodes with marks in place of positions, from an index on. -/
def markedFrom (index : Nat) : List Node → List Node
  | [] => []
  | node :: rest => node.markedAs (.mark index) :: markedFrom (index + 1) rest

namespace Place

/-- An element with marks in place of the positions of its children, and with a mark of its own. -/
def marked (place : Place) : Place :=
  { place with
    start := { place.start with position := .mark (-1) }
    children := markedFrom 0 place.children }

/-- The position that a mark stands for. -/
def unmark (place : Place) (mark : Position) : Position :=
  match mark.line with
  | .ofNat index => ((place.children[index]?).map Node.position).getD place.start.position
  | .negSucc _ => place.start.position

end Place

/-- Of marked nodes and of the nodes, those that remain when some marks are taken away look alike.
-/
theorem alike_filter_markedFrom {move : Position → Position} {index : Nat} {nodes : List Node}
    (restores : ∀ offset node, nodes[offset]? = some node →
      move (.mark (index + offset : Nat)) = node.position) (remains : Position → Bool) :
    Alike move ((markedFrom index nodes).filter fun node => remains node.position)
      (((nodes.zipIdx index).filter fun item => remains (.mark item.2)).map Prod.fst) := by
  induction nodes generalizing index with
  | nil => exact .nil
  | cons node rest ih =>
    have tail := @ih (index + 1) fun offset later found => by
      have restored := restores (offset + 1) later found
      rwa [Nat.add_left_comm, Nat.add_comm offset] at restored
    have head : move (.mark index) = node.position := restores 0 node rfl
    have mark : (node.markedAs (.mark index)).position = .mark index := by cases node <;> rfl
    rw [markedFrom, List.zipIdx_cons, List.filter_cons, List.filter_cons, mark]
    split
    · cases node with
      | text data position =>
        have marked := @Alike.text move data (.mark index) _ _ tail
        rwa [head] at marked
      | element start children =>
        have marked := @Alike.element move { start with position := .mark index } children children
          _ _ tail
        rwa [StartTag.moved, head] at marked
    · exact tail

/-- Marked nodes look like the nodes. -/
theorem alike_markedFrom {move : Position → Position} {index : Nat} {nodes : List Node}
    (restores : ∀ offset node, nodes[offset]? = some node →
      move (.mark (index + offset : Nat)) = node.position) :
    Alike move (markedFrom index nodes) nodes := by
  have alike := alike_filter_markedFrom restores fun _ => true
  rwa [List.filter_eq_self.mpr fun _ _ => rfl, List.filter_eq_self.mpr fun _ _ => rfl,
    List.zipIdx_map_fst] at alike

/-- Marked nodes carry one mark after another. -/
theorem map_position_markedFrom (index : Nat) (nodes : List Node) :
    (markedFrom index nodes).map Node.position =
      (List.range' index nodes.length).map fun mark => .mark mark := by
  induction nodes generalizing index with
  | nil => rfl
  | cons node rest ih =>
    rw [markedFrom, List.map_cons, ih, List.length_cons, List.range'_succ, List.map_cons]
    cases node <;> rfl

/-- A mark tells the index of the node that carries it. -/
theorem position_of_mem_markedFrom {index : Nat} {nodes : List Node} {node : Node}
    (member : node ∈ markedFrom index nodes) :
    ∃ offset, offset < nodes.length ∧ node.position = .mark (index + offset : Nat) := by
  induction nodes generalizing index with
  | nil => simp [markedFrom] at member
  | cons head rest ih =>
    rcases List.mem_cons.mp member with rfl | later
    · exact ⟨0, by simp, by cases head <;> rfl⟩
    · obtain ⟨offset, inRange, position⟩ := ih later
      refine ⟨offset + 1, by simpa using inRange, ?_⟩
      rw [position, Nat.add_right_comm, Nat.add_assoc]

theorem markedFrom_append (index : Nat) (first second : List Node) :
    markedFrom index (first ++ second) =
      markedFrom index first ++ markedFrom (index + first.length) second := by
  induction first generalizing index with
  | nil => rfl
  | cons node rest ih =>
    rw [List.cons_append, markedFrom, markedFrom, ih, List.cons_append, List.length_cons,
      Nat.add_right_comm, Nat.add_assoc]

/-- A mark stands for the position of the child at its index. -/
theorem Place.unmark_mark {place : Place} {index : Nat} {node : Node}
    (found : place.children[index]? = some node) :
    place.unmark (.mark (0 + index : Nat)) = node.position := by
  simp [unmark, Position.mark, found]

/-- Marked children look like the children. -/
theorem Place.alike_marked (place : Place) :
    Alike place.unmark place.marked.children place.children :=
  alike_markedFrom fun _ _ => unmark_mark

/-- The near findings about a marked element are those about the element with marks in place of
positions. -/
theorem ContentModel.checkNear_marked {registry : Registry} {place : Place} {model : ContentModel}
    {found : List Diagnostic} (returned : model.checkNear registry place.marked = .ok found) :
    model.checkNear registry place = .ok (found.map (Diagnostic.moved place.unmark)) := by
  have start : place.marked.start.moved place.unmark = place.start := rfl
  exact checkNear_moved start rfl place.alike_marked returned

/-- The near findings of the content check of an element are those of the marked element, with marks
in place of positions. -/
theorem Registry.filter_isNear_marked {registry : Registry} {place : Place}
    {found marked : List Diagnostic}
    (returned : (registry.entry place.tag).checkContent registry (.element place) = .ok found)
    (markedReturned :
      (registry.entry place.tag).checkContent registry (.element place.marked) = .ok marked) :
    found.filter Diagnostic.isNear =
      (marked.filter Diagnostic.isNear).map (Diagnostic.moved place.unmark) := by
  rw [RuleEntry.checkContent] at returned markedReturned
  cases content : (registry.entry place.tag).content with
  | none =>
    simp only [content, Except.ok.injEq] at returned markedReturned
    simp [← returned, ← markedReturned]
  | some model =>
    simp only [content] at returned markedReturned
    have near := ContentModel.checkNear_of_check returned
    rw [ContentModel.checkNear_marked (ContentModel.checkNear_of_check markedReturned)] at near
    exact (Except.ok.inj near).symm

/-- A model accepts the same at a marked element. -/
theorem ContentModel.accepts_marked (registry : Registry) (place : Place) (category : Category)
    (model : ContentModel) :
    model.accepts registry place.marked category = model.accepts registry place category := by
  have attributes : place.marked.attributes = place.attributes := rfl
  exact model.accepts_congr registry attributes rfl category

/-- A marked element holds a child under the mark of its index. -/
theorem Place.children_marked {place : Place} {start : StartTag} {before inside after : List Node}
    (children : place.children = before ++ .element start inside :: after) :
    place.marked.children =
      markedFrom 0 before ++ .element { start with position := .mark before.length } inside ::
        markedFrom (before.length + 1) after := by
  rw [marked, children, markedFrom_append, markedFrom, Nat.zero_add, Node.markedAs]

/-- No sibling carries the mark of a child. -/
theorem position_ne_mark {before after : List Node} {other : Node}
    (member : other ∈ markedFrom 0 before ++ markedFrom (before.length + 1) after) :
    other.position ≠ .mark before.length := by
  rcases List.mem_append.mp member with earlier | later
  · obtain ⟨offset, inRange, position⟩ := position_of_mem_markedFrom earlier
    simp only [position, Position.mark, ne_eq, Position.mk.injEq, and_true]
    omega
  · obtain ⟨offset, _, position⟩ := position_of_mem_markedFrom later
    simp only [position, Position.mark, ne_eq, Position.mk.injEq, and_true]
    omega

end HtmlNesting
