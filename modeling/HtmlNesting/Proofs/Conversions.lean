import HtmlNesting.Markup.Document

/-!
# From outlines to nodes

`Shows` says which nodes an outline stands for, part by part: what becomes of a name, of the values
of attributes, of a position, of text and of markup beside the content. Recursion on the outline
finds these nodes and no others (`shows_iff`).

The conversion in use is a loop. What it will end with can be told at any moment, from the nodes
built so far, the nodes that remain and the stack: that is its `outcome`. A step changes none of it
(`Conversion.outcome_step?`) and lowers the weight by one, so the loop ends after as many steps as
its first weight, with the nodes of the recursion.
-/

namespace HtmlNesting.Markup.Outline

/-! ## What an outline stands for -/

/-- The nodes that an outline stands for, inside an element at a position or at the start of the
document. -/
inductive Shows : Position → List Outline → List Node → Prop where
  | nil {position : Position} : Shows position [] []
  /-- An element has its name in lower case, its attributes with an empty text for a value that is
  missing, and its position with line one and offset zero where these are not known. -/
  | element {position : Position} {name : String} {attributes : List (String × Option String)}
      {line offset : Option Nat} {children outline : List Outline} {start : StartTag}
      {inner nodes : List Node}
      (lowered : start.name = Text.lower name)
      (valued : start.attributes = attributes.map fun entry => (entry.1, entry.2.getD ""))
      (onLine : start.position.line = if line.getD 0 = 0 then 1 else line.getD 0)
      (atColumn : start.position.column = offset.getD 0 + 1)
      (inside : Shows start.position children inner) (after : Shows position outline nodes) :
      Shows position (element name attributes line offset children :: outline)
        (.element start inner :: nodes)
  /-- Text stands at the element around it. -/
  | text {position : Position} {data : String} {outline : List Outline} {nodes : List Node}
      (after : Shows position outline nodes) :
      Shows position (text data :: outline) (.text data position :: nodes)
  /-- Markup beside the content stands for nothing. -/
  | aside {position : Position} {kind : Aside} {outline : List Outline} {nodes : List Node}
      (after : Shows position outline nodes) : Shows position (aside kind :: outline) nodes

theorem line_positionAt (line offset : Option Nat) :
    (positionAt line offset).line = if line.getD 0 = 0 then 1 else line.getD 0 := by
  match line with
  | none => rfl
  | some 0 => rfl
  | some (line + 1) => rfl

/-- What is told of an element settles its start tag. -/
theorem eq_startTag {start : StartTag} {name : String} {attributes : List (String × Option String)}
    {line offset : Option Nat} (lowered : start.name = Text.lower name)
    (valued : start.attributes = attributes.map fun entry => (entry.1, entry.2.getD ""))
    (onLine : start.position.line = if line.getD 0 = 0 then 1 else line.getD 0)
    (atColumn : start.position.column = offset.getD 0 + 1) :
    start = startTag name attributes line offset := by
  obtain ⟨ownName, ownAttributes, ⟨ownLine, ownColumn⟩⟩ := start
  rw [← line_positionAt line offset] at onLine
  cases lowered
  cases valued
  cases onLine
  cases atColumn
  rfl

/-- The recursion finds nodes that the outline stands for. -/
theorem shows_nodesOf (position : Position) (outline : List Outline) :
    Shows position outline (nodesOf position outline) := by
  match outline with
  | [] => exact .nil
  | element name attributes line offset children :: rest =>
    exact .element rfl rfl (line_positionAt line offset) rfl (shows_nodesOf _ children)
      (shows_nodesOf position rest)
  | text data :: rest => exact .text (shows_nodesOf position rest)
  | aside kind :: rest => exact .aside (shows_nodesOf position rest)
termination_by sizeOf outline

/-- The outline stands for no other nodes. -/
theorem Shows.eq_nodesOf {position : Position} {outline : List Outline} {nodes : List Node}
    (shows : Shows position outline nodes) : nodes = nodesOf position outline := by
  induction shows with
  | nil => rfl
  | element lowered valued onLine atColumn inside after insideIh afterIh =>
    cases eq_startTag lowered valued onLine atColumn
    rw [insideIh, afterIh]
    rfl
  | text after ih =>
    rw [ih]
    rfl
  | aside after ih =>
    rw [ih]
    rfl

theorem shows_iff (position : Position) (outline : List Outline) (nodes : List Node) :
    Shows position outline nodes ↔ nodes = nodesOf position outline := by
  constructor
  · exact Shows.eq_nodesOf
  · rintro rfl
    exact shows_nodesOf position outline

/-! ## The loop -/

namespace Conversion

variable {conversion next last : Conversion} {count : Nat}

/-- What comes of the nodes of the innermost open element when it and all elements around it have
been finished. -/
def finished (nodes : List Node) : List Frame → List Node
  | [] => nodes
  | frame :: rest =>
    finished (frame.built.reverse ++
      .element frame.start nodes :: nodesOf frame.position frame.remaining) rest

/-- The nodes that a conversion is to end with: those built so far and those of what remains, in
every open element. -/
def outcome (conversion : Conversion) : List Node :=
  finished (conversion.built.reverse ++ nodesOf conversion.position conversion.remaining)
    conversion.stack

/-- A step leaves the outcome as it is: nothing is lost, doubled or put into another element. -/
theorem outcome_step? (taken : conversion.step? = some next) :
    next.outcome = conversion.outcome := by
  obtain ⟨remaining, built, position, stack⟩ := conversion
  match remaining, stack with
  | [], [] => cases taken
  | [], frame :: rest =>
    cases taken
    simp [outcome, finished, nodesOf]
  | Outline.element .. :: rest, stack =>
    cases taken
    simp [outcome, finished, nodesOf, nodeOf]
  | Outline.text _ :: rest, stack =>
    cases taken
    simp [outcome, nodesOf, nodeOf]
  | Outline.aside _ :: rest, stack =>
    cases taken
    simp [outcome, nodesOf, nodeOf]

/-- There is no further step exactly at the end of the top level. -/
theorem step?_eq_none_iff :
    conversion.step? = none ↔ conversion.remaining = [] ∧ conversion.stack = [] := by
  obtain ⟨remaining, built, position, stack⟩ := conversion
  match remaining, stack with
  | [], [] => simp [step?]
  | [], frame :: rest => simp [step?]
  | Outline.element .. :: rest, stack => simp [step?]
  | Outline.text _ :: rest, stack => simp [step?]
  | Outline.aside _ :: rest, stack => simp [step?]

/-- At the end everything has been built. -/
theorem outcome_of_end (ended : conversion.step? = none) :
    conversion.outcome = conversion.built.reverse := by
  obtain ⟨nothing, outermost⟩ := step?_eq_none_iff.mp ended
  rw [outcome, nothing, outermost, finished, nodesOf, List.append_nil]

/-- A number of steps from one conversion to another. -/
inductive Steps : Nat → Conversion → Conversion → Prop where
  | refl {conversion : Conversion} : Steps 0 conversion conversion
  | step {count : Nat} {conversion next last : Conversion}
      (taken : conversion.step? = some next) (further : Steps count next last) :
      Steps (count + 1) conversion last

/-- What a step leaves as it is, any number of steps does. -/
theorem Steps.outcome_eq (steps : Steps count conversion last) :
    last.outcome = conversion.outcome := by
  induction steps with
  | refl => rfl
  | step taken further ih => rw [ih, outcome_step? taken]

/-- Running a conversion goes through all of its steps. -/
theorem Steps.run_eq (steps : Steps count conversion last) (ended : last.step? = none) :
    conversion.run = last.built.reverse := by
  induction steps with
  | refl =>
    rw [run]
    split
    next => rfl
    next next taken => simp [ended] at taken
  | step taken further ih =>
    rw [run]
    split
    next nothing => simp [nothing] at taken
    next other same =>
      rw [taken, Option.some.injEq] at same
      rw [← same, ih ended]

/-- A conversion comes to its end, after as many steps as it has weight. -/
theorem exists_steps_to_end (conversion : Conversion) :
    ∃ last, Steps conversion.weight conversion last ∧ last.step? = none := by
  cases taken : conversion.step? with
  | none =>
    obtain ⟨nothing, outermost⟩ := step?_eq_none_iff.mp taken
    have weightless : conversion.weight = 0 := by
      simp [weight, nothing, outermost, weightOfAll, weightOfFrames]
    exact ⟨conversion, weightless ▸ .refl, taken⟩
  | some next =>
    have fewer := weight_step? taken
    obtain ⟨last, steps, ended⟩ := exists_steps_to_end next
    exact ⟨last, fewer ▸ .step taken steps, ended⟩
termination_by conversion.weight
decreasing_by omega

end Conversion

/-- The loop and the recursion convert every outline alike. The loop comes to its end, after
`weightOfAll outline` steps, and then the nodes it has built are those of the recursion, with the
start of the document as the position of top-level text. These are the nodes, and the only ones,
that the outline stands for. -/
theorem convert_eq_recursion (outline : List Outline) :
    (∃ last, Conversion.Steps (weightOfAll outline) { remaining := outline } last ∧
      last.step? = none ∧ last.built.reverse = convert outline) ∧
    convert outline = nodesOf { line := 1, column := 1 } outline ∧
    ∀ nodes, Shows { line := 1, column := 1 } outline nodes ↔ nodes = convert outline := by
  obtain ⟨last, steps, ended⟩ :=
    Conversion.exists_steps_to_end { remaining := outline }
  have returned : convert outline = last.built.reverse := steps.run_eq ended
  have same : convert outline = nodesOf { line := 1, column := 1 } outline := by
    rw [returned, ← Conversion.outcome_of_end ended, steps.outcome_eq]
    rfl
  refine ⟨⟨last, steps, ended, returned.symm⟩, same, fun nodes => ?_⟩
  rw [same]
  exact shows_iff _ outline nodes

end HtmlNesting.Markup.Outline
