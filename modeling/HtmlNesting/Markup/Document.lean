import HtmlNesting.Markup.Outline
import HtmlNesting.Place

/-!
# Documents

A document is what remains of an outline for the rules: elements and text, with positions. Markup
beside the content is dropped, text is placed at the element around it, and missing attribute values
are empty.

`Outline.convert` is the conversion used. It is a loop that keeps the enclosing elements on a stack
of its own, so the depth of a document is no concern: `Conversion.step?` takes one node, or ends one
element, and `Conversion.run` goes on until there is no further step. `Outline.nodesOf` is the same
by recursion on the outline.
-/

namespace HtmlNesting.Markup

namespace Outline

/-- The position of an element: the line, or the first one, and the column after the offset. -/
def positionAt (line offset : Option Nat) : Position where
  line := match line with
    | none => 1
    | some 0 => 1
    | some line => line
  column := (offset.getD 0 : Nat) + 1

/-- The start tag of an element. -/
def startTag (name : String) (attributes : List (String × Option String))
    (line offset : Option Nat) : StartTag :=
  .named name (attributes.map fun entry => (entry.1, entry.2.getD "")) (positionAt line offset)

mutual

/-- The nodes of a node inside an element at a position. -/
def nodeOf (position : Position) : Outline → List Node
  | element name attributes line offset children =>
    let start := startTag name attributes line offset
    [.element start (nodesOf start.position children)]
  | text data => [.text data position]
  | aside _ => []

/-- The nodes of some nodes inside an element at a position. -/
def nodesOf (position : Position) : List Outline → List Node
  | [] => []
  | node :: rest => nodeOf position node ++ nodesOf position rest

end

mutual

/-- The number of conversion steps that a node takes. -/
def weight : Outline → Nat
  | element _ _ _ _ children => 2 + weightOfAll children
  | text _ => 1
  | aside _ => 1

/-- The number of conversion steps that some nodes take. -/
def weightOfAll : List Outline → Nat
  | [] => 0
  | node :: rest => node.weight + weightOfAll rest

end

/-- An element whose children are being converted: its start tag, and for the element around it the
nodes that remain, the nodes so far, latest first, and its position. -/
structure Frame where
  start : StartTag
  remaining : List Outline
  built : List Node
  position : Position

/-- The number of conversion steps that the frames on a stack still take. -/
def weightOfFrames : List Frame → Nat
  | [] => 0
  | frame :: rest => weightOfAll frame.remaining + 1 + weightOfFrames rest

/-- A conversion under way: the nodes that remain of the innermost open element, its nodes so far,
latest first, its position, and what is kept for the elements around it, innermost first. -/
structure Conversion where
  remaining : List Outline
  built : List Node := []
  position : Position := {}
  stack : List Frame := []

namespace Conversion

/-- The number of steps that a conversion still takes. -/
def weight (conversion : Conversion) : Nat :=
  weightOfAll conversion.remaining + weightOfFrames conversion.stack

/-- Takes a step: opens an element, adds a text, passes markup beside the content, or closes the
innermost element when nothing of it remains. At the end of the top level there is no step. -/
def step? (conversion : Conversion) : Option Conversion :=
  match conversion.remaining, conversion.stack with
  | [], [] => none
  | [], frame :: rest =>
    some {
      remaining := frame.remaining
      built := .element frame.start conversion.built.reverse :: frame.built
      position := frame.position
      stack := rest }
  | element name attributes line offset children :: rest, stack =>
    let start := startTag name attributes line offset
    some {
      remaining := children
      position := start.position
      stack := {
        start, remaining := rest, built := conversion.built
        position := conversion.position } :: stack }
  | text data :: rest, stack =>
    some {
      remaining := rest, built := .text data conversion.position :: conversion.built
      position := conversion.position, stack }
  | aside _ :: rest, stack =>
    some {
      remaining := rest, built := conversion.built, position := conversion.position, stack }

/-- Every step is one step less to take. -/
theorem weight_step? {conversion next : Conversion} (taken : conversion.step? = some next) :
    next.weight + 1 = conversion.weight := by
  obtain ⟨remaining, built, position, stack⟩ := conversion
  match remaining, stack with
  | [], [] => cases taken
  | [], frame :: rest =>
    cases taken
    simp only [weight, weightOfAll, weightOfFrames]
    omega
  | element .. :: rest, stack =>
    cases taken
    simp only [weight, weightOfAll, weightOfFrames, Outline.weight]
    omega
  | text _ :: rest, stack =>
    cases taken
    simp only [weight, weightOfAll, Outline.weight]
    omega
  | aside _ :: rest, stack =>
    cases taken
    simp only [weight, weightOfAll, Outline.weight]
    omega

/-- The nodes that are built when there is no further step. -/
def run (conversion : Conversion) : List Node :=
  match _ : conversion.step? with
  | none => conversion.built.reverse
  | some next => next.run
termination_by conversion.weight
decreasing_by
  have fewer : next.weight + 1 = conversion.weight := weight_step? ‹_›
  omega

end Conversion

/-- The nodes of an outline; top-level text is placed at the start of the document. -/
def convert (outline : List Outline) : List Node :=
  Conversion.run { remaining := outline }

end Outline

/-- A document for the rules. -/
structure Document where
  /-- Where the markup is from, if that is known. -/
  source : Option String := none
  hasDoctype : Bool := false
  nodes : List Node := []

namespace Document

/-- The document of an outline. -/
def ofOutline (outline : List Outline) (source : Option String) : Document where
  source := source
  hasDoctype := outline.any Outline.isDoctype
  nodes := Outline.convert outline

/-- Reads a document by a parser. Byte order marks are dropped wherever they stand, and of nothing
there is nothing to parse. -/
def parseBy (outline : List Char → Except Rejection (List Outline)) (markup : String)
    (source : Option String) : Except Rejection Document :=
  if markup.isEmpty then .ok { source }
  else
    match outline (markup.toList.filter (· != '﻿')) with
    | .error rejection => .error rejection
    | .ok outline => .ok (ofOutline outline source)

/-- Reads a document. -/
def parse (markup : String) (source : Option String := none) : Except Rejection Document :=
  parseBy Outline.parse markup source

/-- The tree that the rules are about. -/
def tree (document : Document) : Tree :=
  .document document.nodes

end Document

end HtmlNesting.Markup
