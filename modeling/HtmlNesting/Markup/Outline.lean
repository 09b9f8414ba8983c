import HtmlNesting.Markup.Scanner

/-!
# Outlines

The outline of a document is the tree that its markup spells, nothing added: elements, text, and
markup beside the content. `Outline.ofEvents` keeps a stack of open elements. A start tag opens a
child of the innermost one, an end tag closes the nearest element of its name with everything inside
it, and nothing else closes an element.

Character data is collected until something else occurs. White space alone is reduced to one
character where it does not matter.

A void element is closed at once. Its end tag is then owed: the next one of its name, wherever it
stands, is taken for it and does nothing.
-/

namespace HtmlNesting.Markup

/-- A node of an outline. An element has a name, attributes with values that may be missing, and the
line and offset it was found at, if these are known. -/
inductive Outline where
  | element (name : String) (attributes : List (String × Option String)) (line offset : Option Nat)
      (children : List Outline)
  | text (data : String)
  | aside (kind : Aside)

/-- Elements that are closed at once. -/
def voidElements : List String := [
  "area", "base", "basefont", "bgsound", "br", "col", "command", "embed", "frame", "hr", "image",
  "img", "input", "isindex", "keygen", "link", "menuitem", "meta", "nextid", "param", "source",
  "spacer", "track", "wbr"]

/-- Elements in which white space matters. -/
def preformatted : List String := ["pre", "textarea"]

/-- An element that has not been closed, with its children so far, latest first. -/
structure OpenElement where
  name : String
  attributes : List (String × Option String)
  origin : Origin
  children : List Outline := []

/-- An open element as it is when it is closed. -/
def OpenElement.close (element : OpenElement) : Outline :=
  .element element.name element.attributes (some element.origin.line) (some element.origin.offset)
    element.children.reverse

/-- A document under construction: its top-level nodes, latest first, the open elements, innermost
first, pieces of character data, latest first, and the names of the end tags that are owed. -/
structure Construction where
  top : List Outline := []
  stack : List OpenElement := []
  pending : List (List Char) := []
  owed : List String := []

namespace Construction

/-- Adds a node to the innermost open element. -/
def add (construction : Construction) (node : Outline) : Construction :=
  match construction.stack with
  | [] => { construction with top := node :: construction.top }
  | inner :: outer =>
    { construction with stack := { inner with children := node :: inner.children } :: outer }

/-- White space alone as it is kept. -/
def reduced (cs : List Char) : List Char :=
  if cs.all Text.isSpace then (if cs.contains '\n' then ['\n'] else [' ']) else cs

/-- Makes a text of the collected character data. -/
def flush (construction : Construction) : Construction :=
  match construction.pending with
  | [] => construction
  | pending =>
    let data := pending.reverse.flatten
    let kept := if construction.stack.any fun element => preformatted.contains element.name
      then data else reduced data
    { construction with pending := [] }.add (.text (String.ofList kept))

/-- Closes open elements up to the nearest one with a name, given that there is one. -/
def closeUntil (name : String) (top : List Outline) : List OpenElement → List Outline × List OpenElement
  | [] => (top, [])
  | [last] => (last.close :: top, [])
  | inner :: outer :: rest =>
    let closed := { outer with children := inner.close :: outer.children } :: rest
    if inner.name = name then (top, closed)
    else closeUntil name top closed
termination_by stack => stack.length

/-- Closes the nearest open element with a name and everything inside it. -/
def close (construction : Construction) (name : String) : Construction :=
  let construction := construction.flush
  if construction.stack.any fun element => element.name == name then
    let (top, stack) := closeUntil name construction.top construction.stack
    { construction with top, stack }
  else construction

/-- Takes an end tag: for one that is owed, or to close an element. -/
def takeEndTag (construction : Construction) (name : String) : Construction :=
  if construction.owed.contains name then
    { construction with owed := construction.owed.erase name }
  else construction.close name

/-- Takes an event. -/
def take (construction : Construction) : Event → Construction
  | .data text => { construction with pending := text :: construction.pending }
  | .aside kind => construction.flush.add (.aside kind)
  | .finish name => construction.takeEndTag name
  | .start name attributes selfClosed origin =>
    let flushed := construction.flush
    let opened := { flushed with stack := { name, attributes, origin } :: flushed.stack }
    if selfClosed then opened.close name
    else if voidElements.contains name then
      let closed := opened.close name
      { closed with owed := closed.owed ++ [name] }
    else opened

/-- Closes all open elements. -/
def closeAll (top : List Outline) : List OpenElement → List Outline
  | [] => top
  | [last] => last.close :: top
  | inner :: outer :: rest =>
    closeAll top ({ outer with children := inner.close :: outer.children } :: rest)
termination_by stack => stack.length

/-- The top-level nodes at the end of the input. -/
def finish (construction : Construction) : List Outline :=
  let construction := construction.flush
  (closeAll construction.top construction.stack).reverse

end Construction

namespace Outline

/-- The tree that some events spell. -/
def ofEvents (events : List Event) : List Outline :=
  (events.foldl Construction.take {}).finish

/-- The outline of some markup. -/
def parse (cs : List Char) : Except Rejection (List Outline) :=
  match events cs with
  | .error rejection => .error rejection
  | .ok events => .ok (ofEvents events)

/-- Whether a node is a doctype. -/
def isDoctype : Outline → Bool
  | aside .doctype => true
  | _ => false

end Outline

end HtmlNesting.Markup
