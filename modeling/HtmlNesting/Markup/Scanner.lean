import HtmlNesting.Markup.Construct

/-!
# Scanning markup into events

Markup is read from left to right. The scanner never closes an element by itself.

Input that looks unfinished is treated in two passes. The first one stops where something is not
finished. The second one takes what is unfinished as text and goes on, except at an unfinished
reference, after which everything is text.

Inside elements for raw text only their end tag is looked for. A raw element that is never closed
swallows the rest of the input.
-/

namespace HtmlNesting.Markup

/-- Elements whose content is raw text. -/
def rawElements : List String := ["script", "style"]

/-- The scanner between two constructs: the raw element it is in, where it is, what remains, and the
events so far, latest first. -/
structure Scanner where
  raw : Option String := none
  origin : Origin := {}
  rest : List Char
  events : List Event := []

namespace Scanner

/-- Moves past a piece of the input. -/
def pass (scanner : Scanner) (event : Option Event) (source rest : List Char) : Scanner :=
  { scanner with
    origin := source.foldl Origin.after scanner.origin
    rest
    events := event.toList ++ scanner.events }

/-- Enters the raw element that an event opens, if it does. -/
def enterRaw (scanner : Scanner) : Option Event → Scanner
  | some (.start name _ false _) =>
    if rawElements.contains name then { scanner with raw := some name } else scanner
  | _ => scanner

/-- Moves past character data. -/
def passText (scanner : Scanner) : Scanner :=
  let isText := fun c : Char => c != '<' && c != '&'
  match scanner.rest.takeWhile isText with
  | [] => scanner
  | text => scanner.pass (some (.data text)) text (scanner.rest.dropWhile isText)

/-- What is taken as text at a less-than sign when the construct there is not finished: up to a
greater-than sign, or else before the next less-than sign, or else the sign alone. -/
def unfinishedText (cs : List Char) : List Char × List Char :=
  match splitAt? '>' cs with
  | some (body, rest) => ('<' :: body ++ ['>'], rest)
  | none =>
    if cs.contains '<' then ('<' :: cs.takeWhile (· != '<'), cs.dropWhile (· != '<'))
    else (['<'], cs)

/-- The ASCII letter that a character counts as in the name of a raw element. -/
def foldedLetter (c : Char) : Char :=
  if c = 'ſ' then 's' else if c = 'ı' ∨ c = 'İ' then 'i' else c.toLower

/-- The end of a raw element: its name between a slash and a greater-than sign. -/
def rawEnd? (name : String) : List Char → Option (List Char × List Char)
  | '<' :: '/' :: cs =>
    let blanks := cs.takeWhile Text.isBlank
    let body := cs.dropWhile Text.isBlank
    let written := body.take name.length
    if written.map foldedLetter = name.toList then
      (expect? '>' (body.drop name.length)).map fun (source, rest) =>
        ('<' :: '/' :: blanks ++ written ++ source, rest)
    else none
  | _ => none

/-- Moves past the end of a raw element and the text before it. An end that is not written in ASCII
letters is text, too. -/
def passRaw (scanner : Scanner) (name : String) (before source rest : List Char) : Scanner :=
  let scanner := match before with
    | [] => scanner
    | _ => scanner.pass (some (.data before)) before []
  if (plainEndTag? (source.drop 2)).isSome then
    { scanner.pass (some (.finish name)) source rest with raw := none }
  else scanner.pass (some (.data source)) source rest

/-- One pass over the input. -/
def run (final : Bool) : (fuel : Nat) → Scanner → Except Rejection Scanner
  | 0, scanner => .ok scanner
  | fuel + 1, scanner =>
    match scanner.raw with
    | some name =>
      match splitAtEnd? (rawEnd? name) scanner.rest with
      | none => .ok scanner
      | some (before, source, rest) => run final fuel (scanner.passRaw name before source rest)
    | none =>
      let scanner := scanner.passText
      match scanner.rest with
      | [] => .ok scanner
      | c :: cs =>
        let found := if c = '&' then scanReference final cs
          else scanAngle scanner.origin fuel cs
        match found with
        | .error rejection => .error rejection
        | .ok (.piece event source rest) =>
          run final fuel ((scanner.pass event source rest).enterRaw event)
        | .ok (.halt event source rest) => .ok (scanner.pass event source rest)
        | .ok .unfinished =>
          if final then
            let (text, rest) := unfinishedText cs
            run final fuel (scanner.pass (some (.data text)) text rest)
          else .ok scanner

/-- Takes what remains after the last pass as text, unless a raw element is open. -/
def finish (scanner : Scanner) : List Event :=
  match scanner.raw, scanner.rest with
  | none, c :: rest => (.data (c :: rest) :: scanner.events).reverse
  | _, _ => scanner.events.reverse

end Scanner

/-- The events of some markup. -/
def events (cs : List Char) : Except Rejection (List Event) :=
  match Scanner.run false (cs.length + 1) { rest := cs } with
  | .error rejection => .error rejection
  | .ok first =>
    match Scanner.run true (cs.length + 1) first with
    | .error rejection => .error rejection
    | .ok second => .ok second.finish

end HtmlNesting.Markup
