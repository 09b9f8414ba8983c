import HtmlNesting.Markup.Event
import HtmlNesting.Markup.StartTag

/-!
# Single constructs

What stands at a less-than sign or at an ampersand. A construct is found with its source and what
follows it, or turns out not to be finished by the input.
-/

namespace HtmlNesting.Markup

/-- What stands at a point of the input. -/
inductive Found where
  /-- A piece with its event, if it has one. -/
  | piece (event : Option Event) (source rest : List Char)
  /-- A piece after which the pass ends. -/
  | halt (event : Option Event) (source rest : List Char)
  /-- Something that the input does not finish. -/
  | unfinished

/-- Splits at the first occurrence of a character: what is before it and what is after it. -/
def splitAt? (c : Char) (cs : List Char) : Option (List Char × List Char) :=
  match cs.dropWhile (· != c) with
  | [] => none
  | _ :: rest => some (cs.takeWhile (· != c), rest)

/-- Markup up to the next greater-than sign, after some characters that introduce it. -/
def foundUntilGreater (event : Event) (lead cs : List Char) : Found :=
  match splitAt? '>' cs with
  | none => .unfinished
  | some (body, rest) => .piece (some event) (lead ++ body ++ ['>']) rest

/-- If some characters start with others, possibly after blanks, how they do and what follows. -/
def expect? (wanted : Char) (cs : List Char) : Option (List Char × List Char) :=
  let blanks := cs.takeWhile Text.isBlank
  match cs.dropWhile Text.isBlank with
  | [] => none
  | c :: rest => if c = wanted then some (blanks ++ [c], rest) else none

/-- The end of a comment: two hyphens, blanks, a greater-than sign. -/
def commentEnd? : List Char → Option (List Char × List Char)
  | '-' :: '-' :: rest => (expect? '>' rest).map fun (source, rest) => ('-' :: '-' :: source, rest)
  | _ => none

/-- The end of a marked section: a bracket and a greater-than sign. -/
def shortSectionEnd? : List Char → Option (List Char × List Char)
  | ']' :: rest => (expect? '>' rest).map fun (source, rest) => (']' :: source, rest)
  | _ => none

/-- The end of a marked section: two brackets and a greater-than sign. -/
def longSectionEnd? : List Char → Option (List Char × List Char)
  | ']' :: rest =>
    match expect? ']' rest with
    | none => none
    | some (second, rest) =>
      (expect? '>' rest).map fun (source, rest) => (']' :: second ++ source, rest)
  | _ => none

/-- Splits at the first place where something ends: what comes before, the end, and the rest. -/
def splitAtEnd? (ending? : List Char → Option (List Char × List Char)) :
    List Char → Option (List Char × List Char × List Char)
  | [] => none
  | c :: cs =>
    match ending? (c :: cs) with
    | some (source, rest) => some ([], source, rest)
    | none =>
      match splitAtEnd? ending? cs with
      | none => none
      | some (before, source, rest) => some (c :: before, source, rest)

/-- Markup up to an end, after some characters that introduce it. -/
def foundUntilEnd (event : Event) (ending? : List Char → Option (List Char × List Char))
    (lead cs : List Char) : Found :=
  match splitAtEnd? ending? cs with
  | none => .unfinished
  | some (before, source, rest) => .piece (some event) (lead ++ before ++ source) rest

/-- Whether a character belongs to the name of a marked section. -/
def isSectionNamePart (c : Char) : Bool :=
  isLetterOrDigit c || c == '-' || c == '_' || c == '.'

/-- The kinds of marked sections that end with two brackets. -/
def longSections : List String := ["temp", "cdata", "ignore", "include", "rcdata"]

/-- The kinds of marked sections that end with one bracket. -/
def shortSections : List String := ["if", "else", "endif"]

/-- Whether some characters start with a word, in any case. -/
def startsWithWord (word : String) (cs : List Char) : Bool :=
  (cs.take word.length).map Char.toLower == word.toList

/-- A marked section, given what follows its opening. -/
def scanSection (cs : List Char) : Except Rejection Found :=
  let lead := "<![".toList
  match cs with
  | [] => .ok .unfinished
  | c :: _ =>
    if isLetter c then
      let name := cs.takeWhile isSectionNamePart
      let after := cs.dropWhile isSectionNamePart
      let blanks := after.takeWhile Text.isBlank
      match after.dropWhile Text.isBlank with
      | [] => .ok .unfinished
      | _ :: _ =>
        let keyword := Text.lower (String.ofList name)
        let kind := if startsWithWord "cdata[" cs then Aside.characterData else .declaration
        if longSections.contains keyword then
          .ok (foundUntilEnd (.aside kind) longSectionEnd? lead cs)
        else if shortSections.contains keyword then
          .ok (foundUntilEnd (.aside kind) shortSectionEnd? lead cs)
        else .error (.unknownSection (String.ofList (name ++ blanks)))
    else .error (.namelessSection (String.ofList ((lead ++ cs).take 20)))

/-- A declaration or comment, given what follows the exclamation mark. -/
def scanDeclaration (cs : List Char) : Except Rejection Found :=
  match cs with
  | '-' :: '-' :: body => .ok (foundUntilEnd (.aside .comment) commentEnd? "<!--".toList body)
  | '[' :: body => scanSection body
  | _ =>
    let kind := if startsWithWord "doctype" cs then Aside.doctype else .comment
    .ok (foundUntilGreater (.aside kind) "<!".toList cs)

/-- Whether a character belongs to the name of an end tag of the common form. -/
def isEndNamePart (c : Char) : Bool :=
  isLetterOrDigit c || c == '-' || c == '.' || c == ':' || c == '_'

/-- An end tag of the common form, which has nothing but blanks around its name: the name, the
source after the slash, and the rest. -/
def plainEndTag? (cs : List Char) : Option (List Char × List Char × List Char) :=
  let blanks := cs.takeWhile Text.isBlank
  match cs.dropWhile Text.isBlank with
  | [] => none
  | c :: body =>
    if isLetter c then
      let name := c :: body.takeWhile isEndNamePart
      (expect? '>' (body.dropWhile isEndNamePart)).map fun (source, rest) =>
        (name, blanks ++ name ++ source, rest)
    else none

/-- An end tag, given what follows the slash. One that has no name is a comment, and one without
anything at all is nothing. -/
def scanEndTag (cs : List Char) : Found :=
  match splitAt? '>' cs with
  | none => .unfinished
  | some (body, rest) =>
    let source := '<' :: '/' :: body ++ ['>']
    match plainEndTag? cs with
    | some (name, source, rest) =>
      .piece (some (.finish (Text.lower (String.ofList name)))) ('<' :: '/' :: source) rest
    | none =>
      match body with
      | [] => .piece none source rest
      | c :: _ =>
        if isLetter c then
          let name := body.takeWhile isTagNamePart
          .piece (some (.finish (Text.lower (String.ofList name)))) source rest
        else .piece (some (.aside .comment)) source rest

/-- What starts at a less-than sign, given what follows it. -/
def scanAngle (origin : Origin) (fuel : Nat) (cs : List Char) : Except Rejection Found :=
  match cs with
  | [] => .ok (.halt none [] ['<'])
  | '/' :: body => .ok (scanEndTag body)
  | '?' :: body => .ok (foundUntilGreater (.aside .instruction) ['<', '?'] body)
  | '!' :: body => scanDeclaration body
  | c :: _ =>
    if isLetter c then
      match scanStartTag fuel cs with
      | .unfinished => .ok .unfinished
      | .text source rest => .ok (.piece (some (.data source)) source rest)
      | .refused digits => .error (.longNumber digits)
      | .tag name attributes selfClosed source rest =>
        .ok (.piece (some (.start name attributes selfClosed origin)) source rest)
    else .ok (.piece (some (.data ['<'])) ['<'] cs)

/-- A numbered reference, given what follows the number sign. It needs a character after its digits
that is no digit of either base. -/
def scanNumbered (cs : List Char) : Except Rejection Found :=
  let failed : Found :=
    if cs.contains ';' then .halt (some (.data ['&', '#'])) ['&', '#'] cs
    else .halt none [] ('&' :: '#' :: cs)
  match numeral? cs with
  | none => .ok failed
  | some numeral =>
    match numeral.rest with
    | [] => .ok failed
    | c :: rest =>
      if isHexadecimal c then .ok failed
      else
        match tooManyDigits? cs with
        | some digits => .error (.longNumber digits)
        | none =>
          let event := Event.data [numbered numeral.number]
          if c = ';' then .ok (.piece (some event) ('&' :: '#' :: numeral.source ++ [';']) rest)
          else .ok (.piece (some event) ('&' :: '#' :: numeral.source) (c :: rest))

/-- Whether a character belongs to the name of a reference in text. -/
def isReferencePart (c : Char) : Bool :=
  isLetterOrDigit c || c == '-' || c == '.'

/-- The name of a reference in text and what follows it. At the end of the input a name ends before
its last hyphen or point, and without one there is no name. -/
def referenceName? (cs : List Char) : Option (List Char × List Char) :=
  let name := cs.takeWhile isReferencePart
  match cs.dropWhile isReferencePart with
  | c :: rest => some (name, c :: rest)
  | [] =>
    let tail := name.reverse.takeWhile isLetterOrDigit
    match name.reverse.dropWhile isLetterOrDigit with
    | [] => none
    | mark :: before => some (before.reverse, mark :: tail.reverse)

/-- A named reference, given what follows the ampersand, which starts with a letter. When the input
ends with an ampersand and one letter, the final pass drops the ampersand. -/
def scanNamed (final : Bool) (cs : List Char) : Found :=
  match referenceName? cs with
  | some (name, rest) =>
    let event := Event.data (textReference name)
    match rest with
    | ';' :: rest => .piece (some event) ('&' :: name ++ [';']) rest
    | rest => .piece (some event) ('&' :: name) rest
  | none => if final && cs.length == 1 then .halt none ['&'] cs else .halt none [] ('&' :: cs)

/-- What starts at an ampersand, given what follows it. -/
def scanReference (final : Bool) (cs : List Char) : Except Rejection Found :=
  match cs with
  | [] => .ok (.halt none [] ['&'])
  | '#' :: body => scanNumbered body
  | c :: _ =>
    .ok (if isLetter c then scanNamed final cs else .piece (some (.data ['&'])) ['&'] cs)

end HtmlNesting.Markup
