import HtmlNesting.Number.Places
import HtmlNesting.Settings.Cast

/-!
# Templates

A template is a text with slots, each of which starts with a percent sign and is filled with a
value. A slot may name its value in parentheses, and tells how to write it: flags, a least width, a
precision, a letter for the length that means nothing, and the letter of the conversion. Width and
precision may themselves be values, written as a star.

`pieces` takes a template apart. `fillPieces` fills the slots from left to right; the first fault
ends it, so a slot is looked at only as far as its parts are sound. `fill` is the whole: a template
without values is taken as it is, and values that are left over are a fault.
-/

namespace HtmlNesting.Log

/-- Why a template cannot be filled. -/
inductive TemplateFault where
  /-- The values do not fit the slots. -/
  | mismatch
  /-- A slot is not well formed, or its value is no number. -/
  | malformed
  /-- A number is too large. -/
  | tooLarge
  /-- No value has the name that a slot asks for. -/
  | missingKey
  /-- The text for a slot would be too long. -/
  | tooLong
  deriving DecidableEq, Repr

/-- How the value of a slot is named. -/
inductive SlotKey where
  | unnamed
  | named (key : String)
  /-- The name has no end. -/
  | unclosed
  deriving DecidableEq, Repr

/-- A width or a precision. -/
inductive Amount where
  | absent
  | given (count : Nat)
  /-- The next value tells it. -/
  | ofValue
  deriving DecidableEq, Repr

/-- The flags of a slot. -/
structure Flags where
  /-- Text is filled up at its end. -/
  left : Bool := false
  /-- A number that is not negative has a plus. -/
  plus : Bool := false
  /-- A number that is not negative has a blank for its sign. -/
  blank : Bool := false
  /-- A number tells its base, or always has a point. -/
  alternate : Bool := false
  /-- A number is filled up with zeros. -/
  zeros : Bool := false
  deriving DecidableEq, Repr

/-- A slot in a template. Without a conversion it has no end. -/
structure Slot where
  key : SlotKey := .unnamed
  flags : Flags := {}
  width : Amount := .absent
  precision : Amount := .absent
  conversion : Option Char := none
  deriving DecidableEq, Repr

/-- A piece of a template. -/
inductive Piece where
  | literal (c : Char)
  | slot (slot : Slot)
  deriving DecidableEq, Repr

/-- Splits off a name up to the parenthesis that closes it; `depth` more have been opened. -/
def splitKey (depth : Nat) (read : List Char) : List Char → Option (List Char × List Char)
  | [] => none
  | c :: rest =>
    if c == ')' then
      match depth with
      | 0 => some (read.reverse, rest)
      | depth + 1 => splitKey depth (c :: read) rest
    else splitKey (if c == '(' then depth + 1 else depth) (c :: read) rest

/-- Splits the name of a value off. -/
def slotKey : List Char → SlotKey × List Char
  | '(' :: rest =>
    match splitKey 0 [] rest with
    | some (key, rest) => (.named (String.ofList key), rest)
    | none => (.unclosed, [])
  | cs => (.unnamed, cs)

/-- Splits flags off. -/
def slotFlags (flags : Flags) : List Char → Flags × List Char
  | '-' :: rest => slotFlags { flags with left := true } rest
  | '+' :: rest => slotFlags { flags with plus := true } rest
  | ' ' :: rest => slotFlags { flags with blank := true } rest
  | '#' :: rest => slotFlags { flags with alternate := true } rest
  | '0' :: rest => slotFlags { flags with zeros := true } rest
  | cs => (flags, cs)

/-- Splits a star or digits off. -/
def amount : List Char → Amount × List Char
  | '*' :: rest => (.ofValue, rest)
  | cs =>
    match cs.takeWhile Json.isDigit with
    | [] => (.absent, cs)
    | digits =>
      (.given (Decimal.ofDigits (Json.digitValues digits)), cs.dropWhile Json.isDigit)

/-- Splits a precision off; a point alone asks for none at all. -/
def slotPrecision : List Char → Amount × List Char
  | '.' :: rest =>
    match amount rest with
    | (.absent, rest) => (.given 0, rest)
    | found => found
  | cs => (.absent, cs)

/-- Drops a letter for the length. -/
def dropLength : List Char → List Char
  | 'h' :: rest => rest
  | 'l' :: rest => rest
  | 'L' :: rest => rest
  | cs => cs

/-- Splits a slot off, after its percent sign. -/
def splitSlot (cs : List Char) : Slot × List Char :=
  let (key, cs) := slotKey cs
  let (flags, cs) := slotFlags {} cs
  let (width, cs) := amount cs
  let (precision, cs) := slotPrecision cs
  match dropLength cs with
  | [] => ({ key, flags, width, precision }, [])
  | conversion :: rest => ({ key, flags, width, precision, conversion := some conversion }, rest)

/-- The pieces of a template, of which there are at most `fuel`. Two percent signs are one. -/
def piecesWithin : (fuel : Nat) → List Char → List Piece
  | 0, _ => []
  | _ + 1, [] => []
  | fuel + 1, c :: rest =>
    if c == '%' then
      match rest with
      | '%' :: rest => .literal '%' :: piecesWithin fuel rest
      | rest =>
        let (slot, rest) := splitSlot rest
        .slot slot :: piecesWithin fuel rest
    else .literal c :: piecesWithin fuel rest

/-- The pieces of a template. -/
def pieces (template : String) : List Piece :=
  piecesWithin template.length template.toList

/-- The values for a template. -/
inductive Supply where
  /-- Values that are taken in order. -/
  | items (remaining : List Json)
  /-- Values by name. The one asked for last is there to be taken, and before that the dictionary
  itself. -/
  | mapping (entries : List (Scalar × Json)) (current : Option Json)

namespace Supply

/-- The supply of some values. A single dictionary with entries has its values taken by name. -/
def ofValues : List Json → Supply
  | [.dictionary (entry :: others)] =>
    mapping (entry :: others) (some (.dictionary (entry :: others)))
  | values => items values

/-- Takes a value. -/
def next : Supply → Except TemplateFault (Json × Supply)
  | items (value :: rest) => .ok (value, items rest)
  | mapping entries (some value) => .ok (value, mapping entries none)
  | _ => .error .mismatch

/-- Looks for the value that a slot names. -/
def select (supply : Supply) : SlotKey → Except TemplateFault Supply
  | .unnamed => .ok supply
  | .unclosed =>
    match supply with
    | items _ => .error .mismatch
    | mapping _ _ => .error .malformed
  | .named key =>
    match supply with
    | items _ => .error .mismatch
    | mapping entries _ =>
      match Dictionary.get? entries (.text key) with
      | some value => .ok (mapping entries (some value))
      | none => .error .missingKey

/-- Whether no value is left over. Values by name may be. -/
def isSpent : Supply → Bool
  | items remaining => remaining.isEmpty
  | mapping _ _ => true

end Supply

/-- The greatest width that can be written. -/
def maxWidth : Int := 9223372036854775807

/-- The greatest precision that can be written. -/
def maxPrecision : Int := 2147483647

/-- The greatest width or precision for which a text is made. -/
def maxFilling : Nat := 100000000

/-- The number that an amount comes to, if there is one, and the values that remain. -/
def Supply.measure (supply : Supply) (limit : Int) :
    Amount → Except TemplateFault (Option Int × Supply)
  | .absent => .ok (none, supply)
  | .given count => if limit < count then .error .malformed else .ok (some count, supply)
  | .ofValue =>
    match supply.next with
    | .error fault => .error fault
    | .ok (value, rest) =>
      match value.shape.scalar?.bind Scalar.whole? with
      | none => .error .mismatch
      | some number =>
        if limit < number ∨ number < -limit - 1 then .error .tooLarge else .ok (some number, rest)

/-- How a value is written. -/
structure Layout where
  flags : Flags
  width : Nat
  precision : Option Nat
  conversion : Char

/-- Fills a text up to a width, between the sign with the base of a number and its digits if it is
filled up with zeros, and otherwise in front or at the end. -/
def Layout.filledUp (layout : Layout) (zeros : Bool) (lead body : List Char) : List Char :=
  let missing := layout.width - (lead.length + body.length)
  if layout.flags.left then lead ++ body ++ List.replicate missing ' '
  else if zeros then lead ++ List.replicate missing '0' ++ body
  else List.replicate missing ' ' ++ lead ++ body

/-- A text as it is written: cut to the precision, then filled up. -/
def Layout.text (layout : Layout) (s : String) : List Char :=
  let cs := match layout.precision with
    | some precision => s.toList.take precision
    | none => s.toList
  layout.filledUp false [] cs

/-- The sign that a number is written with. -/
def Layout.sign (layout : Layout) (negative : Bool) : List Char :=
  if negative then ['-']
  else if layout.flags.plus then ['+']
  else if layout.flags.blank then [' ']
  else []

/-- A number as it is written, given its sign, the mark of its base and its digits. -/
def Layout.number (layout : Layout) (negative : Bool) (base digits : List Char) : List Char :=
  layout.filledUp layout.flags.zeros (layout.sign negative ++ base) digits

/-- The integer that a value is written as. Only a decimal conversion takes the whole part of a
decimal. -/
def integerOf (decimalBase : Bool) : Json → Except TemplateFault Int
  | .text _ => .error .mismatch
  | .decimal value =>
    if decimalBase then
      match Scalar.truncated value with
      | .ok number => .ok number
      | .error .tooLarge => .error .tooLarge
      | .error _ => .error .malformed
    else .error .mismatch
  | value =>
    match value.shape.scalar?.bind Scalar.whole? with
    | some number => .ok number
    | none => .error .mismatch

/-- An integer in a base, with at least as many digits as the precision says. -/
def Layout.integer (layout : Layout) (base : Nat) (mark : List Char) (value : Int) : List Char :=
  let digits := Nat.toDigits base value.natAbs
  let zeros := List.replicate (layout.precision.getD 0 - digits.length) '0'
  let written := zeros ++ digits
  let shown := if layout.conversion == 'X' then written.map Char.toUpper else written
  layout.number (value < 0) (if layout.flags.alternate then mark else []) shown

/-- A double in a style. -/
def Layout.decimal (layout : Layout) (style : PlacesStyle) (value : Float) : List Char :=
  let written := (Decimal.placesText value style (layout.precision.getD 6)
    layout.flags.alternate).toList
  let shown := if layout.conversion.isUpper then written.map Char.toUpper else written
  match shown with
  | '-' :: digits => layout.number true [] digits
  | digits => layout.number false [] digits

/-- The double that a value is written as. -/
def doubleOf : Json → Except TemplateFault Float
  | .text _ => .error .mismatch
  | value =>
    match value.shape.scalar?.map Scalar.toDecimal with
    | some (.ok number) => .ok number
    | some (.error .tooLarge) => .error .tooLarge
    | _ => .error .mismatch

/-- The character that a value is written as. -/
def characterOf : Json → Except TemplateFault Char
  | .text s =>
    match s.toList with
    | [c] => .ok c
    | _ => .error .mismatch
  | value =>
    match value.shape.scalar?.bind Scalar.whole? with
    | none => .error .mismatch
    | some number =>
      if 0 ≤ number ∧ number < 0x110000 then .ok (Char.ofNat number.toNat) else .error .tooLarge

/-- A text with all characters outside ASCII written by their numbers. -/
def asciiOnly (s : String) : String :=
  String.ofList (s.toList.flatMap fun c =>
    if c.toNat < 0x80 then [c]
    else if c.toNat ≤ 0xff then '\\' :: 'x' :: Text.hexDigits 2 c.toNat
    else if c.toNat ≤ 0xffff then '\\' :: 'u' :: Text.hexDigits 4 c.toNat
    else '\\' :: 'U' :: Text.hexDigits 8 c.toNat)

/-- A value as a conversion writes it. -/
def Layout.written (layout : Layout) (value : Json) : Except TemplateFault (List Char) :=
  match layout.conversion with
  | 's' => .ok (layout.text value.asText)
  | 'r' => .ok (layout.text value.shown)
  | 'a' => .ok (layout.text (asciiOnly value.shown))
  | 'd' => (integerOf true value).map (layout.integer 10 [])
  | 'i' => (integerOf true value).map (layout.integer 10 [])
  | 'u' => (integerOf true value).map (layout.integer 10 [])
  | 'o' => (integerOf false value).map (layout.integer 8 ['0', 'o'])
  | 'x' => (integerOf false value).map (layout.integer 16 ['0', 'x'])
  | 'X' => (integerOf false value).map (layout.integer 16 ['0', 'X'])
  | 'f' => (doubleOf value).map (layout.decimal .fixed)
  | 'F' => (doubleOf value).map (layout.decimal .fixed)
  | 'e' => (doubleOf value).map (layout.decimal .scientific)
  | 'E' => (doubleOf value).map (layout.decimal .scientific)
  | 'g' => (doubleOf value).map (layout.decimal .general)
  | 'G' => (doubleOf value).map (layout.decimal .general)
  | 'c' => (characterOf value).map fun c => layout.filledUp false [] [c]
  | _ => .error .malformed

/-- Whether more would have to be filled up than a text can hold. A precision only cuts text. -/
def Layout.isTooLong (layout : Layout) : Bool :=
  maxFilling < layout.width ||
    (!(['s', 'r', 'a', 'c'].contains layout.conversion) && maxFilling < layout.precision.getD 0)

/-- A value as a conversion writes it, unless it would be too long. That shows only once the value
fits the conversion. -/
def Layout.writtenWithin (layout : Layout) (value : Json) : Except TemplateFault (List Char) :=
  if layout.isTooLong then
    match { layout with width := 0, precision := none }.written value with
    | .error fault => .error fault
    | .ok _ => .error .tooLong
  else layout.written value

/-- The layout of a slot with a width and a precision. A negative width fills up at the end, and a
negative precision is none at all. -/
def Slot.layout (slot : Slot) (width precision : Option Int) (conversion : Char) : Layout where
  flags := match width with
    | some width => { slot.flags with left := slot.flags.left || decide (width < 0) }
    | none => slot.flags
  width := (width.getD 0).natAbs
  precision := precision.map Int.toNat
  conversion := conversion

/-- Fills a slot, and gives the values that remain. -/
def Slot.fill (slot : Slot) (supply : Supply) : Except TemplateFault (List Char × Supply) := do
  let supply ← supply.select slot.key
  let (width, supply) ← supply.measure maxWidth slot.width
  let (precision, supply) ← supply.measure maxPrecision slot.precision
  match slot.conversion with
  | none => throw .malformed
  | some conversion =>
    let (value, supply) ← supply.next
    return (← (slot.layout width precision conversion).writtenWithin value, supply)

/-- Fills the slots of a template; `filled` holds the characters so far, latest first. -/
def fillPieces (filled : List Char) (supply : Supply) :
    List Piece → Except TemplateFault (List Char × Supply)
  | [] => .ok (filled.reverse, supply)
  | .literal c :: rest => fillPieces (c :: filled) supply rest
  | .slot slot :: rest =>
    match slot.fill supply with
    | .error fault => .error fault
    | .ok (text, remaining) => fillPieces (text.reverse ++ filled) remaining rest

/-- A template with values filled in. Without values it is taken as it is. -/
def fill (template : String) (values : List Json) : Except TemplateFault String :=
  match values with
  | [] => .ok template
  | _ =>
    match fillPieces [] (.ofValues values) (pieces template) with
    | .error fault => .error fault
    | .ok (filled, remaining) =>
      if remaining.isSpent then .ok (String.ofList filled) else .error .mismatch

end HtmlNesting.Log
