import HtmlNesting.Text.CaseTable

/-!
# Letter case

`lower` is full lower-casing: most characters have a lower-case form of one character, a capital I
with a dot has one of two, and a capital sigma takes its final form at the end of a word. Names of
elements and attributes are compared in this form.

`upper` is needed only to recognise words written in ASCII capitals, so it maps exactly the
characters whose capitals are ASCII letters and keeps every other one.
-/

namespace HtmlNesting.Text

/-- Whether a character lies in one of some runs, which are in increasing order. -/
def inRuns (runs : List (Nat × Nat)) (c : Char) : Bool :=
  match runs.dropWhile fun run => run.2 < c.toNat with
  | [] => false
  | run :: _ => run.1 ≤ c.toNat

/-- The lower-case form of a character that has one of its own, whatever stands beside it. -/
def lowerChar (c : Char) : Char :=
  if c.toNat < 128 then c.toLower
  else
    match lowerRuns.find? fun (first, last, step, _) =>
        first ≤ c.toNat && c.toNat ≤ last && (c.toNat - first) % step == 0 with
    | some (_, _, _, distance) => Char.ofNat (c.toNat + distance).toNat
    | none => c

/-- Whether the nearest character that is not passed over is a letter with case. -/
def reachesLetter (cs : List Char) : Bool :=
  match cs.dropWhile (inRuns passedOverRuns) with
  | [] => false
  | c :: _ => inRuns casedRuns c

/-- The lower-case form of a character between what stands before it, nearest first, and what
stands after it. -/
def lowerBetween (before : List Char) (c : Char) (after : List Char) : List Char :=
  if c.toNat < 128 then [c.toLower]
  else if c.toNat == 0x130 then ['i', '̇']
  else if c.toNat == 0x3a3 then
    [if reachesLetter before && !reachesLetter after then 'ς' else 'σ']
  else [lowerChar c]

/-- Lower-cases the second list, which the first precedes, nearest first. -/
def lowerAfter (before : List Char) : List Char → List Char
  | [] => []
  | c :: rest => lowerBetween before c rest ++ lowerAfter (c :: before) rest

/-- Full lower-casing. -/
def lower (s : String) : String :=
  String.ofList (lowerAfter [] s.toList)

/-- The capitals of a character, where they are ASCII letters. -/
def upperChar (c : Char) : List Char :=
  if c.toNat < 128 then [c.toUpper]
  else
    match c.toNat with
    | 0xdf => ['S', 'S']
    | 0x131 => ['I']
    | 0x17f => ['S']
    | 0xfb00 => ['F', 'F']
    | 0xfb01 => ['F', 'I']
    | 0xfb02 => ['F', 'L']
    | 0xfb03 => ['F', 'F', 'I']
    | 0xfb04 => ['F', 'F', 'L']
    | 0xfb05 => ['S', 'T']
    | 0xfb06 => ['S', 'T']
    | _ => [c]

/-- A text in capitals, as far as these are ASCII letters. -/
def upper (s : String) : String :=
  String.ofList (s.toList.flatMap upperChar)

end HtmlNesting.Text
