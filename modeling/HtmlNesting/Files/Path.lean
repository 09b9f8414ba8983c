import HtmlNesting.Text.Order
import HtmlNesting.Text.Split

/-!
# Paths

A path is a list of components, starting at the root or not. Empty components and single dots say
nothing and are dropped; double dots are kept, since what they mean depends on the files.

Two slashes at the start are kept as they are, apart from a single one, though both lead to the
root. Three or more are as good as one.
-/

namespace HtmlNesting

/-- Where a path starts. -/
inductive PathStart where
  | workingDirectory | root | doubleRoot
  deriving DecidableEq, Repr

namespace PathStart

/-- The start as it is written. -/
def text : PathStart → String
  | workingDirectory => ""
  | root => "/"
  | doubleRoot => "//"

/-- The start of a path in some characters. -/
def ofChars : List Char → PathStart
  | '/' :: '/' :: '/' :: _ => root
  | '/' :: '/' :: _ => doubleRoot
  | '/' :: _ => root
  | _ => workingDirectory

end PathStart

/-- The way to a file or a directory. -/
structure Path where
  start : PathStart
  parts : List String
  deriving DecidableEq, Repr

/-- Whether a text can be a component of a path. -/
def isPartName (s : String) : Bool :=
  !(s == "" || s == ".") && !s.toList.contains '/'

namespace Path

/-- The path that a text stands for. -/
def ofText (s : String) : Path where
  start := .ofChars s.toList
  parts := (Text.pieces '/' s).filter fun part => !(part == "" || part == ".")

/-- The text of a path. -/
def toText (path : Path) : String :=
  if path.start = .workingDirectory ∧ path.parts = [] then "."
  else path.start.text ++ String.intercalate "/" path.parts

/-- The path of something inside a directory. -/
def child (path : Path) (name : String) : Path :=
  { path with parts := path.parts ++ [name] }

/-- The path of the directory around something. -/
def around (path : Path) : Path :=
  { path with parts := path.parts.dropLast }

/-- The components by which paths are ordered: the root comes first if the path starts there. -/
def components (path : Path) : List String :=
  if path.start = .workingDirectory then path.parts else path.start.text :: path.parts

/-- Whether a list of components comes no later than another. -/
def componentsLe : List String → List String → Bool
  | [], _ => true
  | _ :: _, [] => false
  | first :: rest, other :: others =>
    if first == other then componentsLe rest others else Text.textLe first other

/-- Whether a path comes no later than another. -/
def le (first second : Path) : Bool :=
  componentsLe first.components second.components

/-- The components with each double dot taken together with the one before it. -/
def withoutDoubleDots (parts : List String) : List String :=
  parts.foldl (fun kept part => if part == ".." then kept.dropLast else kept ++ [part]) []

end Path

end HtmlNesting
