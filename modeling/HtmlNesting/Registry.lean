import HtmlNesting.Content.Model
import HtmlNesting.Context.Rule

/-!
# The registry of rules

Rules come in sets, each a list of entries for element names. `Registry.discover` goes through the
sets in order and keeps the first entry for every tag. An entry for a name without a tag, and a
second entry for a tag, are passed over with a notice. Every tag without an entry has a permissive
one, so looking up a tag never fails. A `Catalog` is filled in this way once and only read
afterwards.
-/

namespace HtmlNesting

/-- The rules for an element. No content model means that any children will do, which is not the
same as a model that accepts none. -/
structure RuleEntry where
  name : String
  contexts : List ContextRule := []
  content : Option ContentModel := none

namespace RuleEntry

/-- The tag of the entry's name. -/
def tag (entry : RuleEntry) : Tag :=
  Tag.ofName entry.name

/-- The codes the entry's rules may report. -/
def codes (entry : RuleEntry) : List Code :=
  entry.contexts.flatMap ContextRule.codes ++
    match entry.content with
    | none => []
    | some model => model.codes

/-- The names of the codes in alphabetical order. -/
def codeNames (entry : RuleEntry) : List String :=
  Text.sortedTexts (entry.codes.map Code.name)

/-- An entry under the name of a tag. -/
def of (tag : Tag) (contexts : List ContextRule) (content : Option ContentModel) : RuleEntry :=
  { name := tag.name, contexts, content }

/-- The entry of a tag that has no rules. -/
def permissive (tag : Tag) : RuleEntry :=
  .of tag [] none

end RuleEntry

/-- A named list of definitions. A definition may be something other than an entry, which is
passed over in silence. -/
structure RuleSet where
  name : String
  definitions : List (Option RuleEntry)

namespace RuleSet

/-- The name of a rule set in notices. -/
def fullName (ruleSet : RuleSet) : String :=
  "nestlint.dom.elements." ++ ruleSet.name

/-- The entries of a rule set. -/
def entries (ruleSet : RuleSet) : List RuleEntry :=
  ruleSet.definitions.filterMap id

/-- Rule sets in alphabetical order of their names. -/
def inNameOrder (ruleSets : List RuleSet) : List RuleSet :=
  ruleSets.mergeSort fun first second => Text.textLe first.name second.name

/-- Rule sets with some further ones. A further set takes the place of one of the same name; the
others follow in alphabetical order. -/
def extend (ruleSets further : List RuleSet) : List RuleSet :=
  let replaced (ruleSet : RuleSet) : RuleSet :=
    (further.find? fun other => other.name == ruleSet.name).getD ruleSet
  let isNew (other : RuleSet) : Bool := !ruleSets.any fun ruleSet => ruleSet.name == other.name
  ruleSets.map replaced ++ inNameOrder (further.filter isNew)

end RuleSet

/-- Why an entry of a rule set was passed over. -/
inductive Notice where
  | unsupported (name ruleSet : String)
  | duplicate (name ruleSet : String)
  deriving DecidableEq, Repr

/-- The words of a notice. -/
def Notice.message : Notice → String
  | unsupported name ruleSet =>
    "Skipping rule for unsupported tag '" ++ name ++ "' in " ++ ruleSet
  | duplicate name ruleSet =>
    "Duplicate rule for <" ++ name ++ "> in " ++ ruleSet ++ ", keeping the first one"

/-- The entries in force, one for each tag that has rules. -/
structure Registry where
  entries : Dictionary Tag RuleEntry

/-- A registry together with the codes of its rules and the notices given while it was filled. -/
structure Discovery where
  registry : Registry := { entries := [] }
  /-- The names of the codes as they were met. -/
  codes : List String := []
  notices : List Notice := []

namespace Registry

/-- The entry of a tag. -/
def entry (registry : Registry) (tag : Tag) : RuleEntry :=
  (Dictionary.get? registry.entries tag).getD (.permissive tag)

/-- The content model of a tag, if its children are constrained. -/
def content? (registry : Registry) (tag : Tag) : Option ContentModel :=
  (registry.entry tag).content

/-- The names of all codes that the registered rules may report, in alphabetical order. -/
def codeNames (registry : Registry) : List String :=
  Text.sortedTexts (registry.entries.flatMap fun entry => entry.2.codes.map Code.name)

end Registry

namespace Discovery

/-- Registers an entry of a rule set, or passes it over with a notice. -/
def register (ruleSet : RuleSet) (discovery : Discovery) (entry : RuleEntry) : Discovery :=
  if entry.tag = .unknown then
    { discovery with
      notices := discovery.notices ++ [.unsupported entry.name ruleSet.fullName] }
  else if Dictionary.has discovery.registry.entries entry.tag then
    { discovery with
      notices := discovery.notices ++ [.duplicate entry.name ruleSet.fullName] }
  else
    { discovery with
      registry := { entries := discovery.registry.entries ++ [(entry.tag, entry)] }
      codes := discovery.codes ++ entry.codeNames }

/-- Registers all entries of a rule set in order. -/
def registerAll (discovery : Discovery) (ruleSet : RuleSet) : Discovery :=
  ruleSet.entries.foldl (register ruleSet) discovery

end Discovery

/-- Fills a registry from rule sets in order. -/
def Registry.discover (ruleSets : List RuleSet) : Discovery :=
  ruleSets.foldl Discovery.registerAll {}

/-- The rules in use, which are discovered once. -/
structure Catalog where
  discovery : Discovery := {}
  loaded : Bool := false

namespace Catalog

/-- The catalog before any discovery. -/
def empty : Catalog := {}

/-- Fills the catalog from rule sets in order, unless it has been filled before. -/
def discover (ruleSets : List RuleSet) (catalog : Catalog) : Catalog :=
  if catalog.loaded then catalog
  else { discovery := Registry.discover ruleSets, loaded := true }

/-- The entry of a tag. -/
def entry (catalog : Catalog) (tag : Tag) : RuleEntry :=
  catalog.discovery.registry.entry tag

/-- The names of all codes met during the discovery, in alphabetical order. -/
def codeNames (catalog : Catalog) : List String :=
  Text.sortedTexts catalog.discovery.codes

/-- What was passed over during the discovery. -/
def notices (catalog : Catalog) : List Notice :=
  catalog.discovery.notices

end Catalog

end HtmlNesting
