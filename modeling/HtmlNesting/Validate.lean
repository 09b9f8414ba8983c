import HtmlNesting.Context.Check

/-!
# Validation

Every element of a tree is visited in document order, its context checked and then its content.
The findings are reported by position; findings at one position keep their order.
-/

namespace HtmlNesting

namespace RuleEntry

/-- The findings about where something stands. -/
def checkContext (registry : Registry) (subject : Subject) (entry : RuleEntry) :
    Except RuleFault (List Diagnostic) :=
  ContextRule.checkAll registry subject entry.contexts

/-- The findings about what an element contains. Nothing is in a text. -/
def checkContent (registry : Registry) (subject : Subject) (entry : RuleEntry) :
    Except RuleFault (List Diagnostic) :=
  match entry.content with
  | none => .ok []
  | some model =>
    match subject with
    | .element place => model.check registry place
    | .text _ => .error .notElement

end RuleEntry

namespace Registry

/-- The findings about an element under the rules of its tag. -/
def checkPlace (registry : Registry) (place : Place) : Except RuleFault (List Diagnostic) :=
  let entry := registry.entry place.tag
  match entry.checkContext registry (.element place) with
  | .error fault => .error fault
  | .ok context =>
    match entry.checkContent registry (.element place) with
    | .error fault => .error fault
    | .ok content => .ok (context ++ content)

/-- An element with a content model is checked by it. -/
theorem checkContent_of_content {registry : Registry} {place : Place} {model : ContentModel}
    (inForce : registry.content? place.tag = some model) :
    (registry.entry place.tag).checkContent registry (.element place) =
      model.check registry place := by
  rw [content?] at inForce
  simp only [RuleEntry.checkContent, inForce]

/-- The findings about a tree, ordered by position. -/
def validate (registry : Registry) (tree : Tree) : Except RuleFault (List Diagnostic) :=
  match gather registry.checkPlace tree.visited with
  | .error fault => .error fault
  | .ok findings => .ok (findings.mergeSort Diagnostic.reportedBy)

end Registry

end HtmlNesting
