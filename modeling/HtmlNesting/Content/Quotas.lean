import HtmlNesting.Dictionary
import HtmlNesting.Tag

/-!
# Quotas

How often children with a tag may occur, for some tags. Each tag has one quota at most.
-/

namespace HtmlNesting

/-- Upper bounds on the number of children with a tag, in a fixed order. -/
structure Quotas where
  entries : Dictionary Tag Int
  distinct : (Dictionary.keys entries).Nodup

namespace Quotas

/-- The quotas of a list of pairs; of two for one tag the last counts, in the place of the first. -/
def ofList (pairs : List (Tag × Int)) : Quotas where
  entries := Dictionary.ofList pairs
  distinct := Dictionary.nodup_keys_ofList pairs

/-- No bounds at all. -/
def unbounded : Quotas where
  entries := []
  distinct := by simp [Dictionary.keys]

/-- The bound for a tag. -/
def get? (quotas : Quotas) (tag : Tag) : Option Int :=
  Dictionary.get? quotas.entries tag

end Quotas

end HtmlNesting
