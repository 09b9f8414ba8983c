import HtmlNesting.Json.Value

/-!
# Merging settings

Settings from a file go over the ones in force. Where both have a dictionary the two are merged;
everywhere else the newer value replaces the older. A key that both have keeps its place.
-/

namespace HtmlNesting.Json

mutual

/-- The newer value where an older one stands, if any: two dictionaries are merged, and else the
newer one is taken. -/
def laidOver (newer : Json) (older : Option Json) : Json :=
  match newer with
  | dictionary entries =>
    match older with
    | some (dictionary present) => dictionary (mergeEntries present entries)
    | _ => dictionary entries
  | other => other

/-- The entries of an older dictionary with those of a newer one over them, in order. -/
def mergeEntries (older : List (Scalar × Json)) (newer : List (Scalar × Json)) :
    List (Scalar × Json) :=
  match newer with
  | [] => older
  | (key, value) :: rest =>
    mergeEntries (Dictionary.set key (value.laidOver (Dictionary.get? older key)) older) rest

end

end HtmlNesting.Json
