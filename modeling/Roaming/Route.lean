import Roaming.Text.Blank

/-!
# The default gateway in a route table

A default route is a line whose first word is `default`. Its gateway is the word after the first
`via` that follows; a default route without one (a tunnel, say) is passed over for the next.
-/

namespace Roaming.Route

open Text

/-- The gateway in the words of one route. -/
def ofWords? : List (List Char) → Option (List Char)
  | first :: rest =>
    if first = "default".toList then (rest.dropWhile (· != "via".toList))[1]? else none
  | [] => none

/-- The gateway of the first default route that has one. -/
def gateway? (table : String) : Option String :=
  ((lines table.toList).findSome? fun line => ofWords? (words line)).map String.ofList

end Roaming.Route
