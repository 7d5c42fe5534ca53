import EntityQuery.QueryError

/-!
# Sort order

A sort order is a list of columns with a direction each. What a caller asks for is a list of field
names with a direction in words; names are resolved elsewhere, directions are read here.
-/

namespace EntityQuery

/-- A direction of sorting. -/
inductive Direction where
  | asc | desc
  deriving DecidableEq, Repr, Inhabited

namespace Direction

/-- The short name of a direction. -/
def text : Direction → String
  | asc => "asc"
  | desc => "desc"

/-- The direction that a text names, whatever its case and the blanks around it. -/
def ofText (s : String) : QueryResult Direction :=
  match Unicode.lowerAscii (Unicode.trimText s) with
  | "asc" | "ascending" => .ok asc
  | "desc" | "descending" => .ok desc
  | other => .error (.invalidValue "order" (.unknownDirection other))

end Direction

/-- A column to sort by. -/
structure SortKey where
  column : String
  direction : Direction
  deriving DecidableEq, Repr

/-- Columns to sort by, the most significant one first. -/
abbrev SortOrder : Type := List SortKey

/-- Fields to sort by with their directions in words, as a caller gives them. -/
abbrev SortRequest : Type := List (String × String)

end EntityQuery
