import EntityQuery.Unicode.Blank
import EntityQuery.Unicode.Case

/-!
# Comparison operators

The ten operators of comparisons, their canonical spelling and the spellings they are read from.
-/

namespace EntityQuery

/-- An operator of a comparison. -/
inductive Operator where
  | eq | notEq | lt | ltEq | gt | gtEq | like | notLike | isIn | notIn
  deriving DecidableEq, Repr, Inhabited

namespace Operator

/-- The canonical spelling. -/
def text : Operator → String
  | eq => "="
  | notEq => "<>"
  | lt => "<"
  | ltEq => "<="
  | gt => ">"
  | gtEq => ">="
  | like => "LIKE"
  | notLike => "NOT LIKE"
  | isIn => "IN"
  | notIn => "NOT IN"

/-- Whether the right side is a list. -/
def isMembership : Operator → Bool
  | isIn | notIn => true
  | _ => false

/-- Whether the right side is a pattern. -/
def isPattern : Operator → Bool
  | like | notLike => true
  | _ => false

/-- Whether the operator compares for being equal or not. -/
def isEquality : Operator → Bool
  | eq | notEq => true
  | _ => false

/-- The operator of a spelling in small letters with single spaces between its words. -/
def ofSpelling? : String → Option Operator
  | "=" | "==" | "eq" => some eq
  | "!=" | "<>" | "neq" | "ne" => some notEq
  | "<" | "lt" => some lt
  | "<=" | "lte" => some ltEq
  | ">" | "gt" => some gt
  | ">=" | "gte" => some gtEq
  | "like" => some like
  | "not like" => some notLike
  | "in" => some isIn
  | "not in" => some notIn
  | _ => none

/-- The operator that a text spells, whatever its case and the blanks around its words. -/
def ofText? (s : String) : Option Operator :=
  let words := (Unicode.pieces s.toList).map String.ofList
  ofSpelling? (Unicode.lowerAscii (" ".intercalate words))

end Operator

end EntityQuery
