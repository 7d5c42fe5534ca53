import EntityQuery.Unicode.Case

/-!
# Case of result columns

A database may fold the names of result columns to one case. Columns that are named here are folded
in the same way, so that they are found again in the result.
-/

namespace EntityQuery

/-- How names of result columns are folded. -/
inductive ResultCasing where
  | lower | upper | preserve
  deriving DecidableEq, Repr, Inhabited

namespace ResultCasing

/-- A name after folding. -/
def apply : ResultCasing → String → String
  | lower, s => Unicode.lower s
  | upper, s => Unicode.upper s
  | preserve, s => s

/-- The name of a way of folding, in settings. -/
def name : ResultCasing → String
  | lower => "lower"
  | upper => "upper"
  | preserve => "preserve"

/-- The name of a way of folding, in descriptions. -/
def title : ResultCasing → String
  | lower => "Lower"
  | upper => "Upper"
  | preserve => "Preserve"

/-- The way of folding of a name. -/
def ofName? (s : String) : Option ResultCasing := [lower, upper, preserve].find? (·.name == s)

@[simp] theorem apply_preserve (s : String) : preserve.apply s = s := rfl

@[simp] theorem ofName?_name (c : ResultCasing) : ofName? c.name = some c := by
  cases c <;> rfl

end ResultCasing

end EntityQuery
