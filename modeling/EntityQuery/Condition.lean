import EntityQuery.Operator
import EntityQuery.Value

/-!
# Conditions

A condition is a tree of comparisons of columns with values under conjunctions and disjunctions of
any number of members. `Condition.conj` and `Condition.disj` build flat trees: members of the same
connective are taken over, and a single member stands for itself. The conjunction of nothing is the
condition that always holds.
-/

namespace EntityQuery

/-- A condition on the columns of an entity's table. -/
inductive Condition where
  | comparison (column : String) (op : Operator) (value : Value)
  | all (members : List Condition)
  | any (members : List Condition)
  /-- A piece of SQL, taken as it is. -/
  | raw (fragment : String)
  deriving Inhabited

namespace Condition

/-- The condition that always holds. -/
def always : Condition := all []

/-- Whether a condition is the conjunction of nothing. -/
def isTrivial : Condition → Bool
  | all [] => true
  | _ => false

/-- The members that a condition contributes to a conjunction. -/
def conjuncts : Condition → List Condition
  | all members => members
  | c => [c]

/-- The members that a condition contributes to a disjunction. -/
def disjuncts : Condition → List Condition
  | any members => members
  | c => [c]

/-- The flat conjunction. -/
def conj (members : List Condition) : Condition :=
  match members.flatMap conjuncts with
  | [c] => c
  | flat => all flat

/-- The flat disjunction. -/
def disj (members : List Condition) : Condition :=
  match members.flatMap disjuncts with
  | [c] => c
  | flat => any flat

mutual

/-- The comparisons of a condition from left to right. -/
def comparisons : Condition → List (String × Operator × Value)
  | comparison column op value => [(column, op, value)]
  | all members => allComparisons members
  | any members => allComparisons members
  | raw _ => []

/-- The comparisons of conditions from left to right. -/
def allComparisons : List Condition → List (String × Operator × Value)
  | [] => []
  | c :: rest => comparisons c ++ allComparisons rest

end

mutual

/-- A condition in the notation of query text. -/
def display : Condition → String
  | comparison column op value => column ++ " " ++ op.text ++ " " ++ value.display
  | all [] => "TRUE"
  | any [] => "FALSE"
  | all (c :: rest) => "(" ++ " AND ".intercalate (displayAll (c :: rest)) ++ ")"
  | any (c :: rest) => "(" ++ " OR ".intercalate (displayAll (c :: rest)) ++ ")"
  | raw fragment => "(" ++ fragment ++ ")"

/-- Conditions in the notation of query text. -/
def displayAll : List Condition → List String
  | [] => []
  | c :: rest => display c :: displayAll rest

end

mutual

/-- Equality of conditions, with floats compared as numbers. -/
def numericEq : Condition → Condition → Bool
  | comparison c op v, comparison d op' w => c == d && op == op' && v.numericEq w
  | all cs, all ds => allNumericEq cs ds
  | any cs, any ds => allNumericEq cs ds
  | raw f, raw g => f == g
  | _, _ => false

/-- Equality of lists of conditions, member by member. -/
def allNumericEq : List Condition → List Condition → Bool
  | [], [] => true
  | c :: cs, d :: ds => numericEq c d && allNumericEq cs ds
  | _, _ => false

end

@[simp] theorem conj_nil : conj [] = always := rfl

@[simp] theorem conjuncts_always : conjuncts always = [] := rfl

@[simp] theorem isTrivial_always : isTrivial always = true := rfl

theorem isTrivial_iff {c : Condition} : c.isTrivial = true ↔ c = always := by
  constructor
  · intro h
    match c, h with
    | all [], _ => rfl
  · rintro rfl
    rfl

end Condition

end EntityQuery
