import EntityQuery.Entity
import EntityQuery.Ordering
import EntityQuery.Sql.Printer

/-!
# From conditions to SQL

A condition becomes an expression over the columns of the root table, which has the alias `e`.
Members of a connective are chained from left to right and get parentheses where they are
connectives of several members themselves. Comparing with null becomes a null test, and a
membership test over nothing becomes a truth value.
-/

namespace EntityQuery

/-- The alias of the root table. -/
def rootAlias : String := "e"

/-- A column of the root table. -/
def rootColumn (column : String) : Sql.Expr := .column (some rootAlias) column

/-- The operator of SQL for a comparison that is no membership test. -/
def Operator.binary? : Operator → Option Sql.BinaryOperator
  | eq => some .eq
  | notEq => some .notEq
  | lt => some .lt
  | ltEq => some .ltEq
  | gt => some .gt
  | gtEq => some .gtEq
  | like => some .like
  | notLike => some .notLike
  | isIn | notIn => none

namespace Lowering

/-- The literal of a value that is no list. -/
def literal? : Value → Option Sql.Literal
  | .null => some .null
  | .bool b => some (.boolean b)
  | .integer i => some (.integer i)
  | .float d => some (.float d)
  | .text s => some (.string s)
  | .list _ => none

/-- The literal of a value compared with a column. -/
def literal (column : String) (v : Value) : QueryResult Sql.Expr :=
  match literal? v with
  | some l => .ok (.literal l)
  | none => .error (.invalidValue column .nestedList)

/-- The expression of a comparison. -/
def comparison (column : String) (op : Operator) (value : Value) : QueryResult Sql.Expr :=
  let target := rootColumn column
  match op, value with
  | .eq, .null => .ok (.isNull target false)
  | .notEq, .null => .ok (.isNull target true)
  | op, value =>
    match op.binary?, value with
    | none, .list [] => .ok (.literal (.boolean (op == .notIn)))
    | none, .list items => do
      let literals ← items.mapM (literal column)
      .ok (.inList target literals (op == .notIn))
    | none, _ => .error (.invalidValue column (.listExpected op))
    | some b, value => do
      let right ← literal column value
      .ok (.binary target b right)

/-- A member of a connective: in parentheses if it is a connective of several members. -/
def member (c : Condition) (e : Sql.Expr) : Sql.Expr :=
  match c with
  | .all (_ :: _ :: _) | .any (_ :: _ :: _) => .nested e
  | _ => e

/-- Expressions chained from left to right; none of them are the given truth value. -/
def chain (op : Sql.BinaryOperator) (empty : Bool) : List Sql.Expr → Sql.Expr
  | [] => .literal (.boolean empty)
  | e :: rest => rest.foldl (fun left right => .binary left op right) e

mutual

/-- The expression of a condition. -/
def expr : Condition → QueryResult Sql.Expr
  | .comparison column op value => comparison column op value
  | .all members => do
    let es ← memberExprs members
    .ok (chain .and true es)
  | .any members => do
    let es ← memberExprs members
    .ok (chain .or false es)
  | .raw fragment => .ok (.nested (.raw fragment))

/-- The expressions of the members of a connective; the first one that fails decides the error. -/
def memberExprs : List Condition → QueryResult (List Sql.Expr)
  | [] => .ok []
  | c :: rest => do
    let e ← expr c
    let es ← memberExprs rest
    .ok (member c e :: es)

end

/-- The filter of a condition: none for the condition that always holds. -/
def filter (c : Condition) : QueryResult (Option Sql.Expr) :=
  if c.isTrivial then .ok none else (expr c).map some

/-- The terms of an order. -/
def order (keys : SortOrder) : List Sql.OrderTerm :=
  keys.map fun key => ⟨rootColumn key.column, some (key.direction == .asc)⟩

@[simp] theorem filter_always : filter Condition.always = .ok none := rfl

@[simp] theorem order_nil : order [] = [] := rfl

end Lowering

end EntityQuery
