import EntityQuery.Sql
import EntityQuery.Proofs.Truth
import Mathlib.Data.Finset.Card
import Mathlib.Data.List.Sort

/-!
# The rows of a statement

A statement is evaluated over tables of any finite number of rows. Rows that the filter does not
make true are left out; the others are counted together if a projection is an aggregate, and sorted
and projected one by one otherwise; equal rows are given once where the statement says so, and the
page is cut out last. What a database makes of single values is left open, so what holds here holds
for every order, every comparison and every piece of SQL.
-/

namespace EntityQuery

/-- A row: its columns with their values. -/
abbrev Record (α : Type) : Type := List (String × α)

/-- A row that expressions are evaluated on, under the name that it has there. -/
structure Scope (α : Type) where
  label : String
  record : Record α

/-- A database: its tables, and what it makes of values. Values that it does not tell apart are the
same value. -/
structure Database (α : Type) where
  null : α
  boolean : Bool → α
  /-- A number of rows as a value. -/
  count : Nat → α
  /-- The value of a literal that is neither null nor a truth value. -/
  literal : Sql.Literal → α
  /-- The comparison of values that are not null, by any operator that is no connective. -/
  compare : Sql.BinaryOperator → α → α → Bool
  /-- Whether a value is sorted in front of another one. -/
  sorted : α → α → Bool
  /-- The value of a piece of SQL on a row. -/
  fragment : String → Scope α → α
  /-- The value of an aggregate that is no count, over the values of its arguments row by row. -/
  aggregate : String → Bool → List (List α) → α
  /-- The name of an expression that has not been given one. -/
  label : Sql.Expr → String
  /-- The rows of a table. -/
  table : Option String → String → List (Record α)

namespace Sql

mutual

/-- Whether an expression is made of all rows together. -/
def Expr.isAggregate : Expr → Bool
  | .aggregate _ _ _ => true
  | .binary left _ right => left.isAggregate || right.isAggregate
  | .inList operand items _ => operand.isAggregate || Expr.anyAggregate items
  | .isNull operand _ => operand.isAggregate
  | .nested inner => inner.isAggregate
  | .column _ _ | .literal _ | .wildcard | .raw _ => false

/-- Whether one of some expressions is made of all rows together. -/
def Expr.anyAggregate : List Expr → Bool
  | [] => false
  | e :: rest => e.isAggregate || Expr.anyAggregate rest

end

/-- Whether what is selected is made of all rows together. -/
def Projection.isAggregate : Projection → Bool
  | .expr e _ => e.isAggregate
  | .wildcard | .allOf _ => false

end Sql

namespace Database

variable {α : Type} [DecidableEq α] (d : Database α)

/-! ## Values -/

/-- The value of a column of a row; a column that a row lacks is null there. -/
def column (record : Record α) (name : String) : α := (record.lookup name).getD d.null

/-- The values of several columns of a row. -/
def columns (names : List String) (record : Record α) : List α := names.map (d.column record)

/-- The value that stands for a truth value. -/
def ofTruth : Truth → α
  | some b => d.boolean b
  | none => d.null

/-- The truth value that a value stands for. -/
def truth (v : α) : Truth :=
  if v = d.boolean true then some true else if v = d.boolean false then some false else none

/-- The truth of a comparison; comparing with null is unknown. -/
def comparison (op : Sql.BinaryOperator) (v w : α) : Truth :=
  if v = d.null ∨ w = d.null then none else some (d.compare op v w)

/-- The value of an aggregate. A count is the number of those rows on which no argument is null,
where a distinct one counts equal arguments once. -/
def aggregated (name : String) (distinct : Bool) (arguments : List (List α)) : α :=
  if name = "COUNT" then
    let present := arguments.filter fun vs => d.null ∉ vs
    d.count (if distinct then present.dedup else present).length
  else d.aggregate name distinct arguments

mutual

/-- The value of an expression on a row, where aggregates are made of the given rows. -/
def value (rows : List (Scope α)) (s : Scope α) : Sql.Expr → α
  | .column none name => d.column s.record name
  | .column (some table) name => if table = s.label then d.column s.record name else d.null
  | .literal .null => d.null
  | .literal (.boolean b) => d.boolean b
  | .literal l => d.literal l
  | .binary left .and right =>
    d.ofTruth (Truth.and (d.truth (value rows s left)) (d.truth (value rows s right)))
  | .binary left .or right =>
    d.ofTruth (Truth.or (d.truth (value rows s left)) (d.truth (value rows s right)))
  | .binary left .notLike right =>
    d.ofTruth (Truth.not (d.comparison .like (value rows s left) (value rows s right)))
  | .binary left op right => d.ofTruth (d.comparison op (value rows s left) (value rows s right))
  | .aggregate name arguments distinct =>
    d.aggregated name distinct (rows.map fun s => argumentValues [] s arguments)
  | .inList operand items negated =>
    let v := value rows s operand
    let tests := (values rows s items).map (d.comparison .eq v)
    d.ofTruth (Truth.negatedIf negated (Truth.any tests))
  | .isNull operand negated => d.boolean ((value rows s operand = d.null) != negated)
  | .wildcard => d.null
  | .nested inner => value rows s inner
  | .raw fragment => d.fragment fragment s

/-- The values of expressions on a row. -/
def values (rows : List (Scope α)) (s : Scope α) : List Sql.Expr → List α
  | [] => []
  | e :: rest => value rows s e :: values rows s rest

/-- The values of the arguments of an aggregate on a row, where a wildcard stands for no value. -/
def argumentValues (rows : List (Scope α)) (s : Scope α) : List Sql.Expr → List α
  | [] => []
  | .wildcard :: rest => argumentValues rows s rest
  | e :: rest => value rows s e :: argumentValues rows s rest

end

/-! ## Statements -/

/-- Whether a filter is true on a row. -/
def keeps (filter : Option Sql.Expr) (s : Scope α) : Bool :=
  match filter with
  | some e => d.truth (d.value [] s e) = some true
  | none => true

/-- What is selected of a row. -/
def projected (rows : List (Scope α)) (s : Scope α) : Sql.Projection → Record α
  | .wildcard => s.record
  | .allOf table => if table = s.label then s.record else []
  | .expr e (some label) => [(label, d.value rows s e)]
  | .expr (.column table name) none => [(name, d.value rows s (.column table name))]
  | .expr e none => [(d.label e, d.value rows s e)]

/-- Whether a row does not have to stand behind another one. -/
def precedes (order : List Sql.OrderTerm) (s s' : Scope α) : Bool :=
  match order with
  | [] => true
  | t :: rest =>
    let v := d.value [] s t.expr
    let w := d.value [] s' t.expr
    if v = w then precedes rest s s'
    else if t.ascending = some false then d.sorted w v else d.sorted v w

/-- The page of some rows. -/
def page (limit offset : Option Nat) (records : List (Record α)) : List (Record α) :=
  let rest := records.drop (offset.getD 0)
  match limit with
  | some n => rest.take n
  | none => rest

/-- The rows that a statement makes of those it selects from. Without projections everything is
selected. -/
def selected (scopes : List (Scope α)) (distinct : Bool) (projections : List Sql.Projection)
    (filter : Option Sql.Expr) (order : List Sql.OrderTerm) (limit offset : Option Nat) :
    List (Record α) :=
  let kept := scopes.filter (d.keeps filter)
  let projections := if projections.isEmpty then [.wildcard] else projections
  let records :=
    if projections.any Sql.Projection.isAggregate then
      [projections.flatMap (d.projected kept (kept.headD ⟨"", []⟩))]
    else (kept.insertionSort fun s s' => d.precedes order s s').map fun s =>
      projections.flatMap (d.projected [] s)
  page limit offset (if distinct then records.dedup else records)

mutual

/-- The rows of a statement. Without a table there is one row without columns to select from. -/
def rows : Sql.Select → List (Record α)
  | ⟨distinct, projections, none, filter, order, limit, offset⟩ =>
    d.selected [⟨"", []⟩] distinct projections filter order limit offset
  | ⟨distinct, projections, some source, filter, order, limit, offset⟩ =>
    d.selected (scopes source) distinct projections filter order limit offset

/-- The rows that a statement selects from. -/
def scopes : Sql.Source → List (Scope α)
  | .table schema name label =>
    (d.table schema name).map fun record => ⟨label.getD name, record⟩
  | .derived query label => (rows query).map fun record => ⟨label, record⟩

end

/-- The identities of rows: the different values that they have in some columns. -/
def identities (names : List String) (records : List (Record α)) : Finset (List α) :=
  (records.map (d.columns names)).toFinset

end Database

end EntityQuery
