import EntityQuery.Double

/-!
# SQL statements

The SELECT statements that queries are turned into: one table or one derived table, a filter, an
order and a page. Identifiers are written as they are given; the catalog is where they come from.
-/

namespace EntityQuery.Sql

/-- A literal. -/
inductive Literal where
  | null
  | boolean (b : Bool)
  | integer (i : Int64)
  | float (d : Double)
  | string (s : String)
  deriving DecidableEq, Repr, Inhabited

/-- An operator between two expressions. -/
inductive BinaryOperator where
  | eq | notEq | lt | ltEq | gt | gtEq | and | or | like | notLike
  deriving DecidableEq, Repr

/-- An expression. -/
inductive Expr where
  | column (table : Option String) (name : String)
  | literal (l : Literal)
  | binary (left : Expr) (op : BinaryOperator) (right : Expr)
  | aggregate (name : String) (arguments : List Expr) (distinct : Bool)
  | inList (operand : Expr) (items : List Expr) (negated : Bool)
  | isNull (operand : Expr) (negated : Bool)
  | wildcard
  | nested (inner : Expr)
  /-- A piece of SQL, taken as it is. -/
  | raw (fragment : String)
  deriving Inhabited

/-- What a statement selects. -/
inductive Projection where
  | wildcard
  | allOf (table : String)
  | expr (e : Expr) (label : Option String)
  deriving Inhabited

/-- A column to sort by, possibly with a direction. -/
structure OrderTerm where
  expr : Expr
  ascending : Option Bool
  deriving Inhabited

mutual

/-- A SELECT statement. -/
inductive Select where
  | mk (distinct : Bool) (projections : List Projection) (source : Option Source)
    (filter : Option Expr) (order : List OrderTerm) (limit offset : Option Nat)

/-- What a statement selects from. -/
inductive Source where
  | table (schema : Option String) (name : String) (label : Option String)
  | derived (query : Select) (label : String)

end

namespace Select

instance : Inhabited Select := ⟨⟨false, [], none, none, [], none, none⟩⟩

/-- Whether equal rows are given once. -/
def distinct : Select → Bool | ⟨d, _, _, _, _, _, _⟩ => d

/-- What is selected. -/
def projections : Select → List Projection | ⟨_, p, _, _, _, _, _⟩ => p

/-- Where it is selected from. -/
def source : Select → Option Source | ⟨_, _, s, _, _, _, _⟩ => s

/-- The filter. -/
def filter : Select → Option Expr | ⟨_, _, _, f, _, _, _⟩ => f

/-- The order. -/
def order : Select → List OrderTerm | ⟨_, _, _, _, o, _, _⟩ => o

/-- The greatest number of rows. -/
def limit : Select → Option Nat | ⟨_, _, _, _, _, l, _⟩ => l

/-- The number of rows left out in front. -/
def offset : Select → Option Nat | ⟨_, _, _, _, _, _, o⟩ => o

/-- The statement with another page. -/
def paginated (limit offset : Option Nat) : Select → Select
  | ⟨d, p, s, f, o, _, _⟩ => ⟨d, p, s, f, o, limit, offset⟩

@[simp] theorem limit_paginated (s : Select) (l o : Option Nat) :
    (s.paginated l o).limit = l := by
  cases s; rfl

@[simp] theorem offset_paginated (s : Select) (l o : Option Nat) :
    (s.paginated l o).offset = o := by
  cases s; rfl

end Select

end EntityQuery.Sql
