import EntityQuery.Sql
import EntityQuery.Value

/-!
# The text of SQL statements

Clauses are separated by one blank. Texts are quoted with the quotes inside them doubled; raw
fragments and identifiers are written as they are, and parentheses stand only where an expression
is nested.
-/

namespace EntityQuery.Sql

/-- The text of a literal. -/
def Literal.text : Literal → String
  | .null => "NULL"
  | .boolean b => if b then "TRUE" else "FALSE"
  | .integer i => Numeral.ofInt64 i
  | .float d => d.text
  | .string s => Value.quoteText s

/-- The text of an operator. -/
def BinaryOperator.text : BinaryOperator → String
  | .eq => "="
  | .notEq => "<>"
  | .lt => "<"
  | .ltEq => "<="
  | .gt => ">"
  | .gtEq => ">="
  | .and => "AND"
  | .or => "OR"
  | .like => "LIKE"
  | .notLike => "NOT LIKE"

mutual

/-- The text of an expression. -/
def Expr.text : Expr → String
  | .column none name => name
  | .column (some table) name => table ++ "." ++ name
  | .literal l => l.text
  | .binary left op right => left.text ++ " " ++ op.text ++ " " ++ right.text
  | .aggregate name arguments distinct =>
    name ++ "(" ++ (if distinct then "DISTINCT " else "") ++
      ", ".intercalate (Expr.texts arguments) ++ ")"
  | .inList operand items negated =>
    operand.text ++ (if negated then " NOT IN (" else " IN (") ++
      ", ".intercalate (Expr.texts items) ++ ")"
  | .isNull operand negated => operand.text ++ if negated then " IS NOT NULL" else " IS NULL"
  | .wildcard => "*"
  | .nested inner => "(" ++ inner.text ++ ")"
  | .raw fragment => fragment

/-- The texts of expressions. -/
def Expr.texts : List Expr → List String
  | [] => []
  | e :: rest => e.text :: Expr.texts rest

end

/-- The text of a projection. -/
def Projection.text : Projection → String
  | .wildcard => "*"
  | .allOf table => table ++ ".*"
  | .expr e none => e.text
  | .expr e (some label) => e.text ++ " AS " ++ label

/-- The text of a column to sort by. -/
def OrderTerm.text (t : OrderTerm) : String :=
  match t.ascending with
  | some true => t.expr.text ++ " ASC"
  | some false => t.expr.text ++ " DESC"
  | none => t.expr.text

/-- The text of a table. -/
def tableText (schema : Option String) (name : String) (label : Option String) : String :=
  (match schema with | some s => s ++ "." ++ name | none => name) ++
    match label with | some a => " " ++ a | none => ""

/-- A clause made of a keyword and a text, where there is one. -/
def clause (keyword : String) (body : Option String) : List String :=
  match body with
  | some text => [keyword ++ " " ++ text]
  | none => []

/-- The text of the order, where there is one. -/
def orderText (terms : List OrderTerm) : Option String :=
  if terms.isEmpty then none else some (", ".intercalate (terms.map OrderTerm.text))

/-- The text of the projections; without any, everything is selected. -/
def projectionText (projections : List Projection) : String :=
  if projections.isEmpty then "*" else ", ".intercalate (projections.map Projection.text)

/-- A statement made of the texts of its parts. -/
def assemble (distinct : Bool) (projections : List Projection) (source : Option String)
    (filter : Option Expr) (order : List OrderTerm) (limit offset : Option Nat) : String :=
  " ".intercalate
    (["SELECT " ++ (if distinct then "DISTINCT " else "") ++ projectionText projections] ++
      clause "FROM" source ++ clause "WHERE" (filter.map Expr.text) ++
      clause "ORDER BY" (orderText order) ++ clause "LIMIT" (limit.map toString) ++
      clause "OFFSET" (offset.map toString))

mutual

/-- The text of a statement. -/
def Select.text : Select → String
  | ⟨distinct, projections, none, filter, order, limit, offset⟩ =>
    assemble distinct projections none filter order limit offset
  | ⟨distinct, projections, some source, filter, order, limit, offset⟩ =>
    assemble distinct projections (some source.text) filter order limit offset

/-- The text of what a statement selects from. -/
def Source.text : Source → String
  | .table schema name label => tableText schema name label
  | .derived query label => "(" ++ query.text ++ ") " ++ label

end

@[simp] theorem text_raw (fragment : String) : (Expr.raw fragment).text = fragment := by
  simp [Expr.text]

end EntityQuery.Sql
