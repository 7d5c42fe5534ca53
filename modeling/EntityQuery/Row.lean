import EntityQuery.Value

/-!
# Rows

A row is a list of cells in the order of the result's columns. Reading a column gives its first
cell.
-/

namespace EntityQuery

/-- A row of a result. -/
structure Row where
  cells : List (String × Value)
  deriving Inhabited

namespace Row

/-- The row with one more cell at its end. -/
def push (r : Row) (column : String) (value : Value) : Row := ⟨r.cells ++ [(column, value)]⟩

/-- The names of the columns. -/
def columns (r : Row) : List String := r.cells.map (·.1)

/-- The first cell of a column. -/
def get? (r : Row) (column : String) : Option Value := r.cells.lookup column

/-- The row as a JSON object. -/
def toJson (r : Row) : Json :=
  .object (Json.collect (r.cells.map fun (column, value) => (column, value.toJson)))

@[simp] theorem columns_push (r : Row) (column : String) (value : Value) :
    (r.push column value).columns = r.columns ++ [column] := by
  simp [push, columns]

end Row

end EntityQuery
