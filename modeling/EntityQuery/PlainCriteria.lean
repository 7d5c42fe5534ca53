import EntityQuery.Composer

/-!
# Plain criteria

Without a parser, criteria are turned into a statement directly: every key is compared for being
equal with its value, or with one of its values, as they are. Fields still have to be fields of the
entity, and the key that is reserved for query text is refused.
-/

namespace EntityQuery

namespace PlainCriteria

/-- The literal of a value; what has no literal is null. -/
def literal (v : Value) : Sql.Expr := .literal ((Lowering.literal? v).getD .null)

/-- The comparison of a column with a value. -/
def comparison (column : String) : Value → Sql.Expr
  | .null => .isNull (rootColumn column) false
  | .list [] => .literal (.boolean false)
  | .list (item :: rest) => .inList (rootColumn column) ((item :: rest).map literal) false
  | scalar => .binary (rootColumn column) .eq (literal scalar)

/-- The comparison of a key with its value. -/
def entry (p : Persister) (field : String) (v : Json) : Lookup Sql.Expr := do
  let mapping ← p.resolve field
  match Value.ofJson? v with
  | some value => pure (comparison mapping.column value)
  | none => throw (.invalidValue field .unsupported)

/-- Comparisons chained from left to right, if there is one. -/
def filter : List Sql.Expr → Option Sql.Expr
  | [] => none
  | e :: rest => some (Lowering.chain .and true (e :: rest))

/-- The statement of plain criteria. -/
def select (p : Persister) (criteria : Criteria) (request : SortRequest)
    (limit offset : Option Nat) : Lookup NativeQuery := do
  if (criteria.lookup defaultReservedKey).isSome then
    throw (.misconfigured (.baseQueryKey defaultReservedKey))
  let entries ← criteria.mapM fun (field, v) => entry p field v
  let order ← Criteria.order p request
  let table ← Lookup.ofResult p.rootTable
  pure
    { select :=
        ⟨false, [.allOf rootAlias], some table, filter entries, Lowering.order order, limit,
          offset⟩ }

end PlainCriteria

end EntityQuery
