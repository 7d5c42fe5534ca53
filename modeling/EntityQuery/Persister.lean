import EntityQuery.FieldCache
import EntityQuery.Lowering
import EntityQuery.ResultCasing

/-!
# Persisters

A persister reads and writes queries of one entity. What it is does not change: its handle tells it
apart from every other persister, and the catalog, the entity and the case of result columns decide
its answers. What it remembers, mappings of fields and the identity of the entity, is kept beside
it as a `Memo` that its operations pass on, also when they fail.
-/

namespace EntityQuery

/-- A persister of one entity. Two persisters are the same one if they have the same handle. -/
structure Persister where
  handle : Nat
  catalog : Catalog
  entity : String
  casing : ResultCasing
  deriving Repr, Inhabited

/-- The columns that identify a row: one, or several together. -/
inductive Identity where
  | single (column : String)
  | composite (columns : List String)
  deriving DecidableEq, Repr

namespace Identity

/-- The identity made of the given columns. -/
def ofColumns : List String → Identity
  | [column] => single column
  | columns => composite columns

/-- The columns of an identity. -/
def columns : Identity → List String
  | single column => [column]
  | composite columns => columns

/-- Whether an identity has several columns. -/
def isComposite : Identity → Bool
  | single _ => false
  | composite _ => true

@[simp] theorem columns_ofColumns (columns : List String) :
    (ofColumns columns).columns = columns := by
  match columns with
  | [] => rfl
  | [_] => rfl
  | _ :: _ :: _ => rfl

end Identity

/-- What a persister remembers. -/
structure Memo where
  fields : FieldCache := {}
  identity : Option Identity := none
  deriving Repr, Inhabited

/-- An operation that may look at and extend what a persister remembers. -/
abbrev Lookup (α : Type) : Type := ExceptT QueryError (StateM Memo) α

namespace Lookup

/-- An operation that looks at nothing. -/
def ofResult {α : Type} (r : QueryResult α) : Lookup α := fun memo => (r, memo)

/-- An operation as a function of what is remembered. -/
def perform {α : Type} (l : Lookup α) (memo : Memo) : QueryResult α × Memo := l memo

end Lookup

/-- The parts of a query that decide its statement. -/
structure Clauses where
  condition : Option Condition := none
  order : Option SortOrder := none
  limit : Option Nat := none
  offset : Option Nat := none
  deriving Inhabited

namespace Clauses

/-- The clauses of a query that has been read. -/
def ofParts (condition : Condition) (order : SortOrder) (limit offset : Option Nat) : Clauses :=
  ⟨some condition, some order, limit, offset⟩

/-- The filter that the condition is lowered to. -/
def filter (c : Clauses) : QueryResult (Option Sql.Expr) :=
  match c.condition with
  | some condition => Lowering.filter condition
  | none => .ok none

end Clauses

namespace Persister

/-- The mapping of a field. -/
def resolve (p : Persister) (field : String) : Lookup FieldMapping := fun memo =>
  let (result, fields) := memo.fields.resolve p.catalog p.entity field
  (result, { memo with fields })

/-- The column of an identifier field. Whatever goes wrong, the entity has no usable identity. -/
def identityColumn (p : Persister) (field : String) : Lookup String :=
  ExceptT.adapt (fun _ => .unsupportedEntity p.entity) ((·.column) <$> p.resolve field)

/-- The identity of the entity, decided at the first request that succeeds. -/
def identity (p : Persister) : Lookup Identity := do
  match (← get).identity with
  | some identity => pure identity
  | none =>
    match p.catalog.identifier? p.entity with
    | none | some [] => throw (.unsupportedEntity p.entity)
    | some fields =>
      let columns ← fields.mapM p.identityColumn
      let identity := Identity.ofColumns columns
      modify fun memo => { memo with identity := some identity }
      pure identity

/-- The root table of the entity's statements. -/
def rootTable (p : Persister) : QueryResult Sql.Source :=
  match p.catalog.table? p.entity with
  | some table => .ok (.table table.schema table.name (some rootAlias))
  | none => .error (.unsupportedEntity p.entity)

/-- The statement of some clauses: everything of the root table, filtered, ordered and paged. -/
def select (p : Persister) (c : Clauses) : QueryResult Sql.Select := do
  let filter ← c.filter
  let table ← p.rootTable
  .ok ⟨false, [.allOf rootAlias], some table, filter, Lowering.order (c.order.getD []), c.limit,
    c.offset⟩

@[simp] theorem resolve_perform (p : Persister) (field : String) (memo : Memo) :
    (p.resolve field).perform memo =
      ((memo.fields.resolve p.catalog p.entity field).1,
        { memo with fields := (memo.fields.resolve p.catalog p.entity field).2 }) := rfl

end Persister

end EntityQuery
