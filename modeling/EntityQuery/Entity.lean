import EntityQuery.Condition
import EntityQuery.Transform.Apply

/-!
# Entities

An entity is defined by its table, its identifier fields and its fields, each with a column and a
value transform. A catalog holds the definitions; the last one of a name counts. Everything that
reads field names asks the catalog, so no name of a caller becomes a column by itself.
-/

namespace EntityQuery

/-- A field of an entity; its column has the same name unless another one is given. -/
structure FieldDefinition where
  name : String
  column : Option String
  transform : Transform
  deriving DecidableEq, Repr, Inhabited

/-- An entity: its table, the fields that identify it, and its fields. -/
structure EntityDefinition where
  name : String
  table : String
  schema : Option String
  identifier : List String
  fields : List FieldDefinition
  deriving DecidableEq, Repr, Inhabited

/-- A table, possibly in a schema. -/
structure TableName where
  schema : Option String
  name : String
  deriving DecidableEq, Repr

/-- Where a field is stored and how values compared with it are transformed. -/
structure FieldMapping where
  column : String
  transform : Transform
  deriving DecidableEq, Repr

/-- The definitions of entities. -/
structure Catalog where
  entities : List EntityDefinition
  deriving DecidableEq, Repr, Inhabited

namespace FieldMapping

/-- Why a value cannot stand on the right of an operator, if it cannot. -/
def fault? (op : Operator) (value : Value) : Option ValueFault :=
  match value with
  | .list items =>
    if !op.isMembership then some (.listOutsideMembership op)
    else if items.any Value.isNull then some .nullInList
    else none
  | value =>
    if op.isMembership then some (.listExpected op)
    else
      match value with
      | .null => if op.isEquality then none else some (.nullCompared op)
      | .text _ => none
      | _ => if op.isPattern then some .patternExpected else none

/-- The comparison of a field with a value, checked and transformed. The name of the field is used
in errors only. -/
def comparison (mapping : FieldMapping) (field : String) (op : Operator) (value : Value) :
    QueryResult Condition :=
  match fault? op value with
  | some fault => .error (.invalidValue field fault)
  | none =>
    match mapping.transform.apply value with
    | .ok v => .ok (.comparison mapping.column op v)
    | .error fault => .error (.invalidValue field fault)

end FieldMapping

namespace EntityDefinition

/-- The mapping of the first field of a name; an identifier that is no field has a column of its
own name. -/
def mapping? (e : EntityDefinition) (field : String) : Option FieldMapping :=
  match e.fields.find? (·.name == field) with
  | some f => some ⟨f.column.getD f.name, f.transform⟩
  | none => if e.identifier.contains field then some ⟨field, .identity⟩ else none

/-- The table of an entity. -/
def tableName (e : EntityDefinition) : TableName := ⟨e.schema, e.table⟩

end EntityDefinition

namespace Catalog

/-- The definition of a name: the last one given. -/
def find? (c : Catalog) (entity : String) : Option EntityDefinition :=
  c.entities.reverse.find? (·.name == entity)

/-- The identifier fields of an entity. -/
def identifier? (c : Catalog) (entity : String) : Option (List String) :=
  (c.find? entity).map (·.identifier)

/-- Whether an entity is identified by more than one field. -/
def isComposite (c : Catalog) (entity : String) : Bool :=
  match c.identifier? entity with
  | some fields => 1 < fields.length
  | none => false

/-- The mapping of a field of an entity. -/
def mapping? (c : Catalog) (entity field : String) : Option FieldMapping :=
  (c.find? entity).bind (·.mapping? field)

/-- The table of an entity. -/
def table? (c : Catalog) (entity : String) : Option TableName :=
  (c.find? entity).map (·.tableName)

/-- The names of the entities in order, each once. -/
def names (c : Catalog) : List String :=
  ((c.entities.map (·.name)).mergeSort (fun a b => !decide (b < a))).eraseReps

@[simp] theorem find?_nil (entity : String) : (Catalog.mk []).find? entity = none := rfl

/-- A mapping is that of a field of the definition, or an identifier is stored as it is. -/
theorem mapping?_cases {c : Catalog} {e : EntityDefinition} {entity field : String}
    {m : FieldMapping} (defined : c.find? entity = some e)
    (known : c.mapping? entity field = some m) :
    (∃ f ∈ e.fields, f.name = field ∧ m = ⟨f.column.getD f.name, f.transform⟩) ∨
      (field ∈ e.identifier ∧ m = ⟨field, .identity⟩) := by
  rw [mapping?, defined, Option.bind_some, EntityDefinition.mapping?] at known
  split at known
  · next f found =>
      cases known
      exact .inl ⟨f, List.mem_of_find?_eq_some found, by simpa using List.find?_some found, rfl⟩
  · split at known
    · next listed =>
        cases known
        exact .inr ⟨by simpa using listed, rfl⟩
    · cases known

end Catalog

end EntityQuery
