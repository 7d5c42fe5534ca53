import EntityQuery.Json.Printer
import EntityQuery.Query

/-!
# Criteria

Criteria are the fields of a JSON object. A scalar is compared for being equal; an object with
exactly an operator and a value is any other comparison. All comparisons hold together. One key is
reserved for query text and is no field.
-/

namespace EntityQuery

/-- Criteria in the order of their keys. -/
abbrev Criteria : Type := List (String × Json)

/-- The key that is reserved for query text unless another one is chosen. -/
def defaultReservedKey : String := "query"

namespace Criteria

/-- The operator and the value that a JSON value compares with. -/
def operand (v : Json) : Except ValueFault (Operator × Value) :=
  match v with
  | .object fields =>
    match fields.lookup "op", fields.lookup "value", fields.length with
    | some op, some value, 2 =>
      let operator? := match op with
        | .string s => Operator.ofText? s
        | _ => none
      match operator? with
      | none => .error (.unknownOperator op.compact)
      | some operator =>
        match Value.ofJson? value with
        | some operand => .ok (operator, operand)
        | none => .error .notScalars
    | _, _, _ => .error .notStructured
  | .array _ => .error .bareArray
  | scalar =>
    match Value.ofScalar? scalar with
    | some operand => .ok (.eq, operand)
    | none => .error .unsupported

/-- What an operand is read from: the value under its key in an object of two fields, or a scalar. -/
theorem operand_cases {j : Json} {op : Operator} {v : Value} (read : operand j = .ok (op, v)) :
    (∃ fields value, j = .object fields ∧ fields.lookup "value" = some value ∧
      Value.ofJson? value = some v) ∨ Value.ofScalar? j = some v := by
  unfold operand at read
  split at read
  · next fields =>
      split at read
      · next spelled value _ compared _ =>
          dsimp only at read
          split at read
          · cases read
          · split at read
            · next scalars =>
                cases read
                exact .inl ⟨fields, value, rfl, compared, scalars⟩
            · cases read
      · cases read
  · cases read
  · split at read
    · next scalar =>
        cases read
        exact .inr scalar
    · cases read

/-- The comparison of one key. The field is resolved before its value is looked at. -/
def comparison (p : Persister) (field : String) (v : Json) : Lookup Condition := do
  let mapping ← p.resolve field
  match operand v with
  | .ok (op, value) => Lookup.ofResult (mapping.comparison field op value)
  | .error fault => throw (.invalidValue field fault)

/-- The condition of criteria: all their comparisons together. -/
def condition (p : Persister) (reservedKey : String) (criteria : Criteria) : Lookup Condition :=
  Condition.conj <$>
    (criteria.filter (·.1 != reservedKey)).mapM fun (field, v) => comparison p field v

/-- The sort order of a request: each field is resolved before its direction is read. -/
def order (p : Persister) (request : SortRequest) : Lookup SortOrder :=
  request.mapM fun (field, direction) => do
    let mapping ← p.resolve field
    let direction ← Lookup.ofResult (Direction.ofText direction)
    pure ⟨mapping.column, direction⟩

/-- The query of criteria with a sort order and a page. -/
def read (p : Persister) (reservedKey : String) (criteria : Criteria) (request : SortRequest)
    (limit offset : Option Nat) : Lookup Query := do
  let condition ← condition p reservedKey criteria
  let order ← order p request
  pure (.ofParts condition order limit offset)

end Criteria

end EntityQuery
