import EntityQuery.Double
import EntityQuery.Numeral

/-!
# Exchange values

The values of the JSON data format. Objects are lists of fields in the order of the first
appearance of their keys. Integers are kept apart from other numbers as long as they fit sixty-four
bits, signed or unsigned.
-/

namespace EntityQuery

/-- A JSON value. -/
inductive Json where
  | null
  | bool (b : Bool)
  | integer (i : Int)
  | real (d : Double)
  | string (s : String)
  | array (items : List Json)
  | object (fields : List (String × Json))
  deriving Inhabited

namespace Json

/-- Writes a field: an earlier field of the key keeps its place and takes the value. -/
def setField {α : Type} (key : String) (value : α) : List (String × α) → List (String × α)
  | [] => [(key, value)]
  | (k, v) :: rest => if k = key then (k, value) :: rest else (k, v) :: setField key value rest

/-- The fields that result from writing pairs one after the other. -/
def collect {α : Type} (pairs : List (String × α)) : List (String × α) :=
  pairs.foldl (fun fields (k, v) => setField k v fields) []

/-- The value of a key of an object. -/
def field? (key : String) : Json → Option Json
  | object fields => fields.lookup key
  | _ => none

@[simp] theorem setField_nil {α : Type} (key : String) (value : α) :
    setField key value [] = [(key, value)] := rfl

@[simp] theorem collect_nil {α : Type} : collect ([] : List (String × α)) = [] := rfl

end Json

end EntityQuery
