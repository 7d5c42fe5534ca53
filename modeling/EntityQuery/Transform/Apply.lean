import EntityQuery.QueryError
import EntityQuery.Value

/-!
# Applying value transforms

A transform leaves null alone and works on the items of a list one by one, so the shape of a value
never changes. Where it does not fit the kind of a value, it fails.
-/

namespace EntityQuery.Transform

/-- The signed integer that a text spells between blanks. -/
def parseInteger? (s : String) : Option Int64 := Numeral.int64? (Unicode.trim s.toList)

/-- The truth value that a text names, whatever its case. -/
def parseBoolean? (s : String) : Option Bool :=
  match Unicode.lowerAscii s with
  | "true" | "t" | "1" => some true
  | "false" | "f" | "0" => some false
  | _ => none

/-- The transform of a value that is neither null nor a list. -/
def applyScalar (t : Transform) (v : Value) : Except ValueFault Value :=
  match t, v with
  | identity, v => .ok v
  | lowercase, .text s => .ok (.text (Unicode.lower s))
  | uppercase, .text s => .ok (.text (Unicode.upper s))
  | text, .text s => .ok (.text s)
  | text, .integer i => .ok (.text (Numeral.ofInt64 i))
  | text, .float d => .ok (.text d.text)
  | text, .bool b => .ok (.text (if b then "true" else "false"))
  | integer, .integer i => .ok (.integer i)
  | integer, .text s =>
    match parseInteger? s with
    | some i => .ok (.integer i)
    | none => .error (.notInteger s)
  | boolean, .bool b => .ok (.bool b)
  | boolean, .integer i =>
    if i = 0 then .ok (.bool false)
    else if i = 1 then .ok (.bool true)
    else .error (.transformMismatch boolean (Value.integer i).kindName)
  | boolean, .text s =>
    match parseBoolean? s with
    | some b => .ok (.bool b)
    | none => .error (.notBoolean s)
  | t, v => .error (.transformMismatch t v.kindName)

mutual

/-- The transform of a value; a list fails with the fault of its first item that fails. -/
def apply (t : Transform) : Value → Except ValueFault Value
  | .null => .ok .null
  | .list items => (applyAll t items).map .list
  | .bool b => applyScalar t (.bool b)
  | .integer i => applyScalar t (.integer i)
  | .float d => applyScalar t (.float d)
  | .text s => applyScalar t (.text s)

/-- The transform of the items of a list. -/
def applyAll (t : Transform) : List Value → Except ValueFault (List Value)
  | [] => .ok []
  | item :: rest => do
    let first ← apply t item
    let others ← applyAll t rest
    .ok (first :: others)

end

@[simp] theorem apply_null (t : Transform) : apply t .null = .ok .null := by
  simp [apply]

@[simp] theorem applyAll_nil (t : Transform) : applyAll t [] = .ok [] := by
  simp [applyAll]

end EntityQuery.Transform
