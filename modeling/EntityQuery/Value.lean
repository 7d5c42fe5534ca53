import EntityQuery.Json
import EntityQuery.Double.Shortest

/-!
# Values

The operands of comparisons and the cells of rows. A list stands on the right of a membership test
only; the types do not exclude a list inside a list, and the operations say what happens to it.
-/

namespace EntityQuery

/-- An operand or a cell. -/
inductive Value where
  | null
  | bool (b : Bool)
  | integer (i : Int64)
  | float (d : Double)
  | text (s : String)
  | list (items : List Value)
  deriving Inhabited

namespace Value

/-- Whether a value is the null value. -/
def isNull : Value → Bool
  | null => true
  | _ => false

/-- Whether a value is a list. -/
def isList : Value → Bool
  | list _ => true
  | _ => false

/-- The name of the kind of a value, as messages use it. -/
def kindName : Value → String
  | null => "null"
  | bool _ => "boolean"
  | integer _ => "integer"
  | float _ => "float"
  | text _ => "text"
  | list _ => "list"

/-- The value of a number: an integer where sixty-four signed bits hold it. -/
def ofInt (i : Int) : Value :=
  match Numeral.fit? i with
  | some n => integer n
  | none => float (.ofInt i)

/-- The value of a JSON scalar. -/
def ofScalar? : Json → Option Value
  | .null => some null
  | .bool b => some (bool b)
  | .integer i => some (ofInt i)
  | .real d => some (float d)
  | .string s => some (text s)
  | .array _ | .object _ => none

/-- The value of a JSON scalar or of an array of scalars. -/
def ofJson? : Json → Option Value
  | .array items => (items.mapM ofScalar?).map list
  | scalar => ofScalar? scalar

mutual

/-- The JSON form of a value; a float that is no number becomes null. -/
def toJson : Value → Json
  | null => .null
  | bool b => .bool b
  | integer i => .integer i.toInt
  | float d => if d.isFinite then .real d else .null
  | text s => .string s
  | list items => .array (listToJson items)

/-- The JSON forms of the items of a list. -/
def listToJson : List Value → List Json
  | [] => []
  | item :: rest => toJson item :: listToJson rest

end

/-- A text as a quoted literal: a quote inside it is written twice. -/
def quoteText (s : String) : String :=
  String.ofList ('\'' :: (s.toList.flatMap fun c => if c = '\'' then ['\'', '\''] else [c]) ++
    ['\''])

mutual

/-- A value in the notation of query text. -/
def display : Value → String
  | null => "NULL"
  | bool b => if b then "TRUE" else "FALSE"
  | integer i => Numeral.ofInt64 i
  | float d => d.text
  | text s => quoteText s
  | list items => "(" ++ ", ".intercalate (displayAll items) ++ ")"

/-- The items of a list in the notation of query text. -/
def displayAll : List Value → List String
  | [] => []
  | item :: rest => display item :: displayAll rest

end

mutual

/-- Equality of values, with floats compared as numbers. -/
def numericEq : Value → Value → Bool
  | null, null => true
  | bool a, bool b => a == b
  | integer a, integer b => a == b
  | float a, float b => a.numericEq b
  | text a, text b => a == b
  | list as, list bs => allNumericEq as bs
  | _, _ => false

/-- Equality of lists of values, item by item. -/
def allNumericEq : List Value → List Value → Bool
  | [], [] => true
  | a :: as, b :: bs => numericEq a b && allNumericEq as bs
  | _, _ => false

end

@[simp] theorem isNull_null : isNull null = true := rfl

@[simp] theorem ofJson?_array (items : List Json) :
    ofJson? (.array items) = (items.mapM ofScalar?).map list := rfl

@[simp] theorem ofScalar?_array (items : List Json) : ofScalar? (.array items) = none := rfl

end Value

end EntityQuery
