/-!
# Value transforms

How the values compared with a field are brought into the form of its column.
-/

namespace EntityQuery

/-- A transform of the values of a field. -/
inductive Transform where
  | identity | lowercase | uppercase | text | integer | boolean
  deriving DecidableEq, Repr, Inhabited

namespace Transform

/-- The name in entity definitions. -/
def name : Transform → String
  | identity => "identity"
  | lowercase => "lowercase"
  | uppercase => "uppercase"
  | text => "text"
  | integer => "integer"
  | boolean => "boolean"

/-- The name in messages. -/
def title : Transform → String
  | identity => "Identity"
  | lowercase => "Lowercase"
  | uppercase => "Uppercase"
  | text => "Text"
  | integer => "Integer"
  | boolean => "Boolean"

/-- Every transform. -/
def all : List Transform := [identity, lowercase, uppercase, text, integer, boolean]

/-- The transform of a name. -/
def ofName? (s : String) : Option Transform := all.find? (·.name == s)

@[simp] theorem ofName?_name (t : Transform) : ofName? t.name = some t := by
  cases t <;> rfl

end Transform

end EntityQuery
