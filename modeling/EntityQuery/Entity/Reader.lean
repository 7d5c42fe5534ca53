import EntityQuery.Entity

/-!
# Reading entity definitions

Definitions are given as data: objects with a key for each part, or lists of the parts in order.
Keys that mean nothing are ignored, a part that may be left out has a default, and a part of another
kind makes the whole definition invalid.

Data comes from JSON or from a settings file, which differ in two ways: a list of parts in a
settings file may go on behind the last part, and a name that is picked from several ones may be the
key of an object whose value holds nothing, which is null in JSON.
-/

namespace EntityQuery

/-- Where data comes from. -/
inductive DataSource where
  | json | settingsFile
  deriving DecidableEq, Repr

namespace Json

/-- The text that a value is. -/
def asText? : Json → Option String
  | string s => some s
  | _ => none

/-- The text of a key that may be left out or null. -/
def optionalText? (key : String) (v : Json) : Option (Option String) :=
  match v.field? key with
  | none | some .null => some none
  | some value => value.asText?.map some

/-- The text of a key. -/
def text? (key : String) (v : Json) : Option String := (v.field? key).bind asText?

/-- The items of a list, each read in the same way. -/
def asList? {α : Type} (item? : Json → Option α) : Json → Option (List α)
  | array items => items.mapM item?
  | _ => none

/-- What a key holds; the default if it is left out. -/
def readOr? {α : Type} (key : String) (default : α) (read? : Json → Option α) (v : Json) :
    Option α :=
  match v.field? key with
  | none => some default
  | some value => read? value

/-- An object as it is; a list of values as an object with the given keys in order. -/
def withKeys? (source : DataSource) (keys : List String) : Json → Option Json
  | object fields => some (object fields)
  | array items =>
    if source = .settingsFile ∨ items.length ≤ keys.length then some (object (keys.zip items))
    else none
  | _ => none

/-- Whether a value holds nothing. -/
def isVoid : DataSource → Json → Bool
  | .json, null => true
  | .settingsFile, object [] | .settingsFile, array [] => true
  | _, _ => false

/-- The name that is picked from several ones: a text, or the only key of an object. -/
def choice? (source : DataSource) : Json → Option String
  | string s => some s
  | object [(name, value)] => if value.isVoid source then some name else none
  | _ => none

end Json

/-- The transform that a value names. -/
def Transform.ofJson? (source : DataSource) (v : Json) : Option Transform :=
  (v.choice? source).bind Transform.ofName?

/-- The field definition that a value describes. -/
def FieldDefinition.ofJson? (source : DataSource) (v : Json) : Option FieldDefinition := do
  let v ← v.withKeys? source ["name", "column", "transform"]
  let name ← v.text? "name"
  let column ← v.optionalText? "column"
  let transform ← v.readOr? "transform" .identity (Transform.ofJson? source)
  some { name, column, transform }

/-- The entity definition that a value describes. -/
def EntityDefinition.ofJson? (source : DataSource) (v : Json) : Option EntityDefinition := do
  let v ← v.withKeys? source ["name", "table", "schema", "identifier", "fields"]
  let name ← v.text? "name"
  let table ← v.text? "table"
  let schema ← v.optionalText? "schema"
  let identifier ← v.readOr? "identifier" [] (Json.asList? Json.asText?)
  let fields ← v.readOr? "fields" [] (Json.asList? (FieldDefinition.ofJson? source))
  some { name, table, schema, identifier, fields }

/-- The definitions that a list describes. -/
def EntityDefinition.listOfJson? (source : DataSource) : Json → Option (List EntityDefinition) :=
  Json.asList? (EntityDefinition.ofJson? source)

end EntityQuery
