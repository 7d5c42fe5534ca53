import EntityQuery.Connection
import EntityQuery.Composer
import EntityQuery.Unicode.Quoted

/-!
# Settings

Settings hold the definitions of the entities, how criteria and result columns are read, and the
connection to the database. A persister is made for an entity that is configured, under the name it
was asked for.
-/

namespace EntityQuery

/-- The settings of a program. -/
structure Settings where
  reservedKey : String := defaultReservedKey
  resultCasing : ResultCasing := .lower
  entities : List EntityDefinition := []
  connection : Connection := {}
  deriving DecidableEq, Repr, Inhabited

/-- Why settings cannot be used. -/
inductive SettingsError where
  | unreadable (path : String)
  | unparsable (path : String)
  | unknownEntity (entity : String) (configured : List String)
  deriving DecidableEq, Repr

/-- The error in words. -/
def SettingsError.message : SettingsError → String
  | unreadable path => "Failed to read config file: " ++ path
  | unparsable path => "Failed to parse config file: " ++ path
  | unknownEntity entity configured =>
    "unknown entity " ++ Unicode.quoted entity ++ " (configured: " ++
      ", ".intercalate configured ++ ")"

namespace Settings

/-- The definitions of the entities as a catalog. -/
def catalog (s : Settings) : Catalog := ⟨s.entities⟩

/-- A persister of an entity, with a handle of the caller. -/
def persister (s : Settings) (handle : Nat) (entity : String) : Except SettingsError Persister :=
  if s.entities.any (·.name == entity) then
    .ok { handle, catalog := s.catalog, entity, casing := s.resultCasing }
  else .error (.unknownEntity entity (s.entities.map (·.name)))

/-- A composer of a persister, with the reserved key of the settings. -/
def composer (s : Settings) (p : Persister) : Composer := ⟨p, s.reservedKey⟩

end Settings

end EntityQuery
