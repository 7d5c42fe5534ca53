import EntityQuery.Entity

/-!
# The field cache

Resolving a field asks the catalog once and remembers the answer. A resolution consists of three
steps: looking into the cache, asking the catalog, and keeping the answer. They are separate here
because several resolutions may run at the same time; a step that keeps an answer therefore leaves
an entry alone that another resolution has made in between, and returns it.
-/

namespace EntityQuery

/-- An entry of the cache: the mapping of a field of an entity. -/
structure CachedField where
  entity : String
  field : String
  mapping : FieldMapping
  deriving DecidableEq, Repr

/-- Remembered mappings, and how often the catalog has been asked. -/
structure FieldCache where
  entries : List CachedField := []
  lookups : Nat := 0
  deriving Repr, Inhabited

namespace FieldCache

/-- The first step: the remembered mapping of a field. -/
def find? (cache : FieldCache) (entity field : String) : Option FieldMapping :=
  (cache.entries.find? fun e => e.entity == entity && e.field == field).map (·.mapping)

/-- The second step is counted, whatever the catalog answers. -/
def countLookup (cache : FieldCache) : FieldCache := { cache with lookups := cache.lookups + 1 }

/-- The third step: keeps an answer unless the field has an entry already, and returns the entry. -/
def keep (cache : FieldCache) (entity field : String) (mapping : FieldMapping) :
    FieldMapping × FieldCache :=
  match cache.find? entity field with
  | some kept => (kept, cache)
  | none => (mapping, { cache with entries := ⟨entity, field, mapping⟩ :: cache.entries })

/-- The number of remembered fields of an entity. -/
def count (cache : FieldCache) (entity : String) : Nat :=
  cache.entries.countP (·.entity == entity)

/-- The three steps one after the other. -/
def resolve (cache : FieldCache) (catalog : Catalog) (entity field : String) :
    QueryResult FieldMapping × FieldCache :=
  match cache.find? entity field with
  | some mapping => (.ok mapping, cache)
  | none =>
    let asked := cache.countLookup
    match catalog.mapping? entity field with
    | none => (.error (.unknownField entity field), asked)
    | some mapping =>
      let (kept, cache) := asked.keep entity field mapping
      (.ok kept, cache)

@[simp] theorem find?_countLookup (cache : FieldCache) (entity field : String) :
    cache.countLookup.find? entity field = cache.find? entity field := rfl

theorem resolve_of_find? {cache : FieldCache} {catalog : Catalog} {entity field : String}
    {mapping : FieldMapping} (h : cache.find? entity field = some mapping) :
    cache.resolve catalog entity field = (.ok mapping, cache) := by
  simp [resolve, h]

end FieldCache

end EntityQuery
