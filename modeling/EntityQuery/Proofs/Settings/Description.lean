import EntityQuery.Settings.Reader

/-!
# Settings as objects

Settings are described by an object with a field for each part, and so are their connection, their
entities and the fields of these. A missing text has no field, and neither has the password; every
other part is read back from its field.
-/

namespace EntityQuery

section

variable {α β : Type} {key : String} {default a : α} {read? : Json → Option α} {v value : Json}

theorem bind_of_eq_some {read : Option α} {next : α → Option β} {b : Option β}
    (same : read = some a) (further : next a = b) : (read >>= next) = b := by
  rw [same]
  exact further

theorem readOr?_of_field (held : v.field? key = some value) (read : read? value = some a) :
    v.readOr? key default read? = some a := by
  rw [Json.readOr?, held]
  exact read

theorem readOr?_of_none (missing : v.field? key = none) :
    v.readOr? key default read? = some default := by
  rw [Json.readOr?, missing]

theorem withKeys?_object (source : DataSource) (keys : List String)
    (fields : List (String × Json)) :
    (Json.object fields).withKeys? source keys = some (.object fields) := rfl

/-- A list is read back if each of its items is. -/
theorem asList?_map {write : α → Json} {xs : List α} (back : ∀ x ∈ xs, read? (write x) = some x) :
    Json.asList? read? (.array (xs.map write)) = some xs := by
  rw [Json.asList?]
  induction xs with
  | nil => rfl
  | cons x xs ih =>
      rw [List.map_cons, List.mapM_cons, back x List.mem_cons_self,
        ih fun y mem => back y (List.mem_cons_of_mem x mem)]
      rfl

theorem below?_of_lt {n bound : Nat} (small : n < bound) :
    (Json.integer n).below? bound = some n := by
  rw [Json.below?, if_pos ⟨Int.natCast_nonneg n, Int.ofNat_lt.2 small⟩, Int.toNat_natCast]

end

/-- The field of a text that may be missing. -/
def optionalField (key : String) (value : Option String) : List (String × Json) :=
  match value with
  | some s => [(key, .string s)]
  | none => []

namespace FieldDefinition

/-- The fields of the object that describes a field. -/
def content (f : FieldDefinition) : List (String × Json) :=
  [("name", .string f.name)] ++ optionalField "column" f.column ++
    [("transform", .string f.transform.name)]

theorem nodup_content (f : FieldDefinition) : (f.content.map Prod.fst).Nodup := by
  rw [content]
  cases f.column with
  | none => exact show ["name", "transform"].Nodup by decide
  | some column => exact show ["name", "column", "transform"].Nodup by decide

/-- A field is read back from the object that describes it. -/
theorem ofJson?_content (f : FieldDefinition) :
    ofJson? .settingsFile (.object f.content) = some f := by
  obtain ⟨name, column, transform⟩ := f
  have read : Transform.ofJson? .settingsFile (.string transform.name) = some transform :=
    Transform.ofName?_name transform
  have parts : ofJson? .settingsFile (.object (content ⟨name, column, transform⟩)) =
      (Transform.ofJson? .settingsFile (.string transform.name)).bind
        fun t => some ⟨name, column, t⟩ := by
    cases column <;> rfl
  rw [parts, read]
  rfl

end FieldDefinition

namespace EntityDefinition

/-- The fields of the object that describes an entity, the list of its fields apart. -/
def ownContent (e : EntityDefinition) : List (String × Json) :=
  [("name", .string e.name), ("table", .string e.table)] ++ optionalField "schema" e.schema ++
    [("identifier", .array (e.identifier.map .string))]

/-- The fields of the object that describes an entity. -/
def content (e : EntityDefinition) : List (String × Json) :=
  e.ownContent ++ [("fields", .array ((e.fields.map FieldDefinition.content).map .object))]

theorem nodup_ownContent (e : EntityDefinition) :
    (e.ownContent.map Prod.fst ++ ["fields"]).Nodup := by
  rw [ownContent]
  cases e.schema with
  | none => exact show ["name", "table", "identifier", "fields"].Nodup by decide
  | some schema => exact show ["name", "table", "schema", "identifier", "fields"].Nodup by decide

/-- An entity is read back from the object that describes it. -/
theorem ofJson?_content (e : EntityDefinition) :
    ofJson? .settingsFile (.object e.content) = some e := by
  obtain ⟨name, table, schema, identifier, fields⟩ := e
  have identifierRead : Json.asList? Json.asText? (.array (identifier.map .string)) =
      some identifier := asList?_map fun s _ => rfl
  have fieldsRead : Json.asList? (FieldDefinition.ofJson? .settingsFile)
      (.array ((fields.map FieldDefinition.content).map .object)) = some fields := by
    rw [List.map_map]
    exact asList?_map fun f _ => f.ofJson?_content
  have parts : ofJson? .settingsFile
        (.object (content ⟨name, table, schema, identifier, fields⟩)) =
      (Json.asList? Json.asText? (.array (identifier.map .string))).bind fun i =>
        (Json.asList? (FieldDefinition.ofJson? .settingsFile)
          (.array ((fields.map FieldDefinition.content).map .object))).bind fun fs =>
            some ⟨name, table, schema, i, fs⟩ := by
    cases schema <;> rfl
  rw [parts, identifierRead, fieldsRead]
  rfl

end EntityDefinition

namespace Connection

/-- The fields of the object that describes a connection. -/
def content (c : Connection) : List (String × Json) :=
  [("host", .string c.host), ("port", .integer c.port.toNat), ("database", .string c.database),
   ("username", .string c.username), ("ssl_mode", .string c.sslMode.name),
   ("accept_invalid_certs", .bool c.acceptInvalidCerts)] ++
  optionalField "ca_cert_path" c.caCertPath ++
  [("connect_timeout", .integer c.connectTimeout.toNat)]

theorem nodup_content (c : Connection) : (c.content.map Prod.fst).Nodup := by
  rw [content]
  cases c.caCertPath with
  | none => exact show ["host", "port", "database", "username", "ssl_mode", "accept_invalid_certs",
      "connect_timeout"].Nodup by decide
  | some path => exact show ["host", "port", "database", "username", "ssl_mode",
      "accept_invalid_certs", "ca_cert_path", "connect_timeout"].Nodup by decide

/-- What the object that describes a connection holds under each key. -/
theorem field?_content (c : Connection) :
    (Json.object c.content).field? "host" = some (.string c.host) ∧
    (Json.object c.content).field? "port" = some (.integer c.port.toNat) ∧
    (Json.object c.content).field? "database" = some (.string c.database) ∧
    (Json.object c.content).field? "username" = some (.string c.username) ∧
    (Json.object c.content).field? "ssl_mode" = some (.string c.sslMode.name) ∧
    (Json.object c.content).field? "accept_invalid_certs" = some (.bool c.acceptInvalidCerts) ∧
    (Json.object c.content).field? "ca_cert_path" = c.caCertPath.map .string ∧
    (Json.object c.content).field? "connect_timeout" = some (.integer c.connectTimeout.toNat) ∧
    (Json.object c.content).field? "password" = none := by
  rw [content]
  cases c.caCertPath <;> exact ⟨rfl, rfl, rfl, rfl, rfl, rfl, rfl, rfl, rfl⟩

/-- A connection is read back from the object that describes it, without its password. -/
theorem ofJson?_content (c : Connection) :
    ofJson? (.object c.content) = some { c with password := "" } := by
  obtain ⟨host, port, database, username, sslMode, accepts, certificate, timeout, password⟩ :=
    c.field?_content
  have portRead : ((Json.integer c.port.toNat).below? UInt16.size).map UInt16.ofNat =
      some c.port := by
    rw [below?_of_lt c.port.toNat_lt_size, Option.map_some, UInt16.ofNat_toNat]
  have sslModeRead : ((Json.string c.sslMode.name).choice? .settingsFile).bind SslMode.ofName? =
      some c.sslMode := SslMode.ofName?_name c.sslMode
  have certificateRead : Json.optionalText? "ca_cert_path" (.object c.content) =
      some c.caCertPath := by
    rw [Json.optionalText?, certificate]
    cases c.caCertPath <;> rfl
  have timeoutRead : ((Json.integer c.connectTimeout.toNat).below? UInt64.size).map UInt64.ofNat =
      some c.connectTimeout := by
    rw [below?_of_lt c.connectTimeout.toNat_lt_size, Option.map_some, UInt64.ofNat_toNat]
  rw [ofJson?]
  -- One step for each part: evaluated as a whole, the bounds of the numbers would be counted down.
  refine bind_of_eq_some (withKeys?_object _ _ _) ?_
  refine bind_of_eq_some (readOr?_of_field host rfl) ?_
  refine bind_of_eq_some (readOr?_of_field port portRead) ?_
  refine bind_of_eq_some (readOr?_of_field database rfl) ?_
  refine bind_of_eq_some (readOr?_of_field username rfl) ?_
  refine bind_of_eq_some (readOr?_of_none password) ?_
  refine bind_of_eq_some (readOr?_of_field sslMode sslModeRead) ?_
  refine bind_of_eq_some (readOr?_of_field accepts rfl) ?_
  refine bind_of_eq_some certificateRead ?_
  exact bind_of_eq_some (readOr?_of_field timeout timeoutRead) rfl

end Connection

namespace Settings

/-- The fields of the object that describes settings, the entities and the connection apart. -/
def ownContent (s : Settings) : List (String × Json) :=
  [("reserved_key", .string s.reservedKey), ("result_casing", .string s.resultCasing.name)]

/-- The fields of the object that describes settings. -/
def content (s : Settings) : List (String × Json) :=
  s.ownContent ++ [("entity", .array ((s.entities.map EntityDefinition.content).map .object))] ++
    [("connection", .object s.connection.content)]

/-- Settings are read back from the object that describes them, without the password. -/
theorem ofJson?_content (s : Settings) :
    ofJson? (.object s.content) =
      some { s with connection := { s.connection with password := "" } } := by
  have casingRead : ((Json.string s.resultCasing.name).choice? .settingsFile).bind
      ResultCasing.ofName? = some s.resultCasing := ResultCasing.ofName?_name s.resultCasing
  have entitiesRead : EntityDefinition.listOfJson? .settingsFile
      (.array ((s.entities.map EntityDefinition.content).map .object)) = some s.entities := by
    rw [List.map_map]
    exact asList?_map fun e _ => e.ofJson?_content
  rw [ofJson?]
  refine bind_of_eq_some (readOr?_of_field rfl rfl) ?_
  refine bind_of_eq_some (readOr?_of_field rfl casingRead) ?_
  refine bind_of_eq_some (readOr?_of_field rfl entitiesRead) ?_
  exact bind_of_eq_some (readOr?_of_field rfl s.connection.ofJson?_content) rfl

end Settings

end EntityQuery
