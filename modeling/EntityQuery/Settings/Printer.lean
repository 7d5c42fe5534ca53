import EntityQuery.Settings
import EntityQuery.Toml.Printer

/-!
# Writing settings

Settings are written as a file that reads back as the same settings, apart from the password, which
is never written.
-/

namespace EntityQuery

open Toml (Line)

/-- The line of a text that may be missing. -/
def optionalLine (key : String) (value : Option String) : List Line :=
  match value with
  | some s => [.entry key (.text s)]
  | none => []

/-- The lines of a field. -/
def FieldDefinition.lines (f : FieldDefinition) : List Line :=
  [.item ["entity", "fields"], .entry "name" (.text f.name)] ++
  optionalLine "column" f.column ++
  [.entry "transform" (.text f.transform.name)]

/-- The lines of an entity. -/
def EntityDefinition.lines (e : EntityDefinition) : List Line :=
  [.item ["entity"], .entry "name" (.text e.name), .entry "table" (.text e.table)] ++
  optionalLine "schema" e.schema ++
  [.entry "identifier" (.texts e.identifier)] ++
  (if e.fields.isEmpty then [.entry "fields" (.texts [])]
   else e.fields.flatMap FieldDefinition.lines)

/-- The lines of a connection. -/
def Connection.lines (c : Connection) : List Line :=
  [.table ["connection"],
   .entry "host" (.text c.host),
   .entry "port" (.number c.port.toNat),
   .entry "database" (.text c.database),
   .entry "username" (.text c.username),
   .entry "ssl_mode" (.text c.sslMode.name),
   .entry "accept_invalid_certs" (.flag c.acceptInvalidCerts)] ++
  optionalLine "ca_cert_path" c.caCertPath ++
  [.entry "connect_timeout" (.number c.connectTimeout.toNat)]

namespace Settings

/-- The lines of settings. -/
def lines (s : Settings) : List Line :=
  [.entry "reserved_key" (.text s.reservedKey),
   .entry "result_casing" (.text s.resultCasing.name)] ++
  (if s.entities.isEmpty then [.entry "entity" (.texts [])]
   else s.entities.flatMap EntityDefinition.lines) ++
  s.connection.lines

/-- The text of a file with the settings. -/
def text (s : Settings) : String := Toml.textOfLines s.lines

theorem text_password (s : Settings) (password : String) :
    ({ s with connection := { s.connection with password } } : Settings).text = s.text := rfl

end Settings

end EntityQuery
