import EntityQuery.Entity.Reader
import EntityQuery.Settings
import EntityQuery.Toml.Reader

/-!
# Reading settings

Settings are read from a file in the TOML notation. What the file leaves out has its default, keys
that mean nothing are ignored, and anything of another kind than expected makes the file invalid.
-/

namespace EntityQuery

namespace Json

/-- A number that is at least zero and below a bound. -/
def below? (bound : Nat) : Json → Option Nat
  | integer i => if 0 ≤ i ∧ i < bound then some i.toNat else none
  | _ => none

/-- A truth value. -/
def asBool? : Json → Option Bool
  | bool b => some b
  | _ => none

end Json

/-- The connection that a value describes. -/
def Connection.ofJson? (v : Json) : Option Connection := do
  let v ← v.withKeys? .settingsFile
    ["host", "port", "database", "username", "password", "ssl_mode", "accept_invalid_certs",
     "ca_cert_path", "connect_timeout"]
  let c : Connection := {}
  let host ← v.readOr? "host" c.host Json.asText?
  let port ← v.readOr? "port" c.port fun n => (n.below? UInt16.size).map .ofNat
  let database ← v.readOr? "database" c.database Json.asText?
  let username ← v.readOr? "username" c.username Json.asText?
  let password ← v.readOr? "password" c.password Json.asText?
  let sslMode ← v.readOr? "ssl_mode" c.sslMode
    fun m => (m.choice? .settingsFile).bind SslMode.ofName?
  let acceptInvalidCerts ← v.readOr? "accept_invalid_certs" c.acceptInvalidCerts Json.asBool?
  let caCertPath ← v.optionalText? "ca_cert_path"
  let connectTimeout ← v.readOr? "connect_timeout" c.connectTimeout
    fun n => (n.below? UInt64.size).map .ofNat
  some { host, port, database, username, password, sslMode, acceptInvalidCerts, caCertPath,
         connectTimeout }

namespace Settings

/-- The settings that a value describes. -/
def ofJson? (v : Json) : Option Settings := do
  let s : Settings := {}
  let reservedKey ← v.readOr? "reserved_key" s.reservedKey Json.asText?
  let resultCasing ← v.readOr? "result_casing" s.resultCasing
    fun c => (c.choice? .settingsFile).bind ResultCasing.ofName?
  let entities ← v.readOr? "entity" s.entities (EntityDefinition.listOfJson? .settingsFile)
  let connection ← v.readOr? "connection" s.connection Connection.ofJson?
  some { reservedKey, resultCasing, entities, connection }

/-- The settings in the text of a file. -/
def ofText? (text : String) : Option Settings := (Toml.ofText? text).bind ofJson?

/-- The settings in the file of a path. The text is missing if the file cannot be read. -/
def load (path : String) (text : Option String) : Except SettingsError Settings :=
  match text with
  | none => .error (.unreadable path)
  | some text =>
    match ofText? text with
    | some s => .ok s
    | none => .error (.unparsable path)

end Settings

end EntityQuery
