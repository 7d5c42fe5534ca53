/-!
# Connections

How to reach a database: where it listens, who logs in, and how the connection is secured. The
connection text lists the parameters as `key=value`, with the values that are free texts between
quotes.
-/

namespace EntityQuery

/-- How a connection is encrypted, and what is checked of the server's certificate. -/
inductive SslMode where
  | disable | prefer | require | verifyCa | verifyFull
  deriving DecidableEq, Repr, Inhabited

namespace SslMode

/-- The name of a mode. -/
def name : SslMode → String
  | disable => "disable"
  | prefer => "prefer"
  | require => "require"
  | verifyCa => "verify-ca"
  | verifyFull => "verify-full"

/-- The mode of a name. -/
def ofName? (s : String) : Option SslMode :=
  [disable, prefer, require, verifyCa, verifyFull].find? (·.name == s)

/-- Whether the server's certificate is checked in any case. -/
def isStrict : SslMode → Bool
  | verifyCa | verifyFull => true
  | _ => false

@[simp] theorem ofName?_name (m : SslMode) : ofName? m.name = some m := by
  cases m <;> rfl

end SslMode

/-- The parameters of a connection. -/
structure Connection where
  host : String := "localhost"
  port : UInt16 := 5432
  database : String := "postgres"
  username : String := "postgres"
  password : String := ""
  sslMode : SslMode := .prefer
  /-- Whether a certificate that cannot be verified is accepted; strict modes never do. -/
  acceptInvalidCerts : Bool := false
  /-- A file with the certificate that signs the server's one. -/
  caCertPath : Option String := none
  /-- Seconds to wait for the connection. -/
  connectTimeout : UInt64 := 10
  deriving DecidableEq, Repr, Inhabited

namespace Connection

/-- A character between the quotes of a connection text. -/
def escapeChar (c : Char) : List Char := if c = '\\' || c = '\'' then ['\\', c] else [c]

/-- A value between quotes. -/
def quoteValue (value : String) : String :=
  String.ofList ('\'' :: (value.toList.flatMap escapeChar ++ ['\'']))

/-- The parameters as one text. -/
def text (c : Connection) : String :=
  "host=" ++ quoteValue c.host ++
  " port=" ++ toString c.port.toNat ++
  " dbname=" ++ quoteValue c.database ++
  " user=" ++ quoteValue c.username ++
  " password=" ++ quoteValue c.password ++
  " sslmode=" ++ c.sslMode.name ++
  " connect_timeout=" ++ toString c.connectTimeout.toNat

/-- The connection as it is shown to people, without its secrets. -/
def display (c : Connection) : String :=
  c.username ++ "@" ++ c.host ++ ":" ++ toString c.port.toNat ++ "/" ++ c.database

/-- The certificate file that has to be read before connecting, if there is one. -/
def requiredCertificate? (c : Connection) : Option String :=
  if c.sslMode = .disable || (c.acceptInvalidCerts && !c.sslMode.isStrict) then none
  else c.caCertPath

theorem display_password (c : Connection) (password : String) :
    ({ c with password } : Connection).display = c.display := rfl

end Connection

end EntityQuery
