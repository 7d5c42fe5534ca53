import EntityQuery.Certificate
import EntityQuery.CommandLine.Command
import EntityQuery.Postgres.Server
import EntityQuery.Repository
import EntityQuery.Settings.Reader

/-!
# The program

What the program does, as a function of its command line, its settings and what is around it: the
password of the environment, the certificate file and the server. It reports what it prints, how it
exits, and what the server gets to see.
-/

namespace EntityQuery.CommandLine

/-- A database server that listens. -/
structure DatabaseServer where
  server : Postgres.Server
  /-- Whether the server asks for the password. -/
  asksPassword : Bool := false

/-- What is around the program. -/
structure Surroundings where
  /-- The password of the environment. -/
  password : Option String := none
  /-- The text of the certificate file that the settings name, if it can be read. -/
  certificate : Option String := none
  /-- What listens where the settings point to. -/
  listener : Option DatabaseServer := none

/-- What a server gets to know about who logs in. -/
structure Login where
  user : String
  database : String
  /-- The password, if the server asks for it. -/
  password : Option String
  deriving DecidableEq, Repr

/-- What a run of the program leaves behind. -/
structure Report where
  /-- The lines of the output. -/
  output : List String := []
  /-- The lines beside the output. -/
  notes : List String := []
  exitCode : UInt32 := 0
  login : Option Login := none
  /-- The statements that the server received. -/
  statements : List String := []
  deriving DecidableEq, Repr

namespace Report

/-- A run that succeeds with some lines of output. -/
def printed (output : List String) : Report := { output }

/-- A run that fails after some lines of output. -/
def failedAfter (output : List String) (message : String) : Report :=
  { output, notes := ["Error: " ++ message], exitCode := 1 }

/-- A run that fails before any output. -/
def failed (message : String) : Report := failedAfter [] message

/-- A run whose command line means nothing. -/
def misused : Report := { notes := usage, exitCode := 2 }

/-- The report of a step that can fail, and of what comes after it. -/
def ofStep {α : Type} (step : Except String α) (next : α → Report) : Report :=
  match step with
  | .ok a => next a
  | .error message => failed message

end Report

/-- The criteria that a text spells. -/
def readCriteria (text : String) : Except String Criteria :=
  match Json.ofText? text with
  | none => .error "criteria must be valid JSON"
  | some (.object fields) => .ok fields
  | some other => .error ("criteria must be a JSON object, got " ++ other.compact)

/-- The sort key that an argument spells: a field, and after a colon its direction. -/
def sortKey (text : String) : String × String :=
  match text.toList.dropWhile (· != ':') with
  | _ :: direction => (String.ofList (text.toList.takeWhile (· != ':')), String.ofList direction)
  | [] => (text, "asc")

/-- The result of an operation of a persister that has just been made. -/
def outcome {α : Type} (l : Lookup α) : Except String α :=
  (l.perform {}).1.mapError QueryError.message

/-- The persister of an entity. -/
def persister (s : Settings) (entity : String) : Except String Persister :=
  (s.persister 0 entity).mapError SettingsError.message

/-- The query of criteria, bound to its persister. -/
def boundQuery (s : Settings) (p : Persister) (criteria : Criteria) (request : SortRequest)
    (limit offset : Option Nat) : Lookup Query := do
  let query ← (s.composer p).compose criteria request limit offset
  Lookup.ofResult (query.bind p)

/-- The statement of a query as a line. -/
def statementOf (q : Query) : Except String String :=
  (q.native.1.map NativeQuery.sql).mapError QueryError.message

/-- Shows the statement of criteria. -/
def lower (s : Settings) (args : CriteriaArguments) : Report :=
  .ofStep (do
    let p ← persister s args.entity
    let criteria ← readCriteria args.criteria
    let query ← outcome
      (boundQuery s p criteria (args.order.map sortKey) args.limit args.offset)
    statementOf query) fun sql => .printed [sql]

/-- Shows the counting statement of criteria. -/
def count (s : Settings) (entity criteria : String) : Report :=
  .ofStep (do
    let p ← persister s entity
    let criteria ← readCriteria criteria
    outcome (do (← boundQuery s p criteria [] none none).countForm)) fun form =>
  .printed ["-- strategy: " ++ form.strategy.name, form.native.sql]

/-- The line that shows the condition of a query. -/
def conditionLines (q : Query) : List String :=
  match q.clauses.condition with
  | some c => ["-- condition: " ++ c.display]
  | none => []

/-- Shows the condition and the statement of query text. -/
def parse (s : Settings) (entity text : String) : Report :=
  .ofStep (do
    let p ← persister s entity
    let query ← outcome ((s.composer p).read text)
    .ok (p, query)) fun (p, query) =>
  let lines := conditionLines query
  match (query.bind p).mapError QueryError.message >>= statementOf with
  | .ok sql => .printed (lines ++ [sql])
  | .error message => .failedAfter lines message

/-- Checks the certificate file that a connection needs. -/
def checkCertificate (c : Connection) (around : Surroundings) : Except String Unit :=
  match c.requiredCertificate? with
  | none => .ok ()
  | some path =>
    match around.certificate with
    | none => .error ("Failed to read CA certificate file: " ++ path)
    | some text =>
      if Certificate.isIn text then .ok ()
      else .error ("Failed to parse CA certificate: " ++ path)

/-- The failure to connect in a mode. -/
def connectionFailure (mode : SslMode) : String :=
  if mode.isStrict then "Failed to connect to PostgreSQL with certificate verification"
  else "Failed to connect to PostgreSQL"

/-- Whether a connection of a mode can do without encryption, which no server offers here. -/
def allowsPlain : SslMode → Bool
  | .disable | .prefer => true
  | _ => false

/-- Whether all texts of a login can be sent. -/
def Login.isSendable (l : Login) : Bool :=
  Postgres.isSendable l.user && Postgres.isSendable l.database &&
    l.password.all Postgres.isSendable

/-- Logs in: what the server gets to know, and the server. -/
def connect (c : Connection) (around : Surroundings) :
    Except String (Login × Postgres.Server) := do
  let password ←
    if c.password.isEmpty then
      match around.password with
      | some password => .ok password
      | none => .error "no password is set"
    else .ok c.password
  checkCertificate c around
  match around.listener with
  | none => .error (connectionFailure c.sslMode)
  | some listener =>
    let login : Login := ⟨c.username, c.database,
      if listener.asksPassword then some password else none⟩
    if allowsPlain c.sslMode && login.isSendable then .ok (login, listener.server)
    else .error (connectionFailure c.sslMode)

/-- The lines of rows: one for each, and how many there are beside the output. -/
def rowLines (rows : List Row) : Report :=
  { output := rows.map (·.toJson.compact)
    notes := ["(" ++ toString rows.length ++ " rows)"] }

/-- The report of a request, with the statements of its calls that could be sent. -/
def ofRequest {α : Type} (calls : List Call) (result : QueryResult α) (shown : α → Report) :
    Report :=
  let report := Report.ofStep (result.mapError QueryError.message) shown
  { report with statements := (calls.map Call.sql).filter Postgres.isSendable }

/-- The report of a repository's reply. -/
def ofReply {α : Type} (reply : Reply α) (shown : α → Report) : Report :=
  ofRequest reply.calls reply.result shown

/-- Runs criteria or query text in a repository. A count or a single row is always one of the
criteria; the query text counts for rows only. -/
def request (r : Repository) (b : Backend) (args : CriteriaArguments) (text : Option String)
    (wanted : Wanted) : Report :=
  .ofStep (readCriteria args.criteria) fun criteria =>
  let order := args.order.map sortKey
  match wanted, text with
  | .count, _ => ofReply (r.countBy b {} criteria) fun n => .printed [toString n.toInt]
  | .one, _ =>
    ofReply (r.findOneBy b {} criteria order) fun row => .printed [row.toJson.indented 0]
  | .rows, some text => ofReply (r.findByText b {} text) rowLines
  | .rows, none => ofReply (r.findBy b {} criteria order args.limit args.offset) rowLines

/-- Connects and runs criteria or query text. -/
def runQuery (s : Settings) (around : Surroundings) (args : CriteriaArguments)
    (text : Option String) (wanted : Wanted) : Report :=
  .ofStep (do
    let p ← persister s args.entity
    let (login, server) ← connect s.connection around
    .ok (p, login, server)) fun (p, login, server) =>
  let repository := ({ persister := p } : Repository).install (s.composer p)
  { request repository server.backend args text wanted with login := some login }

/-- Runs a command. -/
def run (s : Settings) (around : Surroundings) : Command → Report
  | .lower args => lower s args
  | .count entity criteria => count s entity criteria
  | .parse entity text => parse s entity text
  | .run args text wanted => runQuery s around args text wanted

end EntityQuery.CommandLine
