import EntityQuery.Backend
import EntityQuery.Postgres.Cell
import EntityQuery.Postgres.ServerError

/-!
# Servers

A server answers each statement with rows or with a failure. A backend over a server turns the rows
into rows of values and the failures into words. A statement that holds a null character cannot be
sent.
-/

namespace EntityQuery.Postgres

/-- What a server answers to a statement. -/
inductive ServerReply where
  | rows (columns : List Column) (rows : List (List (Option Bytes)))
  | error (report : ErrorReport)
  /-- The connection ends before an answer. -/
  | closed
  /-- The answer is none that belongs here. -/
  | unexpected

/-- What answers statements. -/
structure Server where
  reply : String → ServerReply

/-- Whether a statement can be sent. -/
def isSendable (sql : String) : Bool := !sql.toList.contains '\x00'

/-- A failure of the connection with its cause. -/
def connectionFailure (what cause : String) : BackendFailure :=
  .failed (ErrorCategory.connection.text ++ ": " ++ what ++ " (" ++ cause ++ ")")

/-- A failure without a known cause. -/
def plainFailure (what : String) : BackendFailure :=
  .failed (ErrorCategory.other.text ++ ": " ++ what)

/-- A reported error as a failure of a statement. -/
def reportedFailure (sql : String) (report : ErrorReport) : BackendFailure :=
  match report.read with
  | .ok e => .failed (e.describe sql)
  | .error cause => connectionFailure "error parsing response from server" cause

/-- The columns and cells that a statement yields. -/
def Server.query (s : Server) (sql : String) :
    Except BackendFailure (List Column × List (List (Option Bytes))) :=
  if isSendable sql then
    match s.reply sql with
    | .rows columns rows => .ok (columns, rows)
    | .error report => .error (reportedFailure sql report)
    | .closed => .error (plainFailure "connection closed")
    | .unexpected => .error (plainFailure "unexpected message from server")
  else
    .error (connectionFailure "error encoding message to server" "string contains embedded null")

/-- The index of a column: of the first one with exactly the name, otherwise of the first one whose
name differs at most in the case of ASCII letters. -/
def columnIndex? (columns : List Column) (name : String) : Option Nat :=
  match columns.findIdx? (·.name == name) with
  | some i => some i
  | none => columns.findIdx? fun c => c.name.map Char.toLower == name.map Char.toLower

/-- The cell that holds a count, with its index and type: of the named column, or the first one. -/
def countCell? (columns : List Column) (cells : List (Option Bytes)) (name : Option String) :
    Option (Nat × ColumnType × Option Bytes) :=
  let index? := match name with
    | some name => columnIndex? columns name
    | none => some 0
  index?.bind fun i => do some (i, (← columns[i]?).type, ← cells[i]?)

/-- The count in a cell of the only type of counts. -/
def count? : ColumnType → Option Bytes → Option Int64
  | .int8, some bytes => (signed? 8 bytes).map Int64.ofInt
  | _, _ => none

/-- A failure to find a count. -/
def countFailure (cause : String) : BackendFailure :=
  .failed ("count column is not an integer: " ++ cause)

/-- The count in a row. -/
def countOf (columns : List Column) (cells : List (Option Bytes)) (name : Option String) :
    Except BackendFailure Int64 :=
  match countCell? columns cells name with
  | none => .error (countFailure ("invalid column \x60" ++ name.getD "0" ++ "\x60"))
  | some (i, type, cell) =>
    match count? type cell with
    | some n => .ok n
    | none => .error (countFailure ("error deserializing column " ++ toString i))

/-- The backend over a server. -/
def Server.backend (s : Server) : Backend where
  all sql := do
    let (columns, rows) ← s.query sql
    .ok (rows.map (row columns))
  one sql := do
    let (columns, rows) ← s.query sql
    exactlyOne (rows.map (row columns))
  scalar sql name := do
    let (columns, rows) ← s.query sql
    countOf columns (← exactlyOne rows) name

end EntityQuery.Postgres
