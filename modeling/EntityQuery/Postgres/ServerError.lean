import EntityQuery.ConditionText.Location
import EntityQuery.Numeral

/-!
# Errors of a server

A server reports an error with a code, a message, and possibly a position in the statement and a
hint. The description tells the category of the code, the line and column of the position, and the
hint.
-/

namespace EntityQuery.Postgres

open ConditionText (Location)

/-- The categories of error codes. -/
inductive ErrorCategory where
  /-- The statement is not well-formed. -/
  | grammar
  /-- The statement names what is not there, or means nothing. -/
  | meaning
  | execution
  | transaction
  | connection
  | other
  deriving DecidableEq, Repr

namespace ErrorCategory

/-- The category in words. -/
def text : ErrorCategory → String
  | grammar => "Syntax Error"
  | meaning => "Semantic Error"
  | execution => "Execution Error"
  | transaction => "Transaction Error"
  | connection => "Connection Error"
  | other => "Error"

/-- The category of a code, which is decided by its class, the first two characters. -/
def ofCode (code : String) : ErrorCategory :=
  match code.toList with
  | ['4', '2', '6', '0', '1'] | ['4', '2', '0', '0', '0'] => grammar
  | '4' :: '2' :: _ => meaning
  | '2' :: '2' :: _ | '2' :: '3' :: _ | '5' :: '3' :: _ | '5' :: '4' :: _ | '5' :: '5' :: _
  | '5' :: '7' :: _ => execution
  | '2' :: '5' :: _ | '4' :: '0' :: _ => transaction
  | '0' :: '8' :: _ => connection
  | _ => other

end ErrorCategory

/-- An error of a server. -/
structure ServerError where
  code : String
  message : String
  /-- A position in the statement that was sent. -/
  position : Option Nat := none
  hint : Option String := none
  deriving DecidableEq, Repr

/-- The location of the first character that begins so many bytes after the start of a text or
later, seen from a location of its start. -/
def locationAfter : List Char → Nat → Location → Location
  | [], _, l => l
  | c :: cs, bytes, l =>
    if bytes = 0 then l else locationAfter cs (bytes - c.utf8Size) (l.advance c)

/-- The location of a position, counted in bytes from one. -/
def locationOf (sql : String) (position : Nat) : Location :=
  locationAfter sql.toList (position - 1) .start

namespace ServerError

/-- Where an error is, in words. -/
def placeText (sql : String) : Option Nat → String
  | some position =>
    let l := locationOf sql position
    " at line " ++ toString l.line ++ ", column " ++ toString l.column
  | none => ""

/-- A hint in words. -/
def hintText : Option String → String
  | some hint => " (hint: " ++ hint ++ ")"
  | none => ""

/-- The description of an error of a statement. -/
def describe (e : ServerError) (sql : String) : String :=
  (ErrorCategory.ofCode e.code).text ++ " [" ++ e.code ++ "]: " ++ e.message ++
    placeText sql e.position ++ hintText e.hint

end ServerError

/-- An error as a server reports it, field by field. -/
structure ErrorReport where
  severity : Option String := none
  code : Option String := none
  message : Option String := none
  hint : Option String := none
  position : Option String := none
  /-- A position in a statement that the server made itself. -/
  internalPosition : Option String := none
  /-- The statement that the server made itself. -/
  internalQuery : Option String := none
  deriving Repr

namespace ErrorReport

/-- The number of a field that may be missing. -/
def number (name : String) : Option String → Except String (Option Nat)
  | none => .ok none
  | some s =>
    match Numeral.natBelow? (Nat.pow 2 32) s.toList with
    | some n => .ok (some n)
    | none => .error (name ++ " field did not contain an integer")

/-- The text of a field that must be there. -/
def required (name : String) : Option String → Except String String
  | some s => .ok s
  | none => .error (name ++ " field missing")

/-- The error that a report describes, or what is wrong with the report. A position in a statement
of the server's own is no position in the statement that was sent. -/
def read (r : ErrorReport) : Except String ServerError := do
  let position ← number "\x60P\x60" r.position
  let internal ← number "\x60p\x60" r.internalPosition
  let _ ← required "\x60S\x60" r.severity
  let code ← required "\x60C\x60" r.code
  let message ← required "\x60M\x60" r.message
  if position.isNone && internal.isSome && r.internalQuery.isNone then
    .error "\x60q\x60 field missing but \x60p\x60 field present"
  else .ok { code, message, position, hint := r.hint }

end ErrorReport

@[simp] theorem locationAfter_zero (cs : List Char) (l : Location) :
    locationAfter cs 0 l = l := by
  cases cs <;> rfl

end EntityQuery.Postgres
