import EntityQuery.QueryError
import EntityQuery.Row

/-!
# Backends

A backend answers statements: all rows, exactly one row, or a single number. It is a record of
functions, so the same query can be run against a database, a fixed table or a list of rows. The
calls that a run makes are recorded by the run.
-/

namespace EntityQuery

/-- Why a backend gives no answer. -/
inductive BackendFailure where
  | noResult
  | nonUniqueResult
  | failed (message : String)
  deriving DecidableEq, Repr

/-- The failure in words. -/
def BackendFailure.message : BackendFailure → String
  | noResult => "query returned no rows"
  | nonUniqueResult => "query returned more than one row"
  | failed message => message

/-- The failure as an error of the query that was run. -/
def BackendFailure.toQueryError : BackendFailure → QueryError
  | noResult => .notFound
  | nonUniqueResult => .nonUniqueResult
  | failed message => .backend message

/-- A call of a backend. -/
inductive Call where
  | all (sql : String)
  | one (sql : String)
  | scalar (sql : String) (column : Option String)
  deriving DecidableEq, Repr

/-- The statement of a call. -/
def Call.sql : Call → String
  | all sql | one sql | scalar sql _ => sql

/-- What answers statements. -/
structure Backend where
  all : String → Except BackendFailure (List Row)
  one : String → Except BackendFailure Row
  scalar : String → Option String → Except BackendFailure Int64

/-- The only one of some rows. -/
def exactlyOne {α : Type} : List α → Except BackendFailure α
  | [] => .error .noResult
  | [row] => .ok row
  | _ :: _ :: _ => .error .nonUniqueResult

/-- The backend that gives the same rows and the same number to every statement, or fails always. -/
def Backend.fixed (rows : List Row) (scalar : Int64) (failure : Option BackendFailure) : Backend :=
  match failure with
  | some f => ⟨fun _ => .error f, fun _ => .error f, fun _ _ => .error f⟩
  | none => ⟨fun _ => .ok rows, fun _ => exactlyOne rows, fun _ _ => .ok scalar⟩

end EntityQuery
