import EntityQuery.Backend
import EntityQuery.DistinctCount

/-!
# Running queries

Running a bound query sends its statement to a backend. The outcome tells three things: the query
after the run, the calls that were made, and the result. A query that is not bound to the persister
that runs it is refused before any call.
-/

namespace EntityQuery

/-- What a run leaves behind. -/
structure Outcome (α : Type) where
  query : Query
  calls : List Call
  result : QueryResult α

namespace Persister

/-- Runs the statement of a bound query after a change, with a call and the backend's answer to
it. -/
def runNative {α : Type} (p : Persister) (q : Query) (change : NativeQuery → NativeQuery)
    (call : String → Call) (answer : String → Except BackendFailure α) : Outcome α :=
  if q.isBoundTo p then
    match q.native with
    | (.error e, q) => ⟨q, [], .error e⟩
    | (.ok n, q) =>
      let sql := (change n).sql
      match answer sql with
      | .ok a => ⟨q.markExecuted, [call sql], .ok a⟩
      | .error f => ⟨q, [call sql], .error f.toQueryError⟩
  else ⟨q, [], .error .notBound⟩

/-- All rows of a bound query. -/
def execute (p : Persister) (b : Backend) (q : Query) : Outcome (List Row) :=
  p.runNative q id .all b.all

/-- The only row of a bound query, whose statement is capped at one row. -/
def executeOne (p : Persister) (b : Backend) (q : Query) : Outcome Row :=
  p.runNative q NativeQuery.single .one b.one

/-- The call that fetches a count. -/
def scalarCall (f : CountForm) : Call := .scalar f.native.sql f.scalarColumn?

/-- The number that a counting statement gives. -/
def executeScalar (b : Backend) (f : CountForm) : QueryResult Int64 :=
  match b.scalar f.native.sql f.scalarColumn? with
  | .ok n => .ok n
  | .error failure => .error failure.toQueryError

theorem execute_of_not_bound {p : Persister} {b : Backend} {q : Query}
    (h : q.isBoundTo p = false) : p.execute b q = ⟨q, [], .error .notBound⟩ := by
  simp [execute, runNative, h]

end Persister

end EntityQuery
