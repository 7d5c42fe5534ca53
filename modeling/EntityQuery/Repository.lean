import EntityQuery.Execution
import EntityQuery.PlainCriteria

/-!
# Repositories

A repository finds the entities of one persister in a backend. With a parser installed it reads
criteria and query text; without one only plain criteria are left. Whatever composer is installed
is pointed at the repository's own persister, so a repository keeps no more of it than its reserved
key.
-/

namespace EntityQuery

/-- A repository of entities. -/
structure Repository where
  persister : Persister
  /-- The reserved key of the installed parser, if one is installed. -/
  parserKey : Option String := none
  deriving Repr

/-- What a request leaves behind: what is remembered, the calls that were made, and the result. -/
structure Reply (α : Type) where
  memo : Memo
  calls : List Call
  result : QueryResult α

namespace Reply

/-- A request that prepares something, and, if that succeeds, makes calls with it. -/
def prepared {α β : Type} (memo : Memo) (prepare : Lookup β)
    (run : β → List Call × QueryResult α) : Reply α :=
  match prepare.perform memo with
  | (.error e, memo) => ⟨memo, [], .error e⟩
  | (.ok b, memo) => ⟨memo, (run b).1, (run b).2⟩

end Reply

namespace Repository

/-- The repository with a composer installed. -/
def install (r : Repository) (c : Composer) : Repository :=
  { r with parserKey := some c.reservedKey }

/-- The installed composer. -/
def composer? (r : Repository) : Option Composer :=
  r.parserKey.map fun reservedKey => { persister := r.persister, reservedKey }

/-- Whether a parser is installed. -/
def isAdvanced (r : Repository) : Bool := r.parserKey.isSome

/-- The query that a composer makes of criteria, bound to the repository's persister. -/
def bound (r : Repository) (c : Composer) (criteria : Criteria) (request : SortRequest)
    (limit offset : Option Nat) : Lookup Query := do
  let query ← c.compose criteria request limit offset
  Lookup.ofResult (query.bind r.persister)

/-- One call with its answer. -/
def single {α : Type} (call : Call) (answer : Except BackendFailure α) :
    List Call × QueryResult α :=
  ([call], answer.mapError BackendFailure.toQueryError)

/-- All rows that match criteria. -/
def findBy (r : Repository) (b : Backend) (memo : Memo) (criteria : Criteria)
    (request : SortRequest) (limit offset : Option Nat) : Reply (List Row) :=
  match r.composer? with
  | some c =>
    .prepared memo (r.bound c criteria request limit offset) fun q =>
      let o := r.persister.execute b q
      (o.calls, o.result)
  | none =>
    .prepared memo (PlainCriteria.select r.persister criteria request limit offset) fun n =>
      single (.all n.sql) (b.all n.sql)

/-- The only row that matches criteria. -/
def findOneBy (r : Repository) (b : Backend) (memo : Memo) (criteria : Criteria)
    (request : SortRequest) : Reply Row :=
  match r.composer? with
  | some c =>
    .prepared memo (r.bound c criteria request (some 1) none) fun q =>
      let o := r.persister.executeOne b q
      (o.calls, o.result)
  | none =>
    .prepared memo (PlainCriteria.select r.persister criteria request (some 1) none) fun n =>
      single (.one n.sql) (b.one n.sql)

/-- The number of entities that match criteria. -/
def countBy (r : Repository) (b : Backend) (memo : Memo) (criteria : Criteria) : Reply Int64 :=
  match r.composer? with
  | none => ⟨memo, [], .error (.misconfigured .countBy)⟩
  | some c =>
    .prepared memo (do (← r.bound c criteria [] none none).countForm) fun form =>
      ([Persister.scalarCall form], Persister.executeScalar b form)

/-- All rows of a query that is bound here and now. -/
def findByQuery (r : Repository) (b : Backend) (q : Query) : List Call × QueryResult (List Row) :=
  match q.bind r.persister with
  | .error e => ([], .error e)
  | .ok q =>
    let o := r.persister.execute b q
    (o.calls, o.result)

/-- All rows of a query in text. -/
def findByText (r : Repository) (b : Backend) (memo : Memo) (text : String) : Reply (List Row) :=
  match r.composer? with
  | none => ⟨memo, [], .error (.misconfigured .queryText)⟩
  | some c => .prepared memo (c.read text) (r.findByQuery b)

theorem persister_of_composer? {r : Repository} {c : Composer} (h : r.composer? = some c) :
    c.persister = r.persister := by
  simp only [composer?, Option.map_eq_some_iff] at h
  obtain ⟨_, _, rfl⟩ := h
  rfl

end Repository

end EntityQuery
