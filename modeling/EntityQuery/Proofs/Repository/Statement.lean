import EntityQuery.Proofs.Filter.Shape
import EntityQuery.Proofs.Memory.Operation
import EntityQuery.Repository

/-!
# The statement of a request

A request to a repository comes down to one statement or to the error that keeps it from being made,
and neither depends on the backend or on what the persister remembers. A request sends exactly this
statement, once, and hands out what the backend answers; without a statement it sends nothing.
-/

namespace EntityQuery

open Lookup

namespace Repository

/-- What is sent for a statement, and what is handed out. -/
def answer {α : Type} (statement : QueryResult Sql.Select) (call : String → Call)
    (ask : String → Except BackendFailure α) : List Call × QueryResult α :=
  match statement with
  | .ok s => single (call s.text) (ask s.text)
  | .error e => ([], .error e)

/-- What is answered for a statement has one call with its text, or none. -/
theorem calls_of_answer {α : Type} {statement : QueryResult Sql.Select} {call : String → Call}
    {ask : String → Except BackendFailure α} {reply : Reply α}
    (answered : (reply.calls, reply.result) = answer statement call ask) :
    reply.calls = [] ∨ ∃ s, statement = .ok s ∧ reply.calls = [call s.text] := by
  have calls := congrArg Prod.fst answered
  cases statement with
  | error e => exact .inl calls
  | ok s => exact .inr ⟨s, rfl, calls⟩

/-- Running a query that has just been bound sends the statement of its clauses, if the change in
front of the run leaves this statement alone. -/
theorem runNative_eq_answer {α : Type} (p : Persister) (c : Clauses)
    {change : NativeQuery → NativeQuery} {call : String → Call}
    {ask : String → Except BackendFailure α}
    (kept : ∀ s, p.select c = .ok s → (change { select := s }).sql = s.text) :
    let o := p.runNative { clauses := c, stage := .bound, persister? := some p } change call ask
    (o.calls, o.result) = answer (p.select c) call ask := by
  have here : Query.isBoundTo { clauses := c, stage := .bound, persister? := some p } p = true := by
    simp [Query.isBoundTo]
  intro o
  simp only [o, Persister.runNative, here, if_true, Query.native, Persister.lower]
  cases made : p.select c with
  | error e => rfl
  | ok s =>
      simp only [Except.map, kept s made, answer, single]
      cases ask s.text with
      | error failure => rfl
      | ok a => rfl

variable (r : Repository)

/-- The statement that criteria come down to, or why there is none. -/
def statement (criteria : Criteria) (request : SortRequest) (limit offset : Option Nat) :
    QueryResult Sql.Select :=
  match r.composer? with
  | some c => (c.compose criteria request limit offset).fresh.bind fun q =>
    r.persister.select q.clauses
  | none => (PlainCriteria.select r.persister criteria request limit offset).fresh.map (·.select)

variable {r} {c : Composer} {memo : Memo} {criteria : Criteria} {request : SortRequest}
  {limit offset : Option Nat}

/-- With a parser, the filter is that of the condition of the criteria and their text. -/
theorem statement_of_composer (installed : r.composer? = some c) :
    r.statement criteria request limit offset = (do
      let condition ← (Criteria.condition r.persister c.reservedKey criteria).fresh
      let order ← (Criteria.order r.persister request).fresh
      let base ← (c.base? criteria).fresh
      let filter ← Lowering.filter (Composer.merge base condition)
      let table ← r.persister.rootTable
      .ok ⟨false, [.allOf rootAlias], some table, filter, Lowering.order order, limit,
        offset⟩) := by
  rw [statement, installed]
  dsimp only
  rw [Composer.fresh_compose, persister_of_composer? installed]
  cases (Criteria.condition r.persister c.reservedKey criteria).fresh with
  | error e => rfl
  | ok condition =>
      cases (Criteria.order r.persister request).fresh with
      | error e => rfl
      | ok order => cases (c.base? criteria).fresh <;> rfl

/-- Without a parser, the filter is chained of the entries of the criteria. -/
theorem statement_of_plain (none : r.composer? = none) :
    r.statement criteria request limit offset =
      if (criteria.lookup defaultReservedKey).isSome then
        .error (.misconfigured (.baseQueryKey defaultReservedKey))
      else (do
        let entries ← criteria.mapM fun x => (PlainCriteria.entry r.persister x.1 x.2).fresh
        let order ← (Criteria.order r.persister request).fresh
        let table ← r.persister.rootTable
        .ok ⟨false, [.allOf rootAlias], some table, PlainCriteria.filter entries,
          Lowering.order order, limit, offset⟩) := by
  rw [statement, none]
  dsimp only
  rw [PlainCriteria.fresh_select]
  split
  · rfl
  · cases criteria.mapM fun x => (PlainCriteria.entry r.persister x.1 x.2).fresh with
    | error e => rfl
    | ok entries =>
        cases (Criteria.order r.persister request).fresh with
        | error e => rfl
        | ok order => cases r.persister.rootTable <;> rfl

/-- A prepared request does with the settled result what it would do without a memory. -/
theorem prepared_eq {α β : Type} {prepare : Lookup β} (settled : Settled r.persister prepare)
    (h : r.persister.Remembers memo) (run : β → List Call × QueryResult α) :
    ((Reply.prepared memo prepare run).calls, (Reply.prepared memo prepare run).result) =
      match prepare.fresh with
      | .ok b => run b
      | .error e => ([], .error e) := by
  have same := h.perform_eq settled
  rw [Reply.prepared, ← same]
  cases prepare.perform memo with
  | mk result after => cases result <;> rfl

/-- A composed query is new and has the page of the request. -/
theorem eq_of_compose {q : Query} (h : (c.compose criteria request limit offset).fresh = .ok q) :
    q = { clauses := q.clauses } ∧ q.clauses.limit = limit ∧ q.clauses.offset = offset := by
  rw [Composer.fresh_compose] at h
  obtain ⟨condition, -, h⟩ := bind_eq_ok.1 h
  obtain ⟨order, -, h⟩ := bind_eq_ok.1 h
  obtain ⟨base, -, h⟩ := bind_eq_ok.1 h
  cases h
  exact ⟨rfl, rfl, rfl⟩

theorem settled_compose (installed : r.composer? = some c) :
    Settled r.persister (c.compose criteria request limit offset) := by
  rw [← persister_of_composer? installed]
  exact Composer.settled_compose criteria request limit offset

theorem settled_bound (installed : r.composer? = some c) :
    Settled r.persister (r.bound c criteria request limit offset) :=
  (settled_compose installed).bind fun _ => .ofResult _ _

theorem fresh_bound (installed : r.composer? = some c) :
    (r.bound c criteria request limit offset).fresh =
      (c.compose criteria request limit offset).fresh.map fun q =>
        { clauses := q.clauses, stage := .bound, persister? := some r.persister } := by
  rw [bound, fresh_bind (settled_compose installed) fun _ => .ofResult _ _]
  cases composed : (c.compose criteria request limit offset).fresh with
  | error e => rfl
  | ok q =>
      obtain ⟨new, -⟩ := eq_of_compose composed
      rw [new]
      rfl

/-- A request through a composer binds the composed query and runs it. -/
theorem prepared_bound {α : Type} (h : r.persister.Remembers memo)
    (installed : r.composer? = some c) {change : NativeQuery → NativeQuery}
    {call : String → Call} {ask : String → Except BackendFailure α}
    (kept : ∀ s : Sql.Select, s.limit = limit → s.offset = offset →
      (change { select := s }).sql = s.text) :
    let run (q : Query) : List Call × QueryResult α :=
      ((r.persister.runNative q change call ask).calls,
        (r.persister.runNative q change call ask).result)
    let reply := Reply.prepared memo (r.bound c criteria request limit offset) run
    (reply.calls, reply.result) =
      answer (r.statement criteria request limit offset) call ask := by
  intro run reply
  rw [prepared_eq (settled_bound installed) h, fresh_bound installed, statement, installed]
  dsimp only
  cases composed : (c.compose criteria request limit offset).fresh with
  | error e => rfl
  | ok q =>
      obtain ⟨-, sameLimit, sameOffset⟩ := eq_of_compose composed
      refine runNative_eq_answer r.persister q.clauses fun s made => ?_
      obtain ⟨limited, shifted⟩ := Persister.page_of_select made
      exact kept s (limited.trans sameLimit) (shifted.trans sameOffset)

/-- A request without a parser runs the statement of plain criteria. -/
theorem prepared_plain {α : Type} (h : r.persister.Remembers memo) (none : r.composer? = none)
    {call : String → Call} {ask : String → Except BackendFailure α} :
    let reply := Reply.prepared memo
      (PlainCriteria.select r.persister criteria request limit offset) fun n =>
        single (call n.sql) (ask n.sql)
    (reply.calls, reply.result) =
      answer (r.statement criteria request limit offset) call ask := by
  intro reply
  rw [prepared_eq (PlainCriteria.settled_select criteria request limit offset) h, statement, none]
  dsimp only
  cases made : (PlainCriteria.select r.persister criteria request limit offset).fresh with
  | error e => rfl
  | ok n =>
      dsimp only [Except.map, answer]
      rw [PlainCriteria.sql_of_select made]

/-- Finding all rows asks the backend once for all rows of the statement, or not at all. -/
theorem findBy_eq_answer (b : Backend) (h : r.persister.Remembers memo) :
    ((r.findBy b memo criteria request limit offset).calls,
        (r.findBy b memo criteria request limit offset).result) =
      answer (r.statement criteria request limit offset) .all b.all := by
  rw [findBy]
  split
  · next c installed => exact prepared_bound h installed fun s _ _ => rfl
  · next none => exact prepared_plain h none

/-- Finding one row asks the backend once for the one row of the statement of the first row, or not
at all. -/
theorem findOneBy_eq_answer (b : Backend) (h : r.persister.Remembers memo) :
    ((r.findOneBy b memo criteria request).calls, (r.findOneBy b memo criteria request).result) =
      answer (r.statement criteria request (some 1) none) .one b.one := by
  rw [findOneBy]
  split
  · next c installed =>
      refine prepared_bound h installed fun s limited _ => ?_
      rw [NativeQuery.single, NativeQuery.paginated, ← limited, Sql.Select.paginated_self]
  · next none => exact prepared_plain h none

/-- Finding the rows of query text asks the backend once for all rows of the statement of the query
in it, or not at all. -/
theorem findByText_eq_answer (b : Backend) (h : r.persister.Remembers memo)
    (installed : r.composer? = some c) (text : String) :
    ((r.findByText b memo text).calls, (r.findByText b memo text).result) =
      answer ((QueryText.query r.persister text).fresh >>= fun q => r.persister.select q.clauses)
        .all b.all := by
  have settled : Settled r.persister (c.read text) := by
    rw [Composer.read, persister_of_composer? installed]
    exact QueryText.settled_query text
  rw [findByText, installed]
  dsimp only
  rw [prepared_eq settled h, Composer.read, persister_of_composer? installed]
  cases read : (QueryText.query r.persister text).fresh with
  | error e => rfl
  | ok q =>
      dsimp only [findByQuery]
      rw [QueryText.eq_of_query read]
      exact runNative_eq_answer r.persister q.clauses fun s _ => rfl

/-- The counting statement that criteria come down to with a parser, or why there is none. -/
def countForm (r : Repository) (c : Composer) (criteria : Criteria) : QueryResult CountForm := do
  let q ← (c.compose criteria [] none none).fresh
  (r.persister.countForm q.clauses).fresh

/-- Counting asks the backend once for the number that the counting statement gives, or not at
all. -/
theorem countBy_eq (b : Backend) (h : r.persister.Remembers memo)
    (installed : r.composer? = some c) (criteria : Criteria) :
    ((r.countBy b memo criteria).calls, (r.countBy b memo criteria).result) =
      match r.countForm c criteria with
      | .ok form => ([Persister.scalarCall form], Persister.executeScalar b form)
      | .error e => ([], .error e) := by
  have counted : ((r.bound c criteria [] none none >>= Query.countForm).perform memo).1 =
      r.countForm c criteria := by
    obtain ⟨same, kept⟩ := settled_bound installed memo h.agrees
    rw [fresh_bound installed] at same
    rw [perform_bind, countForm]
    cases done : (r.bound c criteria [] none none).perform memo with
    | mk result after =>
        rw [done] at same kept
        cases composed : (c.compose criteria [] none none).fresh with
        | error e =>
            rw [composed] at same
            cases same
            rfl
        | ok q =>
            rw [composed] at same
            cases same
            exact (Persister.settled_countForm q.clauses after kept).1
  rw [countBy, installed]
  dsimp only
  rw [Reply.prepared, ← counted]
  cases (r.bound c criteria [] none none >>= Query.countForm).perform memo with
  | mk result after => cases result <;> rfl

end Repository

end EntityQuery
