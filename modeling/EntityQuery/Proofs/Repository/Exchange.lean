import EntityQuery.Proofs.Refusal
import EntityQuery.Repository

/-!
# The calls of a request

A request to a repository ends in one of two ways. It is refused while its statement is prepared, and
nothing has been sent; or one call is made, and the answer of the backend, or its failure, is the
result. So the result alone tells how many calls there were. This holds for any backend, whatever is
remembered, and for queries in any stage.
-/

namespace EntityQuery

open Lookup

/-- Whether an error says how a backend has failed. -/
def QueryError.isFailure : QueryError → Bool
  | notFound | nonUniqueResult | backend _ => true
  | _ => false

/-- A refusal is no failure of a backend. -/
theorem QueryError.isFailure_of_isRefusal {e : QueryError} (h : e.isRefusal) :
    e.isFailure = false := by
  cases e <;> first | rfl | cases h

/-- What goes wrong with a call is a failure of the backend. -/
theorem BackendFailure.isFailure_of_mapError {α : Type} {answer : Except BackendFailure α}
    {e : QueryError} (h : answer.mapError toQueryError = .error e) : e.isFailure := by
  cases answer with
  | ok a => cases h
  | error f =>
      cases h
      cases f <;> rfl

/-- What a backend answers to a call. -/
inductive Backend.Gives (b : Backend) : {α : Type} → Call → Except BackendFailure α → Prop
  | all (sql : String) : Gives b (.all sql) (b.all sql)
  | one (sql : String) : Gives b (.one sql) (b.one sql)
  | scalar (sql : String) (column : Option String) :
    Gives b (.scalar sql column) (b.scalar sql column)

/-- The calls and the result of a request: none and a refusal, or one and its answer. -/
inductive Exchange {α : Type} (b : Backend) : List Call → QueryResult α → Prop
  | refused {e : QueryError} (h : e.isRefusal) : Exchange b [] (.error e)
  | answered {call : Call} {answer : Except BackendFailure α} (given : b.Gives call answer) :
    Exchange b [call] (answer.mapError BackendFailure.toQueryError)

/-- A bound query has a statement, or there is none because of what it asks for. -/
theorem Query.refusable_native {q : Query} {p : Persister} (bound : q.persister? = some p) :
    QueryResult.Refusable q.native.1 := by
  rw [native, bound]
  cases q.native? with
  | some n => exact .ok trivial
  | none =>
      have selected := p.refusable_select q.clauses
      dsimp only [Persister.lower]
      generalize p.select q.clauses = result at selected
      cases selected with
      | ok _ => exact .ok trivial
      | refused refusal => exact .refused refusal

namespace Exchange

variable {α β : Type} {b : Backend}

/-- A request that prepares something it can make a call with, or is refused. -/
theorem prepared {P : β → Prop} {prepare : Lookup β} {run : β → List Call × QueryResult α}
    (prepares : prepare.Yields P) (runs : ∀ x, P x → Exchange b (run x).1 (run x).2)
    (memo : Memo) :
    Exchange b (Reply.prepared memo prepare run).calls (Reply.prepared memo prepare run).result := by
  have first := prepares memo
  rw [Reply.prepared]
  cases done : prepare.perform memo with
  | mk result after =>
      rw [done] at first
      cases first with
      | ok property => exact runs _ property
      | refused refusal => exact .refused refusal

/-- A run of a query that is bound to the persister that runs it. -/
theorem runNative {p : Persister} {q : Query} {call : String → Call}
    {ask : String → Except BackendFailure α} (bound : q.persister? = some p)
    (gives : ∀ sql, b.Gives (call sql) (ask sql)) (change : NativeQuery → NativeQuery) :
    Exchange b (p.runNative q change call ask).calls (p.runNative q change call ask).result := by
  have here : q.isBoundTo p = true := by simp [Query.isBoundTo, bound]
  have made := Query.refusable_native bound
  rw [Persister.runNative, if_pos here]
  generalize q.native = request at made
  obtain ⟨result, after⟩ := request
  cases made with
  | refused refusal => exact .refused refusal
  | @ok n _ =>
      have given := gives (change n).sql
      dsimp only
      generalize ask (change n).sql = answer at given
      cases answer <;> exact .answered given

theorem execute {p : Persister} {q : Query} (bound : q.persister? = some p) :
    Exchange b (p.execute b q).calls (p.execute b q).result :=
  runNative bound .all id

theorem executeOne {p : Persister} {q : Query} (bound : q.persister? = some p) :
    Exchange b (p.executeOne b q).calls (p.executeOne b q).result :=
  runNative bound .one NativeQuery.single

theorem executeScalar (f : CountForm) :
    Exchange b [Persister.scalarCall f] (Persister.executeScalar b f) := by
  have given := Backend.Gives.scalar (b := b) f.native.sql f.scalarColumn?
  rw [Persister.executeScalar]
  generalize b.scalar f.native.sql f.scalarColumn? = answer at given
  cases answer <;> exact .answered given

section

variable {calls : List Call} {result : QueryResult α}

theorem length_le_one (h : Exchange b calls result) : calls.length ≤ 1 := by
  cases h with
  | refused => exact Nat.zero_le 1
  | answered => exact Nat.le_refl 1

theorem length_eq_zero_iff (h : Exchange b calls result) :
    calls.length = 0 ↔ ∃ e, result = .error e ∧ e.isRefusal := by
  cases h with
  | @refused e refusal => exact iff_of_true rfl ⟨e, rfl, refusal⟩
  | answered =>
      refine iff_of_false Nat.one_ne_zero ?_
      rintro ⟨e, failed, refusal⟩
      have failure := BackendFailure.isFailure_of_mapError failed
      rw [QueryError.isFailure_of_isRefusal refusal] at failure
      cases failure

theorem length_eq_one_iff (h : Exchange b calls result) :
    calls.length = 1 ↔ ∀ e, result = .error e → e.isFailure := by
  cases h with
  | @refused e refusal =>
      refine iff_of_false Nat.zero_ne_one fun failures => ?_
      have failure := failures e rfl
      rw [QueryError.isFailure_of_isRefusal refusal] at failure
      cases failure
  | answered => exact iff_of_true rfl fun e => BackendFailure.isFailure_of_mapError

/-- Whatever was called has given the result. -/
theorem exists_answer (h : Exchange b calls result) : ∀ call ∈ calls,
    ∃ answer : Except BackendFailure α,
      b.Gives call answer ∧ result = answer.mapError BackendFailure.toQueryError := by
  cases h with
  | refused => exact List.forall_mem_nil _
  | @answered call answer given => simpa using ⟨answer, given, rfl⟩

end

end Exchange

namespace Repository

variable {r : Repository} {c : Composer} {b : Backend}

/-- A composed query is bound to the repository's persister. -/
theorem yields_bound (criteria : Criteria) (request : SortRequest) (limit offset : Option Nat) :
    Lookup.Yields (·.persister? = some r.persister)
      (r.bound c criteria request limit offset) := by
  refine (Composer.yields_compose criteria request limit offset).bind fun q unbound => ?_
  rw [Query.bind, unbound]
  exact .ofResult (.ok rfl)

theorem refusable_count (criteria : Criteria) :
    Lookup.Refusable (do (← r.bound c criteria [] none none).countForm) := by
  refine (yields_bound criteria [] none none).bind fun q bound => ?_
  rw [Query.countForm, bound]
  exact Persister.refusable_countForm q.clauses

/-- A query in any stage is bound and run, or refused because it has been bound before. -/
theorem exchange_findByQuery (q : Query) :
    Exchange b (r.findByQuery b q).1 (r.findByQuery b q).2 := by
  rw [findByQuery, Query.bind]
  cases q.stage with
  | unbound => exact Exchange.execute rfl
  | _ => exact .refused rfl

/-- A request to a repository, by what it gives if it succeeds. -/
inductive Request : Type → Type
  | findBy (criteria : Criteria) (request : SortRequest) (limit offset : Option Nat) :
    Request (List Row)
  | findOneBy (criteria : Criteria) (request : SortRequest) : Request Row
  | countBy (criteria : Criteria) : Request Int64
  | findByQuery (q : Query) : Request (List Row)
  | findByText (text : String) : Request (List Row)

namespace Request

/-- What a request leaves behind. -/
def perform {α : Type} (r : Repository) (b : Backend) (memo : Memo) : Request α → Reply α
  | findBy criteria request limit offset => r.findBy b memo criteria request limit offset
  | findOneBy criteria request => r.findOneBy b memo criteria request
  | countBy criteria => r.countBy b memo criteria
  | findByQuery q => ⟨memo, (r.findByQuery b q).1, (r.findByQuery b q).2⟩
  | findByText text => r.findByText b memo text

/-- Every request is refused before any call, or makes one. -/
theorem exchange {α : Type} (r : Repository) (b : Backend) (memo : Memo) (request : Request α) :
    Exchange b (request.perform r b memo).calls (request.perform r b memo).result := by
  cases request with
  | findBy criteria request limit offset =>
      rw [perform, Repository.findBy]
      split
      · exact .prepared (yields_bound criteria request limit offset)
          (fun q bound => .execute bound) memo
      · exact .prepared (PlainCriteria.refusable_select criteria request limit offset)
          (fun n _ => .answered (.all n.sql)) memo
  | findOneBy criteria request =>
      rw [perform, Repository.findOneBy]
      split
      · exact .prepared (yields_bound criteria request (some 1) none)
          (fun q bound => .executeOne bound) memo
      · exact .prepared (PlainCriteria.refusable_select criteria request (some 1) none)
          (fun n _ => .answered (.one n.sql)) memo
  | countBy criteria =>
      rw [perform, Repository.countBy]
      split
      · exact .refused rfl
      · exact .prepared (refusable_count criteria) (fun form _ => .executeScalar form) memo
  | findByQuery q => exact exchange_findByQuery q
  | findByText text =>
      rw [perform, Repository.findByText]
      split
      · exact .refused rfl
      · exact .prepared (QueryText.refusable_query text) (fun q _ => exchange_findByQuery q) memo

/-- A request makes at most one call: none exactly if it is refused, and one exactly if it succeeds or
the backend fails. The result is what the backend answers to this call. -/
theorem calls_of_perform {α : Type} (r : Repository) (b : Backend) (memo : Memo)
    (request : Request α) :
    let reply := request.perform r b memo
    reply.calls.length ≤ 1 ∧
      (reply.calls.length = 0 ↔ ∃ e, reply.result = .error e ∧ e.isRefusal) ∧
      (reply.calls.length = 1 ↔ ∀ e, reply.result = .error e → e.isFailure) ∧
      ∀ call ∈ reply.calls, ∃ answer : Except BackendFailure α,
        b.Gives call answer ∧ reply.result = answer.mapError BackendFailure.toQueryError := by
  have exchanged := exchange r b memo request
  exact ⟨exchanged.length_le_one, exchanged.length_eq_zero_iff, exchanged.length_eq_one_iff,
    exchanged.exists_answer⟩

end Request

end Repository

end EntityQuery
