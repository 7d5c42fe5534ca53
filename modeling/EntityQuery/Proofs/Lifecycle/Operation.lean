import EntityQuery.Execution
import EntityQuery.Proofs.Result
import Mathlib.Logic.Relation

/-!
# Operations on a query

An operation is a public call on a query together with its arguments, so a backend and a persister
belong to the operation and may differ from one to the next. Its effect is total: a refused
operation leaves the query as it was. What operations can do to a query is said once, by the moves
below; everything that holds of all reachable queries is shown along moves.
-/

namespace EntityQuery

/-- A call on a query with its arguments. -/
inductive Operation where
  | setClause (name : String) (e : ClauseExpression)
  | setLimit (limit : Option Nat)
  | setOffset (offset : Option Nat)
  | bind (p : Persister)
  | native
  | countForm (memo : Memo)
  | execute (p : Persister) (b : Backend)
  | executeOne (p : Persister) (b : Backend)

/-- The query after an operation, the calls of the backend, and why the operation failed. -/
structure Effect where
  query : Query
  calls : List Call := []
  failure : Option QueryError := none

/-- The error of a result. -/
def failure? {α : Type} : QueryResult α → Option QueryError
  | .ok _ => none
  | .error e => some e

namespace Effect

/-- The effect of a change, which leaves the query as it was if it is refused. -/
def ofChange (q : Query) (r : QueryResult Query) : Effect :=
  match r with
  | .ok changed => { query := changed }
  | .error e => { query := q, failure := some e }

/-- The effect of a run. -/
def ofOutcome {α : Type} (o : Outcome α) : Effect := ⟨o.query, o.calls, failure? o.result⟩

end Effect

/-- Performs an operation. -/
def Operation.perform (q : Query) : Operation → Effect
  | setClause name e => .ofChange q (q.setClause name e)
  | setLimit limit => .ofChange q (q.setLimit limit)
  | setOffset offset => .ofChange q (q.setOffset offset)
  | bind p => .ofChange q (q.bind p)
  | native => ⟨q.native.2, [], failure? q.native.1⟩
  | countForm memo => ⟨q, [], failure? (q.countForm.perform memo).1⟩
  | execute p b => .ofOutcome (p.execute b q)
  | executeOne p b => .ofOutcome (p.executeOne b q)

namespace Query

/-- The operations of a run with their effects, each on the query that the one before it left. -/
def trace : Query → List Operation → List (Operation × Effect)
  | _, [] => []
  | q, op :: ops => (op, op.perform q) :: trace (op.perform q).query ops

/-- The queries that operations lead to from a new query, empty or put together from parts. -/
inductive Reachable : Query → Prop
  | empty : Reachable {}
  | ofParts (condition : Condition) (order : SortOrder) (limit offset : Option Nat) :
      Reachable (ofParts condition order limit offset)
  | step {q : Query} (h : Reachable q) (op : Operation) : Reachable (op.perform q).query

/-! ## Moves -/

/-- The ways in which a query changes. -/
inductive Move (q : Query) : Query → Prop
  | write (clauses : Clauses) (unbound : q.stage = .unbound) : Move q { q with clauses }
  | attach (p : Persister) (unbound : q.stage = .unbound) :
      Move q { q with persister? := some p, stage := .bound }
  | keep {p : Persister} {n : NativeQuery} (attached : q.persister? = some p)
      (fresh : q.native? = none) (lowered : p.lower q.clauses = .ok n) : Move q (q.keep n)
  | answer {p : Persister} {n : NativeQuery} (attached : q.persister? = some p)
      (kept : q.native? = some n) : Move q q.markExecuted

/-- Some moves one after the other. -/
abbrev Moves : Query → Query → Prop := Relation.ReflTransGen Move

section

variable {q r : Query}

theorem change_moves {f : Clauses → Clauses} (h : q.change f = .ok r) : Moves q r := by
  simp only [change] at h
  split at h
  · next unbound =>
      cases h
      exact .single (.write (f q.clauses) unbound)
  · cases h

theorem setClause_moves {name : String} {e : ClauseExpression} (h : q.setClause name e = .ok r) :
    Moves q r := by
  simp only [setClause] at h
  split at h
  · cases h
  · obtain ⟨changed, accepted, h⟩ := bind_eq_ok.1 h
    split at h
    · cases h
      exact change_moves accepted
    · cases h

theorem bind_moves {p : Persister} (h : q.bind p = .ok r) : Moves q r := by
  simp only [Query.bind] at h
  split at h
  · next unbound =>
      cases h
      exact .single (.attach p unbound)
  · cases h

/-- What a request for the statement gives: a refusal that leaves the query alone, or a statement
that the query keeps from then on. -/
theorem native_cases (q : Query) :
    (∃ e, q.native = (.error e, q)) ∨
      ∃ p n, q.native.1 = .ok n ∧ Moves q q.native.2 ∧ q.native.2.persister? = some p ∧
        q.native.2.native? = some n := by
  unfold native
  cases attached : q.persister? with
  | none => exact .inl ⟨_, rfl⟩
  | some p =>
      cases kept : q.native? with
      | some n => exact .inr ⟨p, n, rfl, .refl, attached, kept⟩
      | none =>
          cases lowered : p.lower q.clauses with
          | error e => exact .inl ⟨e, by simp only [lowered]⟩
          | ok n =>
              simp only [lowered]
              exact .inr ⟨p, n, rfl, .single (.keep attached kept lowered), attached, rfl⟩

theorem native_moves (q : Query) : Moves q q.native.2 := by
  obtain ⟨e, refused⟩ | ⟨p, n, -, moves, -, -⟩ := native_cases q
  · rw [refused]
  · exact moves

theorem runNative_moves {α : Type} (p : Persister) (q : Query)
    (change : NativeQuery → NativeQuery) (call : String → Call)
    (answer : String → Except BackendFailure α) :
    Moves q (p.runNative q change call answer).query := by
  unfold Persister.runNative
  split
  · obtain ⟨e, refused⟩ | ⟨bound, n, made, moves, attached, kept⟩ := native_cases q
    · rw [refused]
    · have outcome : q.native = (.ok n, q.native.2) := Prod.ext made rfl
      rw [outcome]
      dsimp only
      split
      · exact moves.tail (.answer attached kept)
      · exact moves
  · exact .refl

end

theorem ofChange_moves {q : Query} {result : QueryResult Query}
    (h : ∀ r, result = .ok r → Moves q r) : Moves q (Effect.ofChange q result).query := by
  cases result with
  | ok r => exact h r rfl
  | error e => exact .refl

/-- Every operation consists of moves, also where it fails. -/
theorem perform_moves (q : Query) (op : Operation) : Moves q (op.perform q).query := by
  cases op with
  | setClause name e => exact ofChange_moves fun _ => setClause_moves
  | setLimit limit => exact ofChange_moves fun _ => change_moves
  | setOffset offset => exact ofChange_moves fun _ => change_moves
  | bind p => exact ofChange_moves fun _ => bind_moves
  | native => exact native_moves q
  | countForm memo => exact .refl
  | execute p b => exact runNative_moves p q id .all b.all
  | executeOne p b => exact runNative_moves p q NativeQuery.single .one b.one

end Query

end EntityQuery
