import EntityQuery.Proofs.Lifecycle.Operation

/-!
# Coherence of queries

The stage, the persister and the statement of a query are kept in three places, and the statement
is a cached answer about a fourth, the clauses. In every reachable query they agree: the statement
that is kept is the one that the persister would make now. Since the clauses of a bound query stay
as they are, all of its runs send the same statement.
-/

namespace EntityQuery

/-- The statement that a persister makes has the text of its structure. -/
theorem Persister.sql_of_lower {p : Persister} {c : Clauses} {n : NativeQuery}
    (h : p.lower c = .ok n) : n.sql = n.select.text := by
  obtain ⟨select, -, rfl⟩ := map_eq_ok.1 h
  rfl

namespace Query

/-- What the stage of a query says about its persister and its statement. -/
structure Coherent (q : Query) : Prop where
  attached : q.persister? = none ↔ q.stage = .unbound
  made : q.native? = none ↔ q.stage = .unbound ∨ q.stage = .bound
  fresh : ∀ n, q.native? = some n →
    ∃ p, q.persister? = some p ∧ p.lower q.clauses = .ok n

section

variable {q r : Query} {p : Persister} {n : NativeQuery}

/-- An unbound query has neither a persister nor a statement. -/
theorem Coherent.of_unbound (persister : q.persister? = none) (native : q.native? = none)
    (stage : q.stage = .unbound) : Coherent q where
  attached := by simp [persister, stage]
  made := by simp [native, stage]
  fresh := by simp [native]

/-- A bound query without a statement is at the bound stage: the only one where making a statement
changes the stage. -/
theorem Coherent.stage_of_fresh (h : Coherent q) (attached : q.persister? = some p)
    (fresh : q.native? = none) : q.stage = .bound := by
  obtain unbound | bound := h.made.1 fresh
  · have := h.attached.2 unbound
    simp [attached] at this
  · exact bound

/-- Every move keeps coherence. -/
theorem Move.coherent (move : Move q r) (h : Coherent q) : Coherent r := by
  cases move with
  | write clauses unbound =>
      exact .of_unbound (h.attached.2 unbound) (h.made.2 (.inl unbound)) unbound
  | attach p unbound =>
      have fresh : q.native? = none := h.made.2 (.inl unbound)
      exact ⟨by simp, by simp [fresh], by simp [fresh]⟩
  | keep attached fresh lowered =>
      have stage := h.stage_of_fresh attached fresh
      refine ⟨?_, ?_, ?_⟩
      · simp [Query.keep, attached, stage]
      · simp [Query.keep, stage]
      · intro n kept
        cases kept
        exact ⟨_, attached, lowered⟩
  | answer attached kept =>
      exact ⟨by simp [markExecuted, attached], by simp [markExecuted, kept], h.fresh⟩

/-- Moves leave the persister and the clauses of a bound query alone. -/
theorem Move.frozen (move : Move q r) (h : Coherent q) (attached : q.persister? = some p) :
    r.persister? = some p ∧ r.clauses = q.clauses := by
  have bound : q.stage ≠ .unbound := by
    intro unbound
    have := h.attached.2 unbound
    simp [attached] at this
  cases move with
  | write clauses unbound => exact absurd unbound bound
  | attach p unbound => exact absurd unbound bound
  | keep _ _ _ => exact ⟨attached, rfl⟩
  | answer _ _ => exact ⟨attached, rfl⟩

theorem Moves.coherent (moves : Moves q r) (h : Coherent q) : Coherent r := by
  induction moves with
  | refl => exact h
  | tail _ move ih => exact move.coherent ih

theorem Moves.frozen (moves : Moves q r) (h : Coherent q) (attached : q.persister? = some p) :
    r.persister? = some p ∧ r.clauses = q.clauses := by
  induction moves with
  | refl => exact ⟨attached, rfl⟩
  | tail before move ih =>
      obtain ⟨kept, same⟩ := ih
      obtain ⟨kept, unchanged⟩ := move.frozen (Moves.coherent before h) kept
      exact ⟨kept, unchanged.trans same⟩

/-- Every reachable query is coherent. -/
theorem Reachable.coherent (h : Reachable q) : Coherent q := by
  induction h with
  | empty => exact .of_unbound rfl rfl rfl
  | ofParts => exact .of_unbound rfl rfl rfl
  | step _ op ih => exact Moves.coherent (perform_moves _ op) ih

/-! ## The statements that are sent -/

/-- The request for the statement of a coherent query gives what its persister makes of it now,
whether or not the statement is kept already. -/
theorem Coherent.native_eq (h : Coherent q) (attached : q.persister? = some p) :
    q.native.1 = p.lower q.clauses := by
  cases kept : q.native? with
  | some n =>
      obtain ⟨bound, same, lowered⟩ := h.fresh n kept
      obtain rfl : p = bound := Option.some.inj (attached.symm.trans same)
      simp only [native, attached, kept, lowered]
  | none =>
      cases lowered : p.lower q.clauses <;> simp only [native, attached, kept, lowered]

/-- The calls that follow from a statement: one if it can be made, else none. -/
def sent (statement : QueryResult NativeQuery) (call : NativeQuery → Call) : List Call :=
  match statement with
  | .ok n => [call n]
  | .error _ => []

theorem isBoundTo_iff {other : Persister} :
    q.isBoundTo other = true ↔ ∃ p, q.persister? = some p ∧ p.handle = other.handle := by
  cases attached : q.persister? <;> simp [isBoundTo, attached]

/-- A run through the persister of a query asks the backend for what the query is lowered to, and
hands out the answer. -/
theorem Coherent.runNative_eq (h : Coherent q) (attached : q.persister? = some p)
    {α : Type} {other : Persister} (same : other.handle = p.handle)
    (change : NativeQuery → NativeQuery) (call : String → Call)
    (answer : String → Except BackendFailure α) :
    other.runNative q change call answer =
      match p.lower q.clauses with
      | .error e => ⟨q.native.2, [], .error e⟩
      | .ok n =>
        match answer (change n).sql with
        | .ok a => ⟨q.native.2.markExecuted, [call (change n).sql], .ok a⟩
        | .error f => ⟨q.native.2, [call (change n).sql], .error f.toQueryError⟩ := by
  have bound : q.isBoundTo other = true := isBoundTo_iff.2 ⟨p, attached, same.symm⟩
  have request : q.native = (p.lower q.clauses, q.native.2) :=
    Prod.ext (h.native_eq attached) rfl
  rw [Persister.runNative, if_pos bound, request]
  cases p.lower q.clauses <;> rfl

/-- The answer of the backend has no say in what is sent. -/
theorem Coherent.runNative_calls (h : Coherent q) (attached : q.persister? = some p)
    {α : Type} {other : Persister} (same : other.handle = p.handle)
    (change : NativeQuery → NativeQuery) (call : String → Call)
    (answer : String → Except BackendFailure α) :
    (other.runNative q change call answer).calls =
      sent (p.lower q.clauses) fun n => call (change n).sql := by
  rw [h.runNative_eq attached same]
  cases p.lower q.clauses with
  | error e => rfl
  | ok n =>
      dsimp only
      cases answer (change n).sql <;> rfl

/-- The result is the backend's answer, where there is a statement. -/
theorem Coherent.runNative_result (h : Coherent q) (attached : q.persister? = some p)
    {α : Type} {other : Persister} (same : other.handle = p.handle)
    (change : NativeQuery → NativeQuery) (call : String → Call)
    (answer : String → Except BackendFailure α) :
    (other.runNative q change call answer).result =
      (p.lower q.clauses).bind fun n =>
        (answer (change n).sql).mapError BackendFailure.toQueryError := by
  rw [h.runNative_eq attached same]
  cases p.lower q.clauses with
  | error e => rfl
  | ok n =>
      simp only [Except.bind]
      cases answer (change n).sql <;> rfl

/-- What an operation sends for a query with this statement, if it is a run of it. -/
def Sends (p : Persister) (statement : QueryResult NativeQuery) (op : Operation)
    (calls : List Call) : Prop :=
  match op with
  | .execute other _ =>
    other.handle = p.handle → calls = sent statement fun n => .all n.select.text
  | .executeOne other _ =>
    other.handle = p.handle →
      calls = sent statement fun n => .one (n.select.paginated (some 1) n.select.offset).text
  | _ => calls = []

theorem Coherent.sends (h : Coherent q) (attached : q.persister? = some p) (op : Operation) :
    Sends p (p.lower q.clauses) op (op.perform q).calls := by
  have silent (result : QueryResult Query) : (Effect.ofChange q result).calls = [] := by
    cases result <;> rfl
  cases op with
  | setClause name e => exact silent _
  | setLimit limit => exact silent _
  | setOffset offset => exact silent _
  | bind p => exact silent _
  | native => rfl
  | countForm memo => rfl
  | execute other b =>
      intro same
      refine (h.runNative_calls attached same id .all b.all).trans ?_
      cases lowered : p.lower q.clauses with
      | error e => rfl
      | ok n => simp [sent, Persister.sql_of_lower lowered]
  | executeOne other b => exact fun same => h.runNative_calls attached same .single .one b.one

/-- Along any run of a bound query, every operation sends what the query at the start stands
for. -/
theorem Coherent.trace_sends (h : Coherent q) (attached : q.persister? = some p)
    (ops : List Operation) :
    ∀ s ∈ q.trace ops, Sends p (p.lower q.clauses) s.1 s.2.calls := by
  induction ops generalizing q with
  | nil => simp [trace]
  | cons op ops ih =>
      have moves := perform_moves q op
      obtain ⟨kept, same⟩ := Moves.frozen moves h attached
      have rest := ih (Moves.coherent moves h) kept
      rw [same] at rest
      simp only [trace, List.mem_cons]
      rintro s (rfl | later)
      · exact h.sends attached op
      · exact rest s later

/-- A run through a persister that the query is not bound to does nothing. -/
theorem runNative_foreign {other : Persister}
    (foreign : ∀ p, q.persister? = some p → p.handle ≠ other.handle) {α : Type}
    (change : NativeQuery → NativeQuery) (call : String → Call)
    (answer : String → Except BackendFailure α) :
    other.runNative q change call answer = ⟨q, [], .error .notBound⟩ := by
  rw [Persister.runNative, if_neg]
  intro bound
  obtain ⟨p, attached, same⟩ := isBoundTo_iff.1 bound
  exact foreign p attached same

end

/-- The life cycle of a query. In every reachable query, stage, persister and statement agree, and
the statement is the one that the persister makes of the clauses now. Hence every run of a bound
query, whatever operations stand between the runs and however they fail, sends that statement or
its cap at one row, and a run through another persister sends nothing. -/
theorem Reachable.lifecycle {q : Query} (h : Reachable q) :
    (q.persister?.isSome ↔ q.stage ≠ .unbound) ∧
      (q.native?.isSome ↔ q.stage = .lowered ∨ q.stage = .executed) ∧
      (∀ n, q.native? = some n →
        ∃ p, q.persister? = some p ∧ p.lower q.clauses = .ok n ∧ n.sql = n.select.text) ∧
      (∀ p, q.persister? = some p → ∀ ops, ∀ s ∈ q.trace ops,
        Sends p (p.lower q.clauses) s.1 s.2.calls) ∧
      ∀ other b, (∀ p, q.persister? = some p → p.handle ≠ other.handle) →
        (Operation.execute other b).perform q = ⟨q, [], some .notBound⟩ ∧
          (Operation.executeOne other b).perform q = ⟨q, [], some .notBound⟩ := by
  have coherent := h.coherent
  refine ⟨?_, ?_, ?_, fun p attached ops => coherent.trace_sends attached ops, ?_⟩
  · rw [Option.isSome_iff_ne_none, ne_eq, coherent.attached]
  · rw [Option.isSome_iff_ne_none, ne_eq, coherent.made]
    cases q.stage <;> simp
  · intro n kept
    obtain ⟨p, attached, lowered⟩ := coherent.fresh n kept
    exact ⟨p, attached, lowered, Persister.sql_of_lower lowered⟩
  · intro other b foreign
    simp only [Operation.perform, Effect.ofOutcome, Persister.execute, Persister.executeOne,
      runNative_foreign foreign, failure?, and_self]

/-- A persister of users. -/
def users : Persister where
  handle := 1
  catalog := ⟨[⟨"User", "users", none, ["id"], []⟩]⟩
  entity := "User"
  casing := .lower

/-- The first ten adults, bound to the persister of users. -/
def adults : Query :=
  let unbound := ofParts (.comparison "age" .gtEq (.integer 18)) [] (some 10) none
  ((Operation.bind users).perform unbound).query

/-- Whatever happens to the query of the first ten adults, running it sends the statement of the
first ten adults. -/
theorem adults_lifecycle :
    Reachable adults ∧
      ∀ ops b effect, (Operation.execute users b, effect) ∈ adults.trace ops →
        effect.calls = [.all "SELECT e.* FROM users e WHERE e.age >= 18 LIMIT 10"] := by
  have reachable : Reachable adults := .step (.ofParts _ _ _ _) (.bind users)
  refine ⟨reachable, fun ops b effect performed => ?_⟩
  obtain ⟨-, -, -, sends, -⟩ := reachable.lifecycle
  refine (sends users rfl ops _ performed rfl).trans ?_
  rfl

end Query

end EntityQuery
