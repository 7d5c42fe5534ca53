import EntityQuery.Proofs.Memory.Operation
import EntityQuery.Proofs.Resolution.Interleaving
import Mathlib.Data.List.Induction

/-!
# Histories of a persister

A history is any sequence of operations of one persister, each of which may succeed or fail. What
the persister remembers after it changes no result: the next operation comes to what it would come
to in a persister that is made anew. Memory does decide how often the catalog is asked for fields.
The questions are told by the resolutions that a history consists of, and a field for which one of
them has found an answer is not asked for again.
-/

namespace EntityQuery

/-! ## Questions -/

/-- Whether a question has found the field of a name. -/
def Question.finds (name : FieldName) (q : Question) : Bool := q.name = name && q.answer.isSome

namespace FieldCache

variable {catalog : Catalog} {before cache after : FieldCache} {name other : FieldName}
  {log : List Question}

/-- Resolutions one after the other, with all that they ask the catalog. -/
inductive Asks (catalog : Catalog) (before : FieldCache) : List Question → FieldCache → Prop
  | nothing : Asks catalog before [] before
  | resolution {log : List Question} {cache : FieldCache} (earlier : Asks catalog before log cache)
    (name : FieldName) :
    Asks catalog before (log ++ cache.questions catalog name)
      (cache.resolve catalog name.entity name.field).2

theorem Asks.trans {further : List Question} (first : Asks catalog before log cache)
    (second : Asks catalog cache further after) : Asks catalog before (log ++ further) after := by
  induction second with
  | nothing => simpa using first
  | resolution _ name ih =>
      rw [← List.append_assoc]
      exact ih.resolution name

/-- What a resolution asks, and what is remembered after it. -/
theorem resolve_cases (cache : FieldCache) (catalog : Catalog) (name : FieldName) :
    (∃ mapping, cache.at? name = some mapping ∧ cache.questions catalog name = [] ∧
      (cache.resolve catalog name.entity name.field).2 = cache) ∨
    cache.at? name = none ∧
      cache.questions catalog name = [⟨name, catalog.mapping? name.entity name.field⟩] ∧
      (cache.resolve catalog name.entity name.field).2.lookups = cache.lookups + 1 ∧
      ∀ other, (cache.resolve catalog name.entity name.field).2.at? other =
        if other = name then catalog.mapping? name.entity name.field else cache.at? other := by
  cases present : cache.at? name with
  | some mapping =>
      refine .inl ⟨mapping, rfl, by rw [questions, present], ?_⟩
      rw [resolve_of_find? present]
  | none =>
      refine .inr ⟨rfl, by rw [questions, present], ?_⟩
      have absent : cache.find? name.entity name.field = none := present
      cases known : catalog.mapping? name.entity name.field with
      | none =>
          simp only [resolve, absent, known]
          refine ⟨rfl, fun other => ?_⟩
          split
          · next same => rw [same]; exact present
          · rfl
      | some mapping =>
          have asked : cache.countLookup.at? name = none := present
          simp only [resolve, absent, known, keep_of_none asked]
          exact ⟨rfl, fun other => at?_cons⟩

/-- Every question is counted. -/
theorem Asks.lookups (h : Asks catalog before log after) :
    after.lookups = before.lookups + log.length := by
  induction h with
  | nothing => rfl
  | resolution _ name ih =>
      obtain ⟨_, _, asked, same⟩ | ⟨_, asked, counted, _⟩ := resolve_cases _ catalog name
      · rw [asked, same, ih, List.append_nil]
      · rw [asked, counted, ih, List.length_append]
        rfl

/-- Of all questions for a field, one finds it if it is remembered afterwards and was not before, and
otherwise none. -/
theorem Asks.countP_finds (h : Asks catalog before log after) (name : FieldName) :
    log.countP (·.finds name) + (before.at? name).isSome.toNat = (after.at? name).isSome.toNat := by
  induction h with
  | nothing => rw [List.countP_nil, Nat.zero_add]
  | @resolution log cache _ asked ih =>
      rw [List.countP_append]
      obtain ⟨_, _, question, same⟩ | ⟨absent, question, -, remembered⟩ :=
        resolve_cases cache catalog asked
      · rw [question, same, List.countP_nil, Nat.add_zero, ih]
      · rw [question, remembered, List.countP_singleton, Question.finds]
        by_cases same : name = asked
        · subst same
          rw [absent] at ih
          cases catalog.mapping? name.entity name.field with
          | none => simpa using ih
          | some mapping =>
              simp only [decide_true, Option.isSome_some, Bool.and_self, if_true, Bool.toNat_true]
              have none : log.countP (·.finds name) + (before.at? name).isSome.toNat = 0 := ih
              omega
        · simpa [same, Ne.symm same] using ih

end FieldCache

/-- Whatever an operation is built of, it changes the field cache by resolutions. -/
theorem Lookup.Built.asks {α : Type} {p : Persister} {l : Lookup α} (h : Built p l)
    (memo : Memo) :
    ∃ log, FieldCache.Asks p.catalog memo.fields log (l.perform memo).2.fields := by
  induction h generalizing memo with
  | ofResult r => exact ⟨[], .nothing⟩
  | resolve entity field => exact ⟨_, FieldCache.Asks.nothing.resolution ⟨entity, field⟩⟩
  | identity _ columns =>
      cases remembered : memo.identity with
      | some i =>
          rw [Persister.identity_perform_of_some remembered]
          exact ⟨[], .nothing⟩
      | none =>
          obtain ⟨log, asks⟩ := columns memo
          refine ⟨log, ?_⟩
          rw [Persister.identity_perform_of_none remembered]
          cases done : p.identityColumns.perform memo with
          | mk result after =>
              rw [done] at asks
              cases result <;> exact asks
  | @bind _ _ l f _ _ first second =>
      obtain ⟨log, asks⟩ := first memo
      rw [perform_bind]
      cases done : l.perform memo with
      | mk result middle =>
          rw [done] at asks
          cases result with
          | error e => exact ⟨log, asks⟩
          | ok a =>
              obtain ⟨further, asksFurther⟩ := second a middle
              exact ⟨log ++ further, asks.trans asksFurther⟩
  | adapt g _ first => exact first memo

/-! ## Operations -/

/-- An operation of a persister with its arguments: a request that may use what is remembered, or
the lowering of clauses, which does not. -/
inductive Persister.Task where
  | request (r : Persister.Request)
  | lower (clauses : Clauses)

namespace Persister

/-- What an operation comes to if it succeeds. -/
def Task.Result : Task → Type
  | request r => r.Result
  | lower _ => NativeQuery

variable (p : Persister)

/-- A task as an operation on what is remembered. -/
def Task.operation : (t : Task) → Lookup t.Result
  | request r => r.operation p
  | lower clauses => Lookup.ofResult (p.lower clauses)

/-- What a persister that is made anew remembers after a history. -/
def memory (history : List Task) : Memo :=
  history.foldl (fun memo t => ((t.operation p).perform memo).2) {}

variable {p}

open Lookup

theorem Task.built_operation (t : Task) : Built p (t.operation p) := by
  cases t with
  | request r => exact r.built_operation
  | lower clauses => exact .ofResult _

theorem memory_append_singleton (history : List Task) (t : Task) :
    p.memory (history ++ [t]) = ((t.operation p).perform (p.memory history)).2 := by
  rw [memory, List.foldl_append]
  rfl

theorem Remembers.perform {memo : Memo} (h : p.Remembers memo) (t : Task) :
    p.Remembers ((t.operation p).perform memo).2 := by
  cases t with
  | request r =>
      have after := h.after r
      rw [← r.perform_operation] at after
      exact after
  | lower clauses => exact h

/-- What is remembered after a history comes from requests. -/
theorem remembers_memory (history : List Task) : p.Remembers (p.memory history) := by
  induction history using List.reverseRecOn with
  | nil => exact .nothing
  | append_singleton history t ih =>
      rw [memory_append_singleton]
      exact ih.perform t

/-- A history changes the field cache by resolutions. -/
theorem asks_memory (history : List Task) :
    ∃ log, FieldCache.Asks p.catalog {} log (p.memory history).fields := by
  induction history using List.reverseRecOn with
  | nil => exact ⟨[], .nothing⟩
  | append_singleton history t ih =>
      obtain ⟨log, asks⟩ := ih
      obtain ⟨further, asksFurther⟩ := t.built_operation.asks (p.memory history)
      rw [memory_append_singleton]
      exact ⟨log ++ further, asks.trans asksFurther⟩

/-! ## Persisters that are made anew -/

theorem comparison_congr {q : Persister} (same : p.resolve = q.resolve) :
    QueryText.comparison p = QueryText.comparison q := by
  funext text target op value
  rw [QueryText.comparison, QueryText.comparison, same]

/-- A condition is read through resolutions only. -/
theorem narrow_congr {q : Persister} (same : p.resolve = q.resolve) (text : List Char)
    (e : ConditionText.Expr) : QueryText.narrow p text e = QueryText.narrow q text e := by
  induction e using QueryText.narrow.induct with
  | case1 left right ihl ihr => rw [QueryText.narrow, QueryText.narrow, ihl, ihr]
  | case2 left right ihl ihr => rw [QueryText.narrow, QueryText.narrow, ihl, ihr]
  | case3 inner ih => rw [QueryText.narrow, QueryText.narrow, ih]
  | case4 left op right notAnd notOr unknown =>
      rw [QueryText.narrow_noOperator notAnd notOr unknown,
        QueryText.narrow_noOperator notAnd notOr unknown]
  | case5 left op right notAnd notOr operator known =>
      rw [QueryText.narrow_operator known, QueryText.narrow_operator known, comparison_congr same]
  | case6 negated any operand pattern escape =>
      rw [QueryText.narrow, QueryText.narrow, comparison_congr same]
  | case7 operand items negated => rw [QueryText.narrow, QueryText.narrow, comparison_congr same]
  | case8 operand negated => rw [QueryText.narrow, QueryText.narrow, comparison_congr same]
  | case9 e notAnd notOr notNested notBinary notLike notList notNull =>
      rw [QueryText.narrow.eq_8 p text e notAnd notOr notNested notBinary notLike notList notNull,
        QueryText.narrow.eq_8 q text e notAnd notOr notNested notBinary notLike notList notNull]

theorem conditionText_handle (text : String) (handle : Nat) :
    QueryText.condition { p with handle } text = QueryText.condition p text := by
  simp only [QueryText.condition, narrow_congr (p := { p with handle }) (q := p) rfl]

theorem queryText_handle (text : String) (handle : Nat) :
    QueryText.query { p with handle } text = QueryText.query p text := by
  simp only [QueryText.query, QueryText.narrowQuery,
    narrow_congr (p := { p with handle }) (q := p) rfl]
  rfl

/-- The handle of a persister decides no result. -/
theorem Task.operation_handle (t : Task) (handle : Nat) :
    t.operation { p with handle } = t.operation p := by
  cases t with
  | lower clauses => rfl
  | request r =>
      cases r with
      | conditionText text => exact conditionText_handle text handle
      | queryText text => exact queryText_handle text handle
      | compose key criteria request limit offset =>
          have base : Composer.base? ⟨{ p with handle }, key⟩ criteria =
              Composer.base? ⟨p, key⟩ criteria := by
            simp only [Composer.base?, conditionText_handle]
          simp only [Task.operation, Request.operation, Composer.compose, base]
          rfl
      | field | identity | read | plain | count => rfl

/-- What a persister remembers shows in no result. After any history of operations, whether they
succeeded or failed, the next one comes to the same result as in a persister that is made anew for
the same catalog, entity and casing. Every history consists of resolutions that ask the catalog,
and over all of them the catalog is asked at most once for any field that it has. -/
theorem memory_unobservable (history : List Task) (next : Task) (handle : Nat) :
    ((next.operation p).perform (p.memory history)).1 =
        ((next.operation { p with handle }).perform {}).1 ∧
      (∃ log, FieldCache.Asks p.catalog {} log (p.memory history).fields) ∧
      ∀ log, FieldCache.Asks p.catalog {} log (p.memory history).fields →
        (p.memory history).fields.lookups = log.length ∧
          ∀ name, log.countP (·.finds name) ≤ 1 := by
  refine ⟨?_, asks_memory history, ?_⟩
  · rw [next.operation_handle (p := p) handle]
    exact (remembers_memory history).perform_eq next.built_operation.settled
  · intro log asks
    refine ⟨by simpa using asks.lookups, fun name => ?_⟩
    have found := asks.countP_finds name
    have bound := Bool.toNat_le ((p.memory history).fields.at? name).isSome
    omega

end Persister

end EntityQuery
