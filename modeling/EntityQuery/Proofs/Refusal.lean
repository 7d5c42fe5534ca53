import EntityQuery.Proofs.Filter.Fitting
import EntityQuery.Proofs.Memory.Operation

/-!
# What is refused

Preparing a statement can fail for what it is given: a field, a value, a text, an entity, a query or
a repository. An operation yields a property if it comes to something with this property or is
refused for such a reason, whatever is remembered. Every way of reading, composing, lowering and
counting is shown to yield what the next step asks for, so nothing else goes wrong on the way.
-/

namespace EntityQuery

open ConditionText

/-- Whether an error says that something cannot be done with what is given. -/
def QueryError.isRefusal : QueryError → Bool
  | unknownField _ _ | invalidValue _ _ | syntaxError _ _ | unsupportedEntity _ | alreadyBound
  | misconfigured _ => true
  | _ => false

/-! ## Results and operations -/

/-- A result has a property, or a refusal stands in its place. -/
inductive QueryResult.Yields {α : Type} (P : α → Prop) : QueryResult α → Prop
  | ok {a : α} (h : P a) : Yields P (.ok a)
  | refused {e : QueryError} (h : e.isRefusal) : Yields P (.error e)

namespace QueryResult

/-- A result may be anything, and only a refusal stands in its place. -/
abbrev Refusable {α : Type} (r : QueryResult α) : Prop := Yields (fun _ => True) r

namespace Yields

variable {α β : Type} {P : α → Prop} {Q : β → Prop} {x : QueryResult α}

theorem bind {f : α → QueryResult β} (h : Yields P x) (h' : ∀ a, P a → Yields Q (f a)) :
    Yields Q (x >>= f) := by
  cases h with
  | ok h => exact h' _ h
  | refused h => exact .refused h

theorem of_error (h : ∀ e, x = .error e → e.isRefusal) : Refusable x := by
  cases x with
  | ok a => exact .ok trivial
  | error e => exact .refused (h e rfl)

theorem mapM {f : α → QueryResult β} (each : ∀ a, Refusable (f a)) (as : List α) :
    Refusable (as.mapM f) := by
  refine of_error fun e failed => ?_
  obtain ⟨a, -, first⟩ := mapM_error failed
  have refused := each a
  rw [first] at refused
  cases refused with
  | refused h => exact h

theorem option_mapM {f : α → QueryResult β} (each : ∀ a, Refusable (f a)) (a? : Option α) :
    Refusable (a?.mapM f) := by
  cases a? with
  | none => exact .ok trivial
  | some a => exact (each a).bind fun b _ => .ok trivial

end Yields

end QueryResult

namespace Lookup

/-- Whatever is remembered, an operation comes to something with a property or is refused. -/
def Yields {α : Type} (P : α → Prop) (l : Lookup α) : Prop :=
  ∀ memo : Memo, QueryResult.Yields P (l.perform memo).1

/-- Whatever is remembered, an operation comes to something or is refused. -/
abbrev Refusable {α : Type} (l : Lookup α) : Prop := Yields (fun _ => True) l

namespace Yields

variable {α β : Type} {P : α → Prop} {Q : β → Prop} {l : Lookup α}

theorem ofResult {r : QueryResult α} (h : QueryResult.Yields P r) :
    Yields P (Lookup.ofResult r) :=
  fun _ => h

theorem pure {a : α} (h : P a) : Yields P (Pure.pure a : Lookup α) := ofResult (.ok h)

theorem throw {e : QueryError} (h : e.isRefusal) :
    Yields P (MonadExcept.throw e : Lookup α) :=
  ofResult (.refused h)

theorem bind {f : α → Lookup β} (h : Yields P l) (h' : ∀ a, P a → Yields Q (f a)) :
    Yields Q (l >>= f) := by
  intro memo
  have first := h memo
  rw [perform_bind]
  cases done : l.perform memo with
  | mk result middle =>
      rw [done] at first
      cases first with
      | ok property => exact h' _ property middle
      | refused refusal => exact .refused refusal

theorem map (g : α → β) (h : Refusable l) : Refusable (g <$> l) := by
  rw [map_eq_pure_bind]
  exact h.bind fun a _ => .pure trivial

theorem mapM {f : α → Lookup β} (each : ∀ a, Refusable (f a)) (as : List α) :
    Refusable (as.mapM f) := by
  induction as with
  | nil => exact .pure trivial
  | cons a as ih =>
      rw [List.mapM_cons]
      exact (each a).bind fun b _ => ih.bind fun bs _ => .pure trivial

/-- An operation whose errors are all turned into refusals. -/
theorem adapt {g : QueryError → QueryError} (l : Lookup α) (refusals : ∀ e, (g e).isRefusal) :
    Refusable (ExceptT.adapt g l) := by
  intro memo
  have performs : perform (ExceptT.adapt g l) memo =
      ((l.perform memo).1.mapError g, (l.perform memo).2) := rfl
  rw [performs]
  cases (l.perform memo).1 with
  | ok a => exact .ok trivial
  | error e => exact .refused (refusals e)

end Yields

end Lookup

open QueryResult Lookup

/-! ## Persisters -/

theorem FieldMapping.refusable_comparison (m : FieldMapping) (field : String) (op : Operator)
    (v : Value) : QueryResult.Refusable (m.comparison field op v) := by
  refine .of_error fun e failed => ?_
  obtain ⟨fault, rfl⟩ := comparison_error failed
  rfl

namespace Persister

variable {p : Persister}

theorem refusable_resolve (field : String) : Lookup.Refusable (p.resolve field) := by
  intro memo
  rw [resolve_perform, FieldCache.resolve]
  split
  · exact .ok trivial
  · dsimp only
    split
    · exact .refused rfl
    · exact .ok trivial

theorem refusable_rootTable : QueryResult.Refusable p.rootTable := by
  unfold rootTable
  split
  · exact .ok trivial
  · exact .refused rfl

theorem refusable_select (c : Clauses) : QueryResult.Refusable (p.select c) := by
  refine .of_error fun e failed => ?_
  obtain ⟨column, fault, rfl⟩ | rfl := select_error failed
  · rfl
  · rfl

theorem refusable_identityColumns : Lookup.Refusable p.identityColumns := by
  unfold identityColumns
  split
  · exact .throw rfl
  · exact .throw rfl
  · exact .mapM (fun field => .adapt _ fun _ => rfl) _

theorem refusable_identity : Lookup.Refusable p.identity := by
  intro memo
  cases remembered : memo.identity with
  | some i =>
      rw [identity_perform_of_some remembered]
      exact .ok trivial
  | none =>
      have columns := refusable_identityColumns (p := p) memo
      rw [identity_perform_of_none remembered]
      cases done : p.identityColumns.perform memo with
      | mk result after =>
          rw [done] at columns
          cases columns with
          | ok _ => exact .ok trivial
          | refused refusal => exact .refused refusal

theorem refusable_countForm (c : Clauses) : Lookup.Refusable (p.countForm c) :=
  refusable_identity.bind fun _ _ =>
    (Lookup.Yields.ofResult (refusable_select c)).bind fun _ _ => .pure trivial

end Persister

/-! ## Query text -/

namespace QueryText

variable {p : Persister} {text : List Char}

theorem refusable_field (e : Expr) : QueryResult.Refusable (field text e) := by
  unfold field
  split
  · exact .ok trivial
  · exact .refused rfl

theorem refusable_natural (e : Expr) : QueryResult.Refusable (natural text e) := by
  unfold natural
  split
  · exact .ok trivial
  · exact .refused rfl

theorem refusable_literal (e : Expr) : QueryResult.Refusable (literal text e) := by
  unfold literal
  split
  · exact .refused rfl
  · split
    · exact .refused rfl
    · exact .ok trivial

theorem refusable_statement : QueryResult.Refusable (statement text) := by
  unfold statement
  split
  · next failure _ => cases failure <;> exact .refused rfl
  · split_ifs
    · exact .refused rfl
    · exact .refused rfl
    · exact .refused rfl
    · exact .refused rfl
    · exact .ok trivial

theorem refusable_comparison (target : Expr) (op : Operator) (v : Value) :
    Lookup.Refusable (comparison p text target op v) :=
  (Lookup.Yields.ofResult (refusable_field target)).bind fun name _ =>
    (Persister.refusable_resolve name).bind fun m _ =>
      .ofResult (m.refusable_comparison name op v)

theorem refusable_narrow (e : Expr) : Lookup.Refusable (narrow p text e) := by
  apply narrow_induction
  case conj | disj =>
    intro a b first second
    exact first.bind fun _ _ => second.bind fun _ _ => .pure trivial
  case single =>
    intro target op operand
    exact (Lookup.Yields.ofResult (refusable_literal operand)).bind fun v _ =>
      refusable_comparison target op v
  case several =>
    intro target op items
    exact (Lookup.Yields.ofResult (.mapM refusable_literal items)).bind fun vs _ =>
      refusable_comparison target op (.list vs)
  case missing => exact fun target op => refusable_comparison target op .null
  case refused => exact fun position => .ofResult (.refused rfl)

theorem refusable_sortKey (t : OrderTerm) : Lookup.Refusable (sortKey p text t) :=
  (Lookup.Yields.ofResult (refusable_field t.key)).bind fun name _ =>
    (Persister.refusable_resolve name).bind fun _ _ => .pure trivial

theorem refusable_condition (text : String) : Lookup.Refusable (condition p text) := by
  unfold condition
  dsimp only
  split
  · exact .pure trivial
  · refine (Lookup.Yields.ofResult refusable_statement).bind fun s _ => ?_
    split
    · exact .ofResult (.refused rfl)
    · exact refusable_narrow s.condition

theorem refusable_query (text : String) : Lookup.Refusable (query p text) := by
  unfold query
  dsimp only
  split
  · exact .pure trivial
  · refine (Lookup.Yields.ofResult refusable_statement).bind fun s _ => ?_
    refine (refusable_narrow s.condition).bind fun condition _ => ?_
    refine (Lookup.Yields.mapM refusable_sortKey _).bind fun order _ => ?_
    refine (Lookup.Yields.ofResult (.option_mapM refusable_natural _)).bind fun limit _ => ?_
    refine (Lookup.Yields.ofResult (.option_mapM refusable_natural _)).bind fun offset _ => ?_
    exact .pure trivial

end QueryText

/-! ## Criteria -/

namespace Criteria

variable {p : Persister}

theorem refusable_comparison (field : String) (v : Json) :
    Lookup.Refusable (comparison p field v) := by
  refine (Persister.refusable_resolve field).bind fun m _ => ?_
  cases operand v with
  | error fault => exact .throw rfl
  | ok x => exact .ofResult (m.refusable_comparison field x.1 x.2)

theorem refusable_condition (key : String) (criteria : Criteria) :
    Lookup.Refusable (condition p key criteria) := by
  have each (x : String × Json) : Lookup.Refusable (comparison p x.1 x.2) :=
    refusable_comparison x.1 x.2
  rw [condition_eq]
  exact .map Condition.conj (.mapM each _)

theorem refusable_direction (direction : String) :
    QueryResult.Refusable (Direction.ofText direction) := by
  unfold Direction.ofText
  split
  · exact .ok trivial
  · exact .ok trivial
  · exact .ok trivial
  · exact .ok trivial
  · exact .refused rfl

theorem refusable_order (request : SortRequest) : Lookup.Refusable (order p request) := by
  rw [order_eq]
  refine .mapM (fun x => ?_) request
  refine (Persister.refusable_resolve x.1).bind fun _ _ => ?_
  exact (Lookup.Yields.ofResult (refusable_direction x.2)).bind fun _ _ => .pure trivial

/-- Criteria are read to a query that is not bound yet. -/
theorem yields_read (key : String) (criteria : Criteria) (request : SortRequest)
    (limit offset : Option Nat) :
    Lookup.Yields (·.stage = .unbound) (criteria.read p key request limit offset) :=
  (refusable_condition key criteria).bind fun _ _ =>
    (refusable_order request).bind fun _ _ => .pure rfl

end Criteria

theorem Query.setClause_condition {q : Query} (unbound : q.stage = .unbound) (c : Condition) :
    q.setClause ClauseName.condition.text (.condition c) =
      .ok { q with clauses := put (.condition c) q.clauses } := by
  have slot : ClauseName.ofText? ClauseName.condition.text = some .condition := rfl
  rw [setClause, slot, change, unbound]
  rfl

namespace Composer

variable {c : Composer}

theorem refusable_base? (criteria : Criteria) : Lookup.Refusable (c.base? criteria) := by
  unfold base?
  split
  · exact .pure trivial
  · exact (QueryText.refusable_condition _).map some
  · exact .throw rfl

/-- Criteria and text are composed to a query that is not bound yet. -/
theorem yields_compose (criteria : Criteria) (request : SortRequest) (limit offset : Option Nat) :
    Lookup.Yields (·.stage = .unbound) (c.compose criteria request limit offset) := by
  refine (Criteria.yields_read _ criteria request limit offset).bind fun q unbound => ?_
  refine (refusable_base? criteria).bind fun base _ => ?_
  cases base with
  | none => exact .pure unbound
  | some base =>
      dsimp only
      rw [Query.setClause_condition unbound]
      exact .ofResult (.ok unbound)

end Composer

/-! ## Plain criteria -/

namespace PlainCriteria

variable {p : Persister}

theorem refusable_entry (field : String) (v : Json) : Lookup.Refusable (entry p field v) := by
  refine (Persister.refusable_resolve field).bind fun m _ => ?_
  cases Value.ofJson? v with
  | none => exact .throw rfl
  | some value => exact .pure trivial

theorem refusable_select (criteria : Criteria) (request : SortRequest)
    (limit offset : Option Nat) : Lookup.Refusable (select p criteria request limit offset) := by
  have each (x : String × Json) : Lookup.Refusable (entry p x.1 x.2) := refusable_entry x.1 x.2
  rw [select_eq]
  split
  · exact .throw rfl
  · refine (Lookup.Yields.mapM each criteria).bind fun entries _ => ?_
    refine (Criteria.refusable_order request).bind fun order _ => ?_
    exact (Lookup.Yields.ofResult Persister.refusable_rootTable).bind fun table _ =>
      .pure trivial

end PlainCriteria

end EntityQuery
