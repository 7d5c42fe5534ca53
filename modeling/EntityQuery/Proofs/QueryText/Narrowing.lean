import EntityQuery.Proofs.QueryText.Grammar

/-!
# Narrowing and the grammar

Each step of narrowing demands a part of the grammar: where the part is missing, the step is refused
as a syntax error whatever the persister knows. So narrowing comes to a result on documented plain
forms only, and any other failure is the one of a documented test or sort key that the persister
refuses. The plain form is narrowed to the same result as the original.
-/

namespace EntityQuery

open ConditionText

/-- Whether an error is one of the syntax. -/
def QueryError.isSyntax : QueryError → Bool
  | .syntaxError _ _ => true
  | _ => false

/-- An operation demands something: where it fails, every result is a syntax error. -/
def Lookup.Demands {α : Type} (l : Lookup α) (b : Bool) : Prop :=
  ∀ r, l.Answers r → b ∨ ∃ e, r = .error e ∧ e.isSyntax

namespace QueryText

/-- A result is there exactly where something holds; otherwise it is a syntax error. -/
def Checks {α : Type} (r : QueryResult α) (b : Bool) : Prop :=
  match r with
  | .ok _ => b
  | .error e => b = false ∧ e.isSyntax

section

variable {α β : Type} {r : QueryResult α} {b c : Bool} {f : α → Lookup β}

theorem demands_true (l : Lookup α) : l.Demands true := fun _ _ => .inl rfl

theorem Checks.demands (h : Checks r b) : (Lookup.ofResult r).Demands b := by
  intro s answers
  obtain rfl := answers.of_ofResult
  cases r with
  | ok a => exact .inl h
  | error e => exact .inr ⟨e, rfl, h.2⟩

theorem Checks.holds {a : α} (h : Checks r b) (answers : (Lookup.ofResult r).Answers (.ok a)) :
    b := by
  obtain rfl := answers.of_ofResult
  exact h

theorem Checks.isSyntax {e : QueryError} (h : Checks r b)
    (answers : (Lookup.ofResult r).Answers (.error e)) : e.isSyntax := by
  obtain rfl := answers.of_ofResult
  exact h.2

/-- What follows a check adds its own demand. -/
theorem Checks.bind (h : Checks r b) (second : ∀ a, (f a).Demands c) :
    (Lookup.ofResult r >>= f).Demands (b && c) := by
  intro s answers
  cases r with
  | ok a =>
      have next : (f a).Answers s := answers
      have holds : b = true := h
      rw [holds, Bool.true_and]
      exact second a s next
  | error e =>
      obtain ⟨memo, after, done⟩ := answers
      cases done
      exact .inr ⟨e, rfl, h.2⟩

theorem checks_mapM {as : List α} {f : α → QueryResult β} {p : α → Bool}
    (h : ∀ a, Checks (f a) (p a)) : Checks (as.mapM f) (as.all p) := by
  induction as with
  | nil => rfl
  | cons a as ih =>
      rw [List.mapM_cons, List.all_cons]
      have first := h a
      cases result : f a with
      | error e =>
          rw [result] at first
          exact ⟨by rw [first.1, Bool.false_and], first.2⟩
      | ok b =>
          rw [result] at first
          have holds : p a = true := first
          rw [holds, Bool.true_and]
          cases further : as.mapM f with
          | error e =>
              rw [further] at ih
              exact ih
          | ok bs =>
              rw [further] at ih
              exact ih

theorem checks_option {o : Option α} {f : α → QueryResult β} {p : α → Bool}
    (h : ∀ a, Checks (f a) (p a)) : Checks (o.mapM f) (o.all p) := by
  cases o with
  | none => rfl
  | some a =>
      have only := h a
      rw [Option.mapM_some]
      cases result : f a with
      | error e =>
          rw [result] at only
          exact only
      | ok b =>
          rw [result] at only
          exact only

end

theorem checks_field (text : List Char) (e : Expr) : Checks (field text e) e.isField := by
  rw [field, Expr.isField]
  cases field? e with
  | none => exact ⟨rfl, rfl⟩
  | some name => rfl

theorem checks_literal (text : List Char) (e : Expr) : Checks (literal text e) e.isLiteral := by
  rw [literal, Expr.isLiteral]
  cases value? e with
  | none => exact ⟨rfl, rfl⟩
  | some v => cases infinite : isInfinite v <;> simp [Checks, refusal, QueryError.isSyntax, infinite]

theorem checks_natural (text : List Char) (e : Expr) : Checks (natural text e) e.isNatural := by
  rw [natural, Expr.isNatural]
  cases natural? e with
  | none => exact ⟨rfl, rfl⟩
  | some n => rfl

section

variable {p : Persister} {text : List Char}

theorem demands_comparison (target : Expr) (op : Operator) (v : Value) :
    (comparison p text target op v).Demands target.isField := by
  rw [← Bool.and_true target.isField]
  exact (checks_field text target).bind fun _ => demands_true _

theorem demands_sortKey (t : OrderTerm) : (sortKey p text t).Demands t.plain.isDocumented :=
  (checks_field text t.key).bind fun _ => demands_true _

theorem demands_refusal {α : Type} (position : Nat) (what : String) :
    (Lookup.ofResult (refusal position what : QueryResult α)).Demands false :=
  Checks.demands ⟨rfl, rfl⟩

/-- A single test demands that its plain form is documented. -/
theorem demands_test {t : Expr} (single : t.isJoined = false) :
    (narrow p text t).Demands t.plain.isTest := by
  cases t with
  | binary left op right =>
      obtain ⟨notAnd, notOr⟩ := Expr.not_connective_of_single single
      have same : (Expr.binary left op right).plain = .binary left op right := by
        cases op <;> first | rfl | cases single
      rw [same, Expr.isTest]
      cases known : comparisonOperator? op with
      | none =>
          rw [narrow_noOperator notAnd notOr known]
          exact demands_refusal _ _
      | some operator =>
          rw [narrow_operator known, Option.isSome_some, Bool.true_and, Bool.and_comm]
          exact (checks_literal text right).bind fun v => demands_comparison left operator v
  | like negated any target pattern escape =>
      rw [narrow, Expr.plain, Expr.isTest, Bool.and_comm]
      exact (checks_literal text pattern).bind fun v => demands_comparison target _ v
  | inList target items negated =>
      have same : (Expr.inList target items negated).plain = .inList target items negated := rfl
      rw [narrow, same, Expr.isTest, Bool.and_comm]
      have literals : Checks (items.mapM (literal text)) (items.all Expr.isLiteral) :=
        checks_mapM (checks_literal text)
      exact literals.bind fun vs => demands_comparison target _ (.list vs)
  | isNull target negated =>
      rw [narrow]
      exact demands_comparison target _ .null
  | nested inner => cases single
  | _ => exact demands_refusal _ _

/-! ## Whole expressions -/

/-- Where an expression is narrowed, so is each of its tests. -/
theorem narrow_ok {e : Expr} {c : Condition} (h : (narrow p text e).Answers (.ok c)) :
    ∀ t ∈ e.tests, ∃ c, (narrow p text t).Answers (.ok c) := by
  induction e using Expr.joined_induction generalizing c with
  | connective left op right connects ihl ihr =>
      obtain ⟨join, same⟩ := narrow_connective p text left right connects
      rw [same] at h
      obtain ⟨⟨a, first⟩, b, second⟩ := h.both_ok
      rw [Expr.tests_connective connects, List.forall_mem_append]
      exact ⟨ihl first, ihr second⟩
  | enclosed inner ih =>
      rw [narrow] at h
      exact ih h
  | single e alone =>
      rw [Expr.tests_single alone, List.forall_mem_singleton]
      exact ⟨c, h⟩

/-- Where narrowing an expression fails, it fails on one of its tests. -/
theorem narrow_error {e : Expr} {err : QueryError} (h : (narrow p text e).Answers (.error err)) :
    ∃ t ∈ e.tests, (narrow p text t).Answers (.error err) := by
  induction e using Expr.joined_induction with
  | connective left op right connects ihl ihr =>
      obtain ⟨join, same⟩ := narrow_connective p text left right connects
      rw [same] at h
      rw [Expr.tests_connective connects]
      obtain first | second := h.both_error
      · obtain ⟨t, mem, failed⟩ := ihl first
        exact ⟨t, List.mem_append_left _ mem, failed⟩
      · obtain ⟨t, mem, failed⟩ := ihr second
        exact ⟨t, List.mem_append_right _ mem, failed⟩
  | enclosed inner ih =>
      rw [narrow] at h
      exact ih h
  | single e alone =>
      rw [Expr.tests_single alone]
      exact ⟨e, List.mem_singleton_self e, h⟩

/-- Only an expression whose plain form is documented is narrowed to a condition. -/
theorem isDocumented_of_narrow {e : Expr} {c : Condition} (h : (narrow p text e).Answers (.ok c)) :
    e.plain.isDocumented := by
  rw [Expr.isDocumented, Expr.tests_plain, List.all_map, List.all_eq_true]
  intro t mem
  obtain ⟨c, narrowed⟩ := narrow_ok h t mem
  obtain test | ⟨err, failed, -⟩ := demands_test (Expr.isJoined_of_mem_tests mem) _ narrowed
  · exact test
  · cases failed

/-- A failure is a syntax error, or a documented test of the expression fails so. -/
theorem narrow_failure {e : Expr} {err : QueryError} (h : (narrow p text e).Answers (.error err)) :
    err.isSyntax ∨ ∃ t ∈ e.tests, t.plain.isTest ∧ (narrow p text t).Answers (.error err) := by
  obtain ⟨t, mem, failed⟩ := narrow_error h
  obtain test | ⟨_, ⟨⟩, syntactic⟩ := demands_test (Expr.isJoined_of_mem_tests mem) _ failed
  · exact .inr ⟨t, mem, test, failed⟩
  · exact .inl syntactic

/-- Narrowing does not see what the plain form leaves out. -/
theorem narrow_plain (e : Expr) : narrow p text e.plain = narrow p text e := by
  induction e using Expr.plain.induct with
  | case1 left right ihl ihr => rw [Expr.plain, narrow, narrow, ihl, ihr]
  | case2 left right ihl ihr => rw [Expr.plain, narrow, narrow, ihl, ihr]
  | case3 inner ih => rw [Expr.plain, narrow, narrow, ih]
  | case4 negated any target pattern escape => rw [Expr.plain, narrow, narrow]
  | case5 e notAnd notOr notNested notLike =>
      rw [Expr.plain.eq_5 e notAnd notOr notNested notLike]

/-! ## Whole statements -/

/-- Narrowing to a query does not see what the plain form leaves out. -/
theorem narrowQuery_plain (s : Statement) :
    narrowQuery p text s.plain = narrowQuery p text s := by
  have keys : s.plain.keys.mapM (sortKey p text) = s.keys.mapM (sortKey p text) := by
    rw [Statement.keys_plain, List.mapM_map]
    rfl
  change (narrow p text s.condition.plain >>= fun c => s.plain.keys.mapM (sortKey p text) >>= _) =
    (narrow p text s.condition >>= fun c => s.keys.mapM (sortKey p text) >>= _)
  rw [narrow_plain, keys]
  rfl

/-- Only a statement whose plain form is documented is narrowed to a query. -/
theorem isDocumented_of_narrowQuery {s : Statement} (simple : s.isSimple) {q : Query}
    (h : (narrowQuery p text s).Answers (.ok q)) : s.plain.isDocumented := by
  obtain ⟨c, condition, h⟩ := h.bind_ok
  obtain ⟨order, keys, h⟩ := h.bind_ok
  obtain ⟨limit, limited, h⟩ := h.bind_ok
  obtain ⟨offset, skipped, -⟩ := h.bind_ok
  have condition := isDocumented_of_narrow condition
  have keys : s.plain.keys.all OrderTerm.isDocumented := by
    rw [Statement.keys_plain, List.all_map, List.all_eq_true]
    intro t mem
    obtain ⟨key, answers⟩ := keys.mapM_ok t mem
    obtain documented | ⟨err, failed, -⟩ := demands_sortKey t _ answers
    · exact documented
    · cases failed
  have limit := (checks_option (checks_natural text)).holds limited
  have offset := (checks_option (checks_natural text)).holds skipped
  simp only [Statement.isDocumented, Bool.and_eq_true]
  exact ⟨⟨⟨⟨simple, condition⟩, keys⟩, limit⟩, offset⟩

/-- A failure is a syntax error, or a documented test or sort key of the statement fails so. -/
theorem narrowQuery_failure {s : Statement} {err : QueryError}
    (h : (narrowQuery p text s).Answers (.error err)) :
    err.isSyntax ∨
      (∃ t ∈ s.condition.tests, t.plain.isTest ∧ (narrow p text t).Answers (.error err)) ∨
      ∃ t ∈ s.keys, t.plain.isDocumented ∧ (sortKey p text t).Answers (.error err) := by
  obtain condition | ⟨c, -, h⟩ := h.bind_error
  · obtain syntactic | refused := narrow_failure condition
    · exact .inl syntactic
    · exact .inr (.inl refused)
  obtain keys | ⟨order, -, h⟩ := h.bind_error
  · obtain ⟨t, mem, failed⟩ := keys.mapM_error
    obtain documented | ⟨_, ⟨⟩, syntactic⟩ := demands_sortKey t _ failed
    · exact .inr (.inr ⟨t, mem, documented, failed⟩)
    · exact .inl syntactic
  obtain limit | ⟨limit, -, h⟩ := h.bind_error
  · exact .inl ((checks_option (checks_natural text)).isSyntax limit)
  obtain offset | ⟨offset, -, memo, after, done⟩ := h.bind_error
  · exact .inl ((checks_option (checks_natural text)).isSyntax offset)
  · cases done

end

end QueryText

end EntityQuery
