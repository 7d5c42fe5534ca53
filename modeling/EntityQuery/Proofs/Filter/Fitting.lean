import EntityQuery.Proofs.Filter.Shape
import EntityQuery.Proofs.Parts
import EntityQuery.Proofs.Values

/-!
# What can be lowered

A comparison is lowered exactly if its operand has the shape that its operator asks for: a list of
scalars for a membership test, and a scalar for every other comparison. The connectives around
comparisons ask for nothing, so a condition fails as its comparisons do if they are taken from left
to right: with the fault of the first one whose operand has another shape, told of its column.
Clauses have a statement exactly if their condition is lowered and the entity has a table.
-/

namespace EntityQuery

namespace Operator

/-- Whether a value has the shape that an operator asks for. -/
def admits (op : Operator) (v : Value) : Bool := v.isList == op.isMembership && v.isFlat

/-- Why a value has not the shape that an operator asks for, if it has not. -/
def misfit? (op : Operator) : Value → Option ValueFault
  | .list items =>
    if op.isMembership && items.all fun item => !item.isList then none else some .nestedList
  | _ => if op.isMembership then some (.listExpected op) else none

variable {op : Operator} {v : Value}

theorem misfit?_eq_none_iff : op.misfit? v = none ↔ op.admits v := by
  cases kind : op.isMembership <;> cases v <;>
    simp [misfit?, admits, Value.isList, Value.isFlat, kind]

theorem admits_eq_false_iff : op.admits v = false ↔ ∃ fault, op.misfit? v = some fault := by
  rw [← Option.ne_none_iff_exists', ne_eq, misfit?_eq_none_iff, Bool.not_eq_true]

end Operator

namespace Condition

/-- Whether every comparison of a condition has an operand of the right shape. -/
def Fits (c : Condition) : Prop := ∀ x ∈ c.comparisons, x.2.1.admits x.2.2

theorem fits_comparison {column : String} {op : Operator} {v : Value} :
    (comparison column op v).Fits ↔ op.admits v := by
  simp [Fits, comparisons]

theorem fits_always : always.Fits := by
  simp [Fits, always, comparisons, allComparisons]

theorem fits_conj {members : List Condition} : (conj members).Fits ↔ ∀ c ∈ members, c.Fits := by
  simp only [Fits, comparisons_conj, List.forall_mem_flatMap]

theorem fits_disj {members : List Condition} : (disj members).Fits ↔ ∀ c ∈ members, c.Fits := by
  simp only [Fits, comparisons_disj, List.forall_mem_flatMap]

end Condition

namespace Lowering

/-- The check that the operand of a comparison has the right shape. -/
def check (x : String × Operator × Value) : QueryResult Unit :=
  match x.2.1.misfit? x.2.2 with
  | some fault => .error (.invalidValue x.1 fault)
  | none => .ok ()

variable {column : String} {op : Operator} {v : Value}

theorem check_eq_error {x : String × Operator × Value} {e : QueryError} :
    check x = .error e ↔
      ∃ fault, x.2.1.misfit? x.2.2 = some fault ∧ e = .invalidValue x.1 fault := by
  rw [check]
  cases x.2.1.misfit? x.2.2 <;> simp [eq_comm]

theorem check_eq_ok {x : String × Operator × Value} :
    (∃ u, check x = .ok u) ↔ x.2.1.admits x.2.2 := by
  rw [← Operator.misfit?_eq_none_iff, check]
  cases x.2.1.misfit? x.2.2 <;> simp

/-! ## Comparisons -/

/-- Literals are made of scalars alone. -/
theorem literals_failsAs (column : String) (items : List Value) :
    FailsAs (items.mapM (literal column))
      (if items.all fun item => !item.isList then .ok ()
        else (.error (.invalidValue column .nestedList) : QueryResult Unit)) := by
  induction items with
  | nil => exact .ok trivial
  | cons item items ih =>
      rw [List.mapM_cons, List.all_cons]
      cases item with
      | list inner => exact .error _
      | _ => exact ih.of_map (_ :: ·)

/-- A membership test asks for a list of scalars. -/
theorem membership_failsAs (membership : op.isMembership = true) (column : String) (v : Value) :
    FailsAs (comparison column op v) (check (column, op, v)) := by
  cases v with
  | list items =>
      have checked : check (column, op, .list items) =
          if items.all fun item => !item.isList then .ok ()
          else .error (.invalidValue column .nestedList) := by
        cases all : items.all fun item => !item.isList <;>
          simp [check, Operator.misfit?, membership, all]
      rw [checked]
      have literals := literals_failsAs column items
      cases items with
      | nil =>
          cases op with
          | isIn | notIn => exact .ok trivial
          | _ => cases membership
      | cons item items =>
          cases op with
          | isIn | notIn => exact literals.of_map _
          | _ => cases membership
  | _ =>
      simp only [check, Operator.misfit?, membership, if_true]
      cases op with
      | isIn | notIn => exact .error _
      | _ => cases membership

/-- Every other comparison asks for a scalar. -/
theorem scalar_failsAs (scalar : op.isMembership = false) (column : String) (v : Value) :
    FailsAs (comparison column op v) (check (column, op, v)) := by
  have literal : FailsAs (literal column v) (check (column, op, v)) := by
    cases v with
    | list items =>
        simp only [check, Operator.misfit?, scalar, Bool.false_and]
        exact .error _
    | _ =>
        simp only [check, Operator.misfit?, scalar]
        exact .ok trivial
  cases op with
  | isIn | notIn => cases scalar
  | eq | notEq =>
      cases v with
      | null => exact .ok trivial
      | _ => exact literal.of_map _
  | _ => exact literal.of_map _

theorem comparison_failsAs (column : String) (op : Operator) (v : Value) :
    FailsAs (comparison column op v) (check (column, op, v)) := by
  cases kind : op.isMembership with
  | true => exact membership_failsAs kind column v
  | false => exact scalar_failsAs kind column v

/-! ## Conditions -/

mutual

/-- A condition fails as its comparisons do, taken from left to right. -/
theorem expr_failsAs : ∀ c : Condition, FailsAs (expr c) (c.comparisons.mapM check)
  | .comparison column op v => by
      rw [expr, Condition.comparisons]
      exact (comparison_failsAs column op v).trans (.single check _)
  | .all members => by
      rw [expr, Condition.comparisons]
      exact (memberExprs_failsAs members).of_map _
  | .any members => by
      rw [expr, Condition.comparisons]
      exact (memberExprs_failsAs members).of_map _
  | .raw fragment => by
      rw [expr, Condition.comparisons]
      exact .ok trivial

theorem memberExprs_failsAs : ∀ members : List Condition,
    FailsAs (memberExprs members) ((Condition.allComparisons members).mapM check)
  | [] => by
      rw [memberExprs, Condition.allComparisons]
      exact .ok trivial
  | c :: rest => by
      rw [memberExprs, Condition.allComparisons]
      exact (expr_failsAs c).append (memberExprs_failsAs rest) _

end

/-- The condition that always holds has no filter, and it has no comparisons either. -/
theorem filter_failsAs (c : Condition) : FailsAs (filter c) (c.comparisons.mapM check) := by
  rw [filter]
  split
  · next always =>
      rw [Condition.isTrivial_iff.1 always]
      exact .ok trivial
  · have lowered := (expr_failsAs c).of_map some
    cases made : expr c with
    | ok e => rwa [made] at lowered
    | error e => rwa [made] at lowered

theorem filter_ok_iff {c : Condition} : (∃ e?, filter c = .ok e?) ↔ c.Fits := by
  rw [(filter_failsAs c).ok_iff, Condition.Fits]
  simp only [← check_eq_ok]
  exact mapM_ok_iff

/-- A condition fails with the fault of the first comparison whose operand has another shape. -/
theorem filter_eq_error {c : Condition} {e : QueryError} :
    filter c = .error e ↔
      ∃ before x after fault, c.comparisons = before ++ x :: after ∧
        (∀ y ∈ before, y.2.1.admits y.2.2) ∧ x.2.1.misfit? x.2.2 = some fault ∧
        e = .invalidValue x.1 fault := by
  rw [(filter_failsAs c).error_iff, mapM_eq_error]
  simp only [check_eq_ok, check_eq_error, exists_and_left]

/-- A condition is lowered exactly if every comparison has an operand of the right shape. If it is
not, the error is the fault of the first one, from left to right, that has another shape. -/
theorem filter_refuses_first_misfit (c : Condition) :
    ((∃ e, filter c = .error e) ↔ ∃ x ∈ c.comparisons, x.2.1.admits x.2.2 = false) ∧
      ∀ e, filter c = .error e ↔
        ∃ before x after fault, c.comparisons = before ++ x :: after ∧
          (∀ y ∈ before, y.2.1.admits y.2.2) ∧ x.2.1.misfit? x.2.2 = some fault ∧
          e = .invalidValue x.1 fault := by
  refine ⟨?_, fun e => filter_eq_error⟩
  constructor
  · rintro ⟨e, failed⟩
    obtain ⟨before, x, after, fault, split, -, misfit, -⟩ := filter_eq_error.1 failed
    exact ⟨x, split ▸ List.mem_append_cons_self, Operator.admits_eq_false_iff.2 ⟨fault, misfit⟩⟩
  · rintro ⟨x, mem, misfit⟩
    cases lowered : filter c with
    | error e => exact ⟨e, rfl⟩
    | ok e? => exact absurd (filter_ok_iff.1 ⟨e?, lowered⟩ x mem) (by simp [misfit])

/-- Two operands have another shape, and the first one decides, under a disjunction. -/
example : filter (.all [.any [.comparison "a" .eq .null, .comparison "b" .isIn (.text "x")],
      .comparison "c" .lt (.list [])]) =
    .error (.invalidValue "b" (.listExpected .isIn)) := rfl

end Lowering

/-! ## Statements -/

/-- Whether the condition of some clauses can be lowered. -/
def Clauses.Fits (c : Clauses) : Prop := ∀ condition, c.condition = some condition → condition.Fits

namespace Clauses

theorem filter_ok_iff {c : Clauses} : (∃ e?, c.filter = .ok e?) ↔ c.Fits := by
  obtain ⟨_ | condition, order, limit, offset⟩ := c
  · simp [filter, Fits]
  · simpa [filter, Fits] using Lowering.filter_ok_iff

/-- Where clauses have no filter, a value is at fault. -/
theorem filter_error {c : Clauses} {e : QueryError} (h : c.filter = .error e) :
    ∃ column fault, e = .invalidValue column fault := by
  obtain ⟨_ | condition, order, limit, offset⟩ := c
  · cases h
  · obtain ⟨_, x, _, fault, -, -, -, rfl⟩ := Lowering.filter_eq_error.1 h
    exact ⟨x.1, fault, rfl⟩

end Clauses

namespace Persister

variable {p : Persister} {c : Clauses}

/-- The entity of a persister has a table. -/
def HasTable (p : Persister) : Prop := (p.catalog.table? p.entity).isSome

theorem select_ok_iff : (∃ s, p.select c = .ok s) ↔ c.Fits ∧ p.HasTable := by
  rw [← Clauses.filter_ok_iff, HasTable, Option.isSome_iff_exists]
  constructor
  · rintro ⟨s, made⟩
    obtain ⟨filter, t, lowered, known, -⟩ := select_eq_ok.1 made
    exact ⟨⟨filter, lowered⟩, t, known⟩
  · rintro ⟨⟨filter, lowered⟩, t, known⟩
    exact ⟨_, select_eq_ok.2 ⟨filter, t, lowered, known, rfl⟩⟩

/-- Where clauses have no statement, a value is at fault or the entity has no table. -/
theorem select_error {e : QueryError} (h : p.select c = .error e) :
    (∃ column fault, e = .invalidValue column fault) ∨ e = .unsupportedEntity p.entity := by
  rw [select] at h
  cases lowered : c.filter with
  | error e' =>
      rw [lowered] at h
      cases h
      exact .inl (Clauses.filter_error lowered)
  | ok filter =>
      rw [lowered, rootTable] at h
      cases known : p.catalog.table? p.entity with
      | none =>
          rw [known] at h
          cases h
          exact .inr rfl
      | some t =>
          rw [known] at h
          cases h

end Persister

end EntityQuery
