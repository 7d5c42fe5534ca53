import EntityQuery.Proofs.Casing
import EntityQuery.Proofs.Values

/-!
# Transforms and the leaves of values

The leaves of a value are what it consists of besides lists. A transform keeps the lists as they
are, to any depth, and does with every leaf what it does with that leaf alone; it makes null of null
and of nothing else, and fails with the first leaf that it fails on. Its results are of a kind that
it leaves as it is, texts in the one case or the other among them, so it changes nothing when it is
applied once more.
-/

namespace EntityQuery

namespace Value

mutual

/-- The leaves of a value, from left to right. -/
def leaves : Value → List Value
  | list items => allLeaves items
  | null => [null]
  | bool b => [bool b]
  | integer i => [integer i]
  | float d => [float d]
  | text s => [text s]

/-- The leaves of the items of a list. -/
def allLeaves : List Value → List Value
  | [] => []
  | item :: rest => leaves item ++ allLeaves rest

end

/-- Whether two values have the same lists inside each other, and a relation holds between the
leaves that stand in the same place. -/
inductive Leafwise (R : Value → Value → Prop) : Value → Value → Prop
  | leaf {v w : Value} (left : v.isList = false) (right : w.isList = false) (related : R v w) :
      Leafwise R v w
  | list {items others : List Value} (each : List.Forall₂ (Leafwise R) items others) :
      Leafwise R (.list items) (.list others)

/-- What holds of every leaf, and of a list if it holds of its items, holds of every value. -/
@[elab_as_elim]
theorem leaf_induction {P : Value → Prop} (leaf : ∀ v, v.isList = false → P v)
    (list : ∀ items, (∀ item ∈ items, P item) → P (list items)) : ∀ v, P v
  | .list items => list items fun item _ => leaf_induction leaf list item
  | .null => leaf _ rfl
  | .bool _ => leaf _ rfl
  | .integer _ => leaf _ rfl
  | .float _ => leaf _ rfl
  | .text _ => leaf _ rfl

variable {R S : Value → Value → Prop} {v w : Value} {items : List Value}

theorem leaves_list : (list items).leaves = items.flatMap leaves := by
  rw [leaves]
  induction items with
  | nil => rfl
  | cons item items ih => rw [allLeaves, ih, List.flatMap_cons]

theorem leaves_of_scalar (scalar : v.isList = false) : v.leaves = [v] := by
  cases v with
  | list items => cases scalar
  | _ => rfl

theorem leaves_of_scalars (scalars : ∀ item ∈ items, item.isList = false) :
    (list items).leaves = items := by
  rw [leaves_list, List.flatMap_congr fun item mem => leaves_of_scalar (scalars item mem),
    List.flatMap_singleton']

namespace Leafwise

theorem scalar_iff (scalar : v.isList = false) : Leafwise R v w ↔ w.isList = false ∧ R v w := by
  constructor
  · rintro (⟨-, right, related⟩ | _)
    · exact ⟨right, related⟩
    · cases scalar
  · rintro ⟨right, related⟩
    exact .leaf scalar right related

theorem list_iff : Leafwise R (.list items) w ↔
    ∃ others, w = .list others ∧ List.Forall₂ (Leafwise R) items others := by
  constructor
  · rintro (⟨⟨⟩, -, -⟩ | each)
    exact ⟨_, rfl, each⟩
  · rintro ⟨others, rfl, each⟩
    exact .list each

/-- Where a relation makes every leaf on the right related to itself, so is their value. -/
theorem right_self (related : Leafwise R v w)
    (right : ∀ a b, a.isList = false → R a b → S b b) : Leafwise S w w := by
  induction v using leaf_induction generalizing w with
  | leaf v scalar =>
      obtain ⟨scalar', related⟩ := (scalar_iff scalar).1 related
      exact .leaf scalar' scalar' (right v w scalar related)
  | list items ih =>
      obtain ⟨others, rfl, each⟩ := list_iff.1 related
      refine .list (List.forall₂_same.2 ?_)
      refine forall_of_forall₂ ((List.forall₂_and_left _ _).2 ⟨ih, each⟩) ?_
      rintro item other ⟨ih, related⟩
      exact ih related

end Leafwise

end Value

namespace Transform

variable {t : Transform} {field : String} {v w : Value} {items : List Value} {fault : ValueFault}

theorem applyAll_eq_mapM (t : Transform) (items : List Value) :
    t.applyAll items = items.mapM t.apply := by
  induction items with
  | nil => rfl
  | cons item items ih =>
      rw [applyAll, ih, List.mapM_cons]
      rfl

theorem apply_list :
    t.apply (.list items) = items.mapM t.apply >>= fun others => .ok (.list others) := by
  rw [apply, applyAll_eq_mapM]
  cases items.mapM t.apply <;> rfl

theorem apply_list_eq_ok : t.apply (.list items) = .ok w ↔
    ∃ others, w = .list others ∧ List.Forall₂ (fun a b => t.apply a = .ok b) items others := by
  simp only [apply_list, bind_eq_ok, mapM_eq_ok, Except.ok.injEq]
  exact exists_congr fun others => and_comm.trans (and_congr_left' eq_comm)

/-- A transform gives the value with the same lists in which every leaf is transformed, and null
stands where it is given. -/
theorem apply_eq_ok_iff : t.apply v = .ok w ↔
    v.Leafwise (fun a b => t.apply a = .ok b ∧ b.isNull = a.isNull) w := by
  induction v using Value.leaf_induction generalizing w with
  | leaf v scalar =>
      rw [Value.Leafwise.scalar_iff scalar]
      constructor
      · intro applied
        exact ⟨(apply_isList applied).trans scalar, applied, apply_isNull applied⟩
      · exact fun related => related.2.1
  | list items ih =>
      rw [apply_list_eq_ok, Value.Leafwise.list_iff]
      refine exists_congr fun others => and_congr_right fun _ => ?_
      constructor
      · intro each
        refine ((List.forall₂_and_left _ _).2 ⟨ih, each⟩).imp ?_
        exact fun a b related => related.1.1 related.2
      · intro each
        refine ((List.forall₂_and_left _ _).2 ⟨ih, each⟩).imp ?_
        exact fun a b related => related.1.2 related.2

/-- A transform fails as it does on the leaves in a row. -/
theorem apply_failsAs (t : Transform) (v : Value) :
    FailsAs (t.apply v) (v.leaves.mapM t.apply) := by
  induction v using Value.leaf_induction with
  | leaf v scalar =>
      rw [Value.leaves_of_scalar scalar]
      exact .single t.apply v
  | list items ih =>
      rw [apply_list, Value.leaves_list]
      exact (FailsAs.flatMap ih).of_map Value.list

theorem apply_scalar (scalar : v.isList = false) (given : v.isNull = false) :
    t.apply v = t.applyScalar v := by
  cases v with
  | null => cases given
  | list items => cases scalar
  | _ => rw [apply]

/-- The result for a value that is no list is one that the transform leaves as it is. -/
theorem applyScalar_applyScalar (h : t.applyScalar v = .ok w) : t.applyScalar w = .ok w := by
  unfold applyScalar at h
  repeat' split at h
  all_goals cases h <;> simp [applyScalar, Unicode.lower_lower, Unicode.upper_upper]

/-- A transform leaves its results as they are. -/
theorem apply_apply (h : t.apply v = .ok w) : t.apply w = .ok w := by
  rw [apply_eq_ok_iff] at h ⊢
  refine h.right_self ?_
  rintro a b scalar ⟨applied, null⟩
  refine ⟨?_, rfl⟩
  cases given : a.isNull with
  | true =>
      cases b with
      | null => exact apply_null t
      | _ => cases null.trans given
  | false =>
      rw [apply_scalar ((apply_isList applied).trans scalar) (null.trans given)]
      rw [apply_scalar scalar given] at applied
      exact applyScalar_applyScalar applied

/-! ## The transform of a field -/

/-- The transform of a value of a field: its faults are invalid values of the field. -/
def applyTo (t : Transform) (field : String) (v : Value) : QueryResult Value :=
  (t.apply v).mapError (.invalidValue field)

theorem applyTo_eq_ok : t.applyTo field v = .ok w ↔ t.apply v = .ok w := by
  rw [applyTo]
  cases t.apply v <;> simp [Except.mapError]

theorem applyTo_eq_error {e : QueryError} :
    t.applyTo field v = .error e ↔
      ∃ fault, e = .invalidValue field fault ∧ t.apply v = .error fault := by
  rw [applyTo]
  cases t.apply v <;> simp [Except.mapError, eq_comm]

/-- The transform of a value of a field keeps the lists of the value, does with every leaf what it
does with that leaf alone, and makes null of null only; it fails exactly if it fails on one of the
leaves, as it does on the first of these; and once it has been applied, applying it again changes
nothing. -/
theorem applyTo_leafwise (t : Transform) (field : String) (v : Value) :
    (∀ w, t.applyTo field v = .ok w ↔
      v.Leafwise (fun a b => t.applyTo field a = .ok b ∧ b.isNull = a.isNull) w) ∧
    ((∃ e, t.applyTo field v = .error e) ↔ ∃ a ∈ v.leaves, ∃ e, t.applyTo field a = .error e) ∧
    (∀ e, t.applyTo field v = .error e ↔
      ∃ before a after, v.leaves = before ++ a :: after ∧
        (∀ b ∈ before, ∃ c, t.applyTo field b = .ok c) ∧ t.applyTo field a = .error e) ∧
    (t.applyTo field v >>= t.applyTo field) = t.applyTo field v := by
  refine ⟨fun w => ?_, ?_, fun e => ?_, ?_⟩
  · simp only [applyTo_eq_ok]
    exact apply_eq_ok_iff
  · rw [fails_iff]
    simp only [fails_iff, applyTo_eq_ok, (apply_failsAs t v).ok_iff, mapM_ok_iff]
    simp only [not_forall, exists_prop]
  · simp only [applyTo_eq_ok, applyTo_eq_error, (apply_failsAs t v).error_iff, mapM_eq_error]
    constructor
    · rintro ⟨fault, rfl, before, a, after, split, passed, failed⟩
      exact ⟨before, a, after, split, passed, fault, rfl, failed⟩
    · rintro ⟨before, a, after, split, passed, fault, rfl, failed⟩
      exact ⟨fault, rfl, before, a, after, split, passed, failed⟩
  · cases applied : t.applyTo field v with
    | error e => rfl
    | ok w => exact applyTo_eq_ok.2 (apply_apply (applyTo_eq_ok.1 applied))

example : lowercase.applyTo "tag" (.list [.text "A", .list [.null, .text "ΑΣ"], .list []]) =
    .ok (.list [.text "a", .list [.null, .text "ας"], .list []]) := by
  rfl

example : integer.applyTo "age" (.list [.list [.text " 7 "], .text "x", .bool true]) =
    .error (.invalidValue "age" (.notInteger "x")) := by
  rfl

end Transform

/-- A comparison without a fault of its own has the transformed value, or is refused as that is. -/
theorem FieldMapping.comparison_eq_applyTo {m : FieldMapping} {field : String} {op : Operator}
    {v : Value} (noFault : fault? op v = none) :
    m.comparison field op v =
      (m.transform.applyTo field v).map (.comparison m.column op) := by
  rw [comparison, noFault, Transform.applyTo]
  cases m.transform.apply v <;> rfl

end EntityQuery
