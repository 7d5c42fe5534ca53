import EntityQuery.Entity
import EntityQuery.Proofs.Result

/-!
# The shape of values

The type of values has lists inside lists, but no way of writing a value makes one: what is read is
flat. A transform makes a list of a list, item by item, and a scalar of a scalar, so the values of
comparisons are flat, too.
-/

namespace EntityQuery

namespace Value

/-- Whether no list stands inside a list. -/
def isFlat : Value → Bool
  | list items => items.all fun item => !item.isList
  | _ => true

variable {v : Value}

theorem isFlat_of_isList (scalar : v.isList = false) : v.isFlat := by
  cases v with
  | list items => cases scalar
  | _ => rfl

theorem isFlat_list {items : List Value} :
    (list items).isFlat ↔ ∀ item ∈ items, item.isList = false := by
  simp [isFlat]

theorem isList_of_ofScalar? {j : Json} (h : ofScalar? j = some v) : v.isList = false := by
  cases j with
  | integer i =>
      cases h
      unfold ofInt
      split <;> rfl
  | array _ | object _ => cases h
  | _ =>
      cases h
      rfl

theorem ofJson?_of_ofScalar? {j : Json} (h : ofScalar? j = some v) : ofJson? j = some v := by
  cases j with
  | array items => cases h
  | _ => exact h

theorem isFlat_of_ofJson? {j : Json} (h : ofJson? j = some v) : v.isFlat := by
  cases j with
  | array items =>
      obtain ⟨values, read, rfl⟩ := Option.map_eq_some_iff.1 h
      exact isFlat_list.2 (forall_of_forall₂ (mapM_eq_some.1 read) fun _ _ => isList_of_ofScalar?)
  | _ => exact isFlat_of_isList (isList_of_ofScalar? (by simpa [ofJson?] using h))

end Value

/-! ## Transforms -/

namespace Transform

variable {t : Transform} {v w : Value}

theorem applyScalar_shape (h : t.applyScalar v = .ok w) (given : v.isNull = false)
    (scalar : v.isList = false) : w.isNull = false ∧ w.isList = false := by
  unfold applyScalar at h
  repeat' split at h
  all_goals cases h <;> first | exact ⟨rfl, rfl⟩ | exact ⟨given, scalar⟩

/-- A transform makes null of null, a list of a list, and another scalar of any other value. -/
theorem apply_shape (h : t.apply v = .ok w) : w.isNull = v.isNull ∧ w.isList = v.isList := by
  cases v with
  | null =>
      rw [apply] at h
      cases h
      exact ⟨rfl, rfl⟩
  | list items =>
      rw [apply] at h
      obtain ⟨transformed, -, rfl⟩ := map_eq_ok.1 h
      exact ⟨rfl, rfl⟩
  | _ =>
      rw [apply] at h
      exact applyScalar_shape h rfl rfl

theorem apply_isNull (h : t.apply v = .ok w) : w.isNull = v.isNull := (apply_shape h).1

theorem apply_isList (h : t.apply v = .ok w) : w.isList = v.isList := (apply_shape h).2

theorem applyAll_eq_ok {items transformed : List Value} (h : t.applyAll items = .ok transformed) :
    List.Forall₂ (fun v w => t.apply v = .ok w) items transformed := by
  induction items generalizing transformed with
  | nil =>
      rw [applyAll] at h
      cases h
      exact .nil
  | cons item items ih =>
      rw [applyAll] at h
      obtain ⟨first, applied, h⟩ := bind_eq_ok.1 h
      obtain ⟨others, rest, h⟩ := bind_eq_ok.1 h
      cases h
      exact .cons applied (ih rest)

theorem apply_isFlat (h : t.apply v = .ok w) (flat : v.isFlat) : w.isFlat := by
  cases kind : v.isList with
  | false => exact Value.isFlat_of_isList ((apply_isList h).trans kind)
  | true =>
      cases v with
      | list items =>
          rw [apply] at h
          obtain ⟨transformed, applied, rfl⟩ := map_eq_ok.1 h
          have scalars := Value.isFlat_list.1 flat
          have each := (List.forall₂_and_left _ _).2 ⟨scalars, applyAll_eq_ok applied⟩
          refine Value.isFlat_list.2 (forall_of_forall₂ each ?_)
          rintro v w ⟨scalar, applied⟩
          exact (apply_isList applied).trans scalar
      | _ => cases kind

end Transform

namespace FieldMapping

variable {m : FieldMapping} {field : String} {op : Operator} {v : Value} {c : Condition}

/-- A comparison without a fault has a list exactly where its operator asks for one. -/
theorem isList_of_noFault (noFault : fault? op v = none) : v.isList = op.isMembership := by
  cases v <;> cases kind : op.isMembership <;> simp_all [fault?, Value.isList]

/-- A comparison that is read compares the column with the transformed value. -/
theorem comparison_eq_ok (h : m.comparison field op v = .ok c) :
    fault? op v = none ∧
      ∃ w, m.transform.apply v = .ok w ∧ c = .comparison m.column op w := by
  unfold comparison at h
  split at h
  · cases h
  · next noFault =>
      split at h
      · next w transformed =>
          cases h
          exact ⟨noFault, w, transformed, rfl⟩
      · cases h

/-- A comparison is refused because of its value. -/
theorem comparison_error {e : QueryError} (h : m.comparison field op v = .error e) :
    ∃ fault, e = .invalidValue field fault := by
  unfold comparison at h
  split at h
  · cases h
    exact ⟨_, rfl⟩
  · split at h
    · cases h
    · cases h
      exact ⟨_, rfl⟩

end FieldMapping

end EntityQuery
