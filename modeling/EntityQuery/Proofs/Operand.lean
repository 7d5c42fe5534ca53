import EntityQuery.Proofs.Values

/-!
# What operators ask of their operands

An operator permits an operand by four rules: a list stands with a membership test and nowhere else,
nothing in a list is null, null is compared for being equal or not, and a pattern is text. The check
of a comparison is exactly these rules, asked of the value as it is given.

The operand of the comparison is the transformed value, and it is not checked again. A transform
changes neither null nor lists, so the first three rules still hold of it. The last one does exactly
where the transform keeps texts; integers and truth values read from text pass as patterns.
-/

namespace EntityQuery

namespace Value

/-- The items of a list; no other value has any. -/
def items : Value → List Value
  | list items => items
  | _ => []

/-- Whether a value is text. -/
def isText : Value → Bool
  | text _ => true
  | _ => false

theorem isFlat_iff {v : Value} : v.isFlat ↔ ∀ item ∈ v.items, item.isList = false := by
  cases v <;> simp [isFlat, items]

end Value

/-- What an operator asks of its operand. -/
structure Operator.Permits (op : Operator) (v : Value) : Prop where
  list : v.isList = op.isMembership
  items : ∀ item ∈ v.items, item.isNull = false
  null : v.isNull → op.isEquality
  pattern : op.isPattern → v.isText

/-- The check of a comparison is what its operator asks of the value. -/
theorem FieldMapping.fault?_eq_none_iff {op : Operator} {v : Value} :
    fault? op v = none ↔ op.Permits v := by
  -- both sides are tables over the ten operators and the six kinds of values
  constructor
  · intro noFault
    refine ⟨isList_of_noFault noFault, ?_, ?_, ?_⟩
    all_goals cases v <;> cases op <;> simp_all [fault?, Value.items, Value.isNull, Value.isText,
      Operator.isMembership, Operator.isEquality, Operator.isPattern]
  · rintro ⟨list, items, null, pattern⟩
    cases v <;> cases op <;> simp_all [fault?, Value.items, Value.isList, Value.isNull,
      Value.isText, Operator.isMembership, Operator.isEquality, Operator.isPattern]

/-! ## Transformed operands -/

namespace Transform

variable {t : Transform} {v w : Value}

/-- Whether a transform makes text of text. -/
def keepsText : Transform → Bool
  | integer | boolean => false
  | _ => true

/-- The items of a transformed list are the transformed items of the list. -/
theorem apply_items (h : t.apply v = .ok w) :
    List.Forall₂ (fun a b => t.apply a = .ok b) v.items w.items := by
  cases v with
  | list items =>
      rw [apply] at h
      obtain ⟨transformed, applied, rfl⟩ := map_eq_ok.1 h
      exact applyAll_eq_ok applied
  | _ =>
      have noItems : w.items = [] := by
        have scalar := apply_isList h
        cases w <;> first | rfl | cases scalar
      rw [noItems]
      exact .nil

/-- Text is transformed to text exactly by the transforms that keep texts. -/
theorem apply_isText {s : String} (h : t.apply (.text s) = .ok w) : w.isText = t.keepsText := by
  rw [apply] at h
  cases t <;> rw [applyScalar] at h <;> repeat' split at h
  all_goals cases h <;> rfl

end Transform

namespace FieldMapping

variable {m : FieldMapping} {field : String} {op : Operator} {v : Value} {c : Condition}

/-- The operand of a comparison is a list exactly for a membership test, the items of a list are not
null, and no lists either if none of the given ones was; null is compared for being equal or not,
and a pattern is text exactly if the transform of the field keeps texts. -/
theorem comparison_permits (h : m.comparison field op v = .ok c) :
    ∃ w, c = .comparison m.column op w ∧
      w.isList = op.isMembership ∧
      (∀ item ∈ w.items, item.isNull = false ∧ (v.isFlat → item.isList = false)) ∧
      (w.isNull → op.isEquality) ∧
      (op.isPattern → w.isText = m.transform.keepsText) := by
  obtain ⟨noFault, w, applied, rfl⟩ := comparison_eq_ok h
  have given := fault?_eq_none_iff.1 noFault
  refine ⟨w, rfl, (Transform.apply_isList applied).trans given.list, ?_, ?_, ?_⟩
  · have items : ∀ item ∈ v.items, item.isNull = false ∧ (v.isFlat → item.isList = false) :=
      fun item mem => ⟨given.items item mem, fun flat => Value.isFlat_iff.1 flat item mem⟩
    have each := (List.forall₂_and_left _ _).2 ⟨items, Transform.apply_items applied⟩
    refine forall_of_forall₂ each ?_
    rintro a b ⟨⟨nonNull, scalar⟩, applied⟩
    exact ⟨(Transform.apply_isNull applied).trans nonNull,
      fun flat => (Transform.apply_isList applied).trans (scalar flat)⟩
  · rw [Transform.apply_isNull applied]
    exact given.null
  · intro pattern
    have text := given.pattern pattern
    cases v with
    | text s => exact Transform.apply_isText applied
    | _ => cases text

/-- Two numbers that are written as texts are the operand of a membership test. -/
theorem counts_permitted :
    ∃ w, comparison ⟨"cnt", .integer⟩ "count" .isIn (.list [.text "12", .text "7"]) =
        .ok (.comparison "cnt" .isIn w) ∧
      w.isList ∧ ∀ item ∈ w.items, item.isNull = false ∧ item.isList = false := by
  have read : comparison ⟨"cnt", .integer⟩ "count" .isIn (.list [.text "12", .text "7"]) =
      .ok (.comparison "cnt" .isIn (.list [.integer 12, .integer 7])) := rfl
  obtain ⟨w, same, list, items, -, -⟩ := comparison_permits read
  exact ⟨w, read.trans (congrArg _ same), list,
    fun item mem => (items item mem).imp_right fun scalar => scalar rfl⟩

/-- A pattern for a column of integers passes the check as text and is compared as an integer. -/
theorem pattern_of_integer :
    comparison ⟨"cnt", .integer⟩ "count" .like (.text "12") =
        .ok (.comparison "cnt" .like (.integer 12)) ∧
      Operator.like.Permits (.text "12") ∧ ¬ Operator.like.Permits (.integer 12) := by
  refine ⟨rfl, fault?_eq_none_iff.1 rfl, fun permitted => ?_⟩
  cases permitted.pattern rfl

end FieldMapping

end EntityQuery
