import EntityQuery.Persister
import EntityQuery.Proofs.Reading.Literal

/-!
# Conditions in normal form

A condition in normal form is one that query text can say as it is: connectives have several members
and none of their own kind directly below, there is no raw SQL, and every comparison is one that the
field accepts, with operands that have a spelling of their own. Floats are left out, since their
digits need not be read back as the same float, and so is the empty list, which has no notation.
-/

namespace EntityQuery

namespace Value

/-- Whether a value is null, a truth value, an integer or a text. -/
def isPlain : Value → Bool
  | null | bool _ | integer _ | text _ => true
  | float _ | list _ => false

/-- Whether a value is a plain scalar or a list of at least one. -/
def isPlainOperand : Value → Bool
  | list items => !items.isEmpty && items.all isPlain
  | v => v.isPlain

end Value

/-- Every field of the persister's entity has a plain name, which is no reserved word, and is stored
as it is in a column of that name. -/
def Persister.IsPlain (p : Persister) : Prop :=
  ∀ field mapping, p.catalog.mapping? p.entity field = some mapping →
    mapping = ⟨field, .identity⟩ ∧ ConditionText.isPlainWord field.toList ∧
      Unicode.upper field ∉ ConditionText.reservedWords

/-- In particular an entity is plain if none of the names of its fields is a keyword. -/
theorem Persister.IsPlain.of_noKeyword {p : Persister}
    (h : ∀ field mapping, p.catalog.mapping? p.entity field = some mapping →
      mapping = ⟨field, .identity⟩ ∧ ConditionText.isPlainWord field.toList ∧
        Unicode.upper field ∉ ConditionText.allKeywords) : p.IsPlain := by
  intro field mapping known
  obtain ⟨same, plain, noKeyword⟩ := h field mapping known
  exact ⟨same, plain, fun reserved => noKeyword (ConditionText.reservedWords_subset reserved)⟩

/-- An entity is plain if every field has the column of its name and no transform, and all names are
plain. -/
theorem Persister.IsPlain.of_definition {p : Persister} {e : EntityDefinition}
    (defined : p.catalog.find? p.entity = some e)
    (fields : ∀ f ∈ e.fields, f.column.getD f.name = f.name ∧ f.transform = .identity)
    (names : ∀ name ∈ e.fields.map (·.name) ++ e.identifier,
      ConditionText.isPlainWord name.toList ∧
        Unicode.upper name ∉ ConditionText.reservedWords) : p.IsPlain := by
  intro field mapping known
  obtain ⟨f, mem, same, rfl⟩ | ⟨listed, rfl⟩ := Catalog.mapping?_cases defined known
  · obtain ⟨column, transform⟩ := fields f mem
    rw [← same, column, transform]
    exact ⟨rfl, names f.name (List.mem_append_left _ (List.mem_map_of_mem mem))⟩
  · exact ⟨rfl, names field (List.mem_append_right _ listed)⟩

/-! ## Comparisons that are kept as they are -/

namespace FieldMapping

mutual

theorem apply_identity : ∀ v : Value, Transform.identity.apply v = .ok v
  | .null | .bool _ | .integer _ | .float _ | .text _ => by
      simp [Transform.apply, Transform.applyScalar]
  | .list items => by
      rw [Transform.apply, applyAll_identity items]
      rfl

theorem applyAll_identity : ∀ vs : List Value, Transform.identity.applyAll vs = .ok vs
  | [] => Transform.applyAll_nil _
  | v :: vs => by
      rw [Transform.applyAll, apply_identity v, applyAll_identity vs]
      rfl

end

/-- A comparison without a fault is kept as it is by a plain field. -/
theorem comparison_of_noFault (column : String) {op : Operator} {v : Value}
    (h : fault? op v = none) :
    comparison ⟨column, .identity⟩ column op v = .ok (.comparison column op v) := by
  simp [comparison, h, apply_identity]

end FieldMapping

namespace Condition

/-- Whether a condition is a conjunction. -/
def isAll : Condition → Bool
  | all _ => true
  | _ => false

/-- Whether a condition is a disjunction. -/
def isAny : Condition → Bool
  | any _ => true
  | _ => false

/-- The conditions in normal form on the fields of a persister's entity. -/
inductive Normal (p : Persister) : Condition → Prop
  | comparison {column : String} {op : Operator} {value : Value} {mapping : FieldMapping}
      {c : Condition} (known : p.catalog.mapping? p.entity column = some mapping)
      (plain : value.isPlainOperand) (passes : mapping.comparison column op value = .ok c) :
      Normal p (comparison column op value)
  | all {members : List Condition} (several : 2 ≤ members.length)
      (flat : ∀ c ∈ members, c.isAll = false) (normal : ∀ c ∈ members, Normal p c) :
      Normal p (all members)
  | any {members : List Condition} (several : 2 ≤ members.length)
      (flat : ∀ c ∈ members, c.isAny = false) (normal : ∀ c ∈ members, Normal p c) :
      Normal p (any members)

theorem Normal.of_noFault {p : Persister} {column : String} {op : Operator} {value : Value}
    (known : p.catalog.mapping? p.entity column = some ⟨column, .identity⟩)
    (plain : value.isPlainOperand) (noFault : FieldMapping.fault? op value = none) :
    Normal p (Condition.comparison column op value) :=
  .comparison known plain (FieldMapping.comparison_of_noFault column noFault)

section

variable {c : Condition} {members : List Condition}

theorem flatMap_conjuncts (flat : ∀ c ∈ members, c.isAll = false) :
    members.flatMap conjuncts = members := by
  induction members with
  | nil => rfl
  | cons c rest ih =>
      have self : conjuncts c = [c] := by
        have single := flat c List.mem_cons_self
        cases c <;> first | rfl | cases single
      rw [List.flatMap_cons, self, ih fun d mem => flat d (List.mem_cons_of_mem c mem)]
      rfl

theorem flatMap_disjuncts (flat : ∀ c ∈ members, c.isAny = false) :
    members.flatMap disjuncts = members := by
  induction members with
  | nil => rfl
  | cons c rest ih =>
      have self : disjuncts c = [c] := by
        have single := flat c List.mem_cons_self
        cases c <;> first | rfl | cases single
      rw [List.flatMap_cons, self, ih fun d mem => flat d (List.mem_cons_of_mem c mem)]
      rfl

/-- Conjunctions of conjunctions are flat. -/
theorem conj_conj (flat : ∀ c ∈ members, c.isAll = false) (c : Condition) :
    conj [conj members, c] = conj (members ++ [c]) := by
  have members_eq : conjuncts (conj members) = members.flatMap conjuncts := by
    rw [conj, flatMap_conjuncts flat]
    split
    · next only => simpa using flatMap_conjuncts flat
    · rfl
  have contributed : [conj members, c].flatMap conjuncts = (members ++ [c]).flatMap conjuncts := by
    simp only [List.flatMap_cons, List.flatMap_nil, List.flatMap_append, members_eq]
  rw [conj, contributed, conj]

/-- Disjunctions of disjunctions are flat. -/
theorem disj_disj (flat : ∀ c ∈ members, c.isAny = false) (c : Condition) :
    disj [disj members, c] = disj (members ++ [c]) := by
  have members_eq : disjuncts (disj members) = members.flatMap disjuncts := by
    rw [disj, flatMap_disjuncts flat]
    split
    · next only => simpa using flatMap_disjuncts flat
    · rfl
  have contributed : [disj members, c].flatMap disjuncts = (members ++ [c]).flatMap disjuncts := by
    simp only [List.flatMap_cons, List.flatMap_nil, List.flatMap_append, members_eq]
  rw [disj, contributed, disj]

theorem conj_of_flat (several : 2 ≤ members.length) (flat : ∀ c ∈ members, c.isAll = false) :
    conj members = all members := by
  rw [conj, flatMap_conjuncts flat]
  split
  · simp at several
  · rfl

theorem disj_of_flat (several : 2 ≤ members.length) (flat : ∀ c ∈ members, c.isAny = false) :
    disj members = any members := by
  rw [disj, flatMap_disjuncts flat]
  split
  · simp at several
  · rfl

theorem conj_single (flat : c.isAll = false) : conj [c] = c := by
  rw [conj, flatMap_conjuncts (by simpa using flat)]

theorem disj_single (flat : c.isAny = false) : disj [c] = c := by
  rw [disj, flatMap_disjuncts (by simpa using flat)]

end

mutual

/-- How many readings are nested inside the one of a condition's display: an operand is inside its
comparison, and the members of a connective are inside its parentheses. -/
def nesting : Condition → Nat
  | comparison _ _ value => value.nesting + 1
  | all [] | any [] | raw _ => 0
  | all (c :: rest) | any (c :: rest) => max c.nesting (nestingAll rest) + 1

/-- The deepest nesting of further members, which are inside the reading of the first one. -/
def nestingAll : List Condition → Nat
  | [] => 0
  | c :: rest => max (c.nesting + 1) (nestingAll rest)

end

theorem nesting_lt_nestingAll {c : Condition} {members : List Condition} (mem : c ∈ members) :
    c.nesting < nestingAll members := by
  induction members with
  | nil => cases mem
  | cons d rest ih =>
      rw [nestingAll]
      obtain rfl | mem := List.mem_cons.1 mem
      · exact Nat.le_max_left _ _
      · exact Nat.lt_of_lt_of_le (ih mem) (Nat.le_max_right _ _)

end Condition

end EntityQuery
