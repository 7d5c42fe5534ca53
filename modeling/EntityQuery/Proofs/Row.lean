import EntityQuery.Row
import Mathlib.Data.List.Induction

/-!
# The two views of a row

A row is built by pushing cells. A column can be read by its name, and the row can be shown as an
object. Reading gives the first cell of a column, while an object takes the value of the last one,
at the place of the first. So the keys of the object are the names of the columns in the order in
which they appear first, but its values are those that reading gives only where no name stands for
cells with different JSON forms.
-/

namespace EntityQuery

/-! ## Objects that are written field by field -/

namespace Json

variable {α : Type} {key other : String} {value : α}

theorem lookup_cons (key other : String) (value : α) (fields : List (String × α)) :
    ((key, value) :: fields).lookup other =
      if other = key then some value else fields.lookup other := by
  by_cases same : other = key
  · rw [if_pos same, same, List.lookup_cons_self]
  · have different : (other == key) = false := by simpa using same
    rw [if_neg same, List.lookup_cons, different]

theorem lookup_setField (key other : String) (value : α) (fields : List (String × α)) :
    (setField key value fields).lookup other =
      if other = key then some value else fields.lookup other := by
  induction fields with
  | nil => exact lookup_cons key other value []
  | cons field rest ih =>
      obtain ⟨k, v⟩ := field
      rw [setField]
      by_cases found : k = key
      · rw [if_pos found, found, lookup_cons, lookup_cons]
        by_cases same : other = key <;> simp [same]
      · rw [if_neg found, lookup_cons, lookup_cons, ih]
        by_cases here : other = k
        · have different : other ≠ key := fun same => found (here.symm.trans same)
          simp [here, found]
        · simp [here]

theorem keys_setField (key : String) (value : α) (fields : List (String × α)) :
    (setField key value fields).map Prod.fst =
      if key ∈ fields.map Prod.fst then fields.map Prod.fst
      else fields.map Prod.fst ++ [key] := by
  induction fields with
  | nil => rfl
  | cons field rest ih =>
      obtain ⟨k, v⟩ := field
      rw [setField]
      by_cases found : k = key
      · simp [found]
      · rw [if_neg found, List.map_cons, ih]
        by_cases later : key ∈ rest.map Prod.fst <;> simp [later, Ne.symm found]

theorem collect_append_singleton (pairs : List (String × α)) (key : String) (value : α) :
    collect (pairs ++ [(key, value)]) = setField key value (collect pairs) := by
  rw [collect, List.foldl_append]
  rfl

/-- The keys that result from writing are the ones written, in the order of their first writing. -/
theorem keys_collect (pairs : List (String × α)) :
    (collect pairs).map Prod.fst = (pairs.map Prod.fst).eraseDups := by
  induction pairs using List.reverseRecOn with
  | nil => rfl
  | append_singleton pairs pair ih =>
      obtain ⟨key, value⟩ := pair
      rw [collect_append_singleton, keys_setField, ih, List.map_append, List.eraseDups_append]
      by_cases written : key ∈ pairs.map Prod.fst <;>
        simp [written, List.removeAll, List.eraseDups_cons]

end Json

namespace Row

variable {r : Row} {column : String} {value : Value}

/-- The row that some pushes build, one after the other. -/
def ofPushes (pushes : List (String × Value)) : Row :=
  pushes.foldl (fun r (column, value) => r.push column value) ⟨[]⟩

/-- The last cell of a column. -/
def last? (r : Row) (column : String) : Option Value := r.cells.reverse.lookup column

/-! ## One push -/

theorem get?_push (r : Row) (column other : String) (value : Value) :
    (r.push column value).get? other =
      (r.get? other).or (if other = column then some value else none) := by
  rw [get?, push, List.lookup_append, Json.lookup_cons, List.lookup_nil, get?]

theorem last?_push (r : Row) (column other : String) (value : Value) :
    (r.push column value).last? other = if other = column then some value else r.last? other := by
  rw [last?, push, List.reverse_append, List.reverse_singleton, List.singleton_append,
    Json.lookup_cons, last?]

theorem field?_toJson_push (r : Row) (column other : String) (value : Value) :
    (r.push column value).toJson.field? other =
      if other = column then some value.toJson else r.toJson.field? other := by
  simp only [toJson, push, List.map_append, List.map_cons, List.map_nil,
    Json.collect_append_singleton, Json.field?, Json.lookup_setField]

/-! ## A run of pushes -/

theorem ofPushes_append_singleton (pushes : List (String × Value)) (column : String)
    (value : Value) :
    ofPushes (pushes ++ [(column, value)]) = (ofPushes pushes).push column value := by
  rw [ofPushes, List.foldl_append]
  rfl

/-- Pushes become the cells, one by one. -/
theorem cells_ofPushes (pushes : List (String × Value)) : (ofPushes pushes).cells = pushes := by
  induction pushes using List.reverseRecOn with
  | nil => rfl
  | append_singleton pushes cell ih => rw [ofPushes_append_singleton, push, ih]

/-- An object holds the last cell of a column. -/
theorem field?_toJson (pushes : List (String × Value)) (column : String) :
    (ofPushes pushes).toJson.field? column =
      ((ofPushes pushes).last? column).map Value.toJson := by
  induction pushes using List.reverseRecOn with
  | nil => rfl
  | append_singleton pushes cell ih =>
      rw [ofPushes_append_singleton, field?_toJson_push, last?_push, ih]
      split <;> rfl

/-- The columns that can be read are those with a last cell. -/
theorem isSome_get?_ofPushes (pushes : List (String × Value)) (column : String) :
    ((ofPushes pushes).get? column).isSome = ((ofPushes pushes).last? column).isSome := by
  induction pushes using List.reverseRecOn with
  | nil => rfl
  | append_singleton pushes cell ih =>
      rw [ofPushes_append_singleton, get?_push, last?_push]
      by_cases same : column = cell.1
      · simp [same]
      · simp [same, ih]

/-- A value is the one of the first push of a column. -/
def IsFirst (pushes : List (String × Value)) (column : String) (value : Value) : Prop :=
  ∃ before after, pushes = before ++ (column, value) :: after ∧ ∀ cell ∈ before, column ≠ cell.1

/-- A value is the one of the last push of a column. -/
def IsLast (pushes : List (String × Value)) (column : String) (value : Value) : Prop :=
  ∃ before after, pushes = before ++ (column, value) :: after ∧ ∀ cell ∈ after, column ≠ cell.1

variable {pushes : List (String × Value)}

theorem get?_eq_some_iff : (ofPushes pushes).get? column = some value ↔
    IsFirst pushes column value := by
  rw [get?, cells_ofPushes, List.lookup_eq_some_iff, IsFirst]
  simp only [bne_iff_ne]

theorem last?_eq_some_iff : (ofPushes pushes).last? column = some value ↔
    IsLast pushes column value := by
  rw [last?, cells_ofPushes, List.lookup_eq_some_iff, IsLast]
  simp only [bne_iff_ne]
  constructor
  · rintro ⟨after, before, split, others⟩
    have split' := congrArg List.reverse split
    refine ⟨before.reverse, after.reverse, by simpa using split', ?_⟩
    intro cell mem
    exact others cell (List.mem_reverse.1 mem)
  · rintro ⟨before, after, rfl, others⟩
    refine ⟨after.reverse, before.reverse, by simp, ?_⟩
    intro cell mem
    exact others cell (List.mem_reverse.1 mem)

/-- Whatever cells are pushed, the object of the row has the columns' names as keys, in the order of
their first appearance, and these are the names that can be read. Reading gives the first cell of a
column, and the object holds the last one. So both views agree on a column exactly if its first and
its last cell have the same JSON form. -/
theorem views_of_pushes (pushes : List (String × Value)) :
    let r := ofPushes pushes
    (∃ fields, r.toJson = .object fields ∧ fields.map Prod.fst = r.columns.eraseDups) ∧
      (∀ column, (r.get? column).isSome = (r.toJson.field? column).isSome) ∧
      (∀ column first last, IsFirst pushes column first → IsLast pushes column last →
        r.get? column = some first ∧ r.toJson.field? column = some last.toJson) ∧
      ∀ column, r.toJson.field? column = (r.get? column).map Value.toJson ↔
        ∀ first last, IsFirst pushes column first → IsLast pushes column last →
          first.toJson = last.toJson := by
  intro r
  refine ⟨⟨_, rfl, ?_⟩, ?_, ?_, ?_⟩
  · rw [Json.keys_collect, List.map_map, columns]
    rfl
  · intro column
    rw [field?_toJson, Option.isSome_map]
    exact isSome_get?_ofPushes pushes column
  · intro column first last isFirst isLast
    rw [field?_toJson, last?_eq_some_iff.2 isLast]
    exact ⟨get?_eq_some_iff.2 isFirst, rfl⟩
  · intro column
    have both := isSome_get?_ofPushes pushes column
    rw [field?_toJson]
    constructor
    · intro agree first last isFirst isLast
      rw [last?_eq_some_iff.2 isLast, get?_eq_some_iff.2 isFirst] at agree
      exact (Option.some.inj agree).symm
    · intro same
      cases first : r.get? column with
      | none =>
          have absent : r.last? column = none := by
            rw [first] at both
            simpa using both.symm
          rw [absent]
      | some value =>
          rw [first, Option.isSome_some] at both
          obtain ⟨value', last⟩ := Option.isSome_iff_exists.1 both.symm
          rw [last, Option.map_some, Option.map_some,
            same value value' (get?_eq_some_iff.1 first) (last?_eq_some_iff.1 last)]

/-- A name that stands for two cells is read as the first one and shown as the last one. -/
theorem repeated_column_differs :
    let r := ofPushes [("id", .integer 1), ("id", .integer 2)]
    r.get? "id" = some (.integer 1) ∧ r.toJson.field? "id" = some (.integer 2) ∧
      r.toJson.field? "id" ≠ (r.get? "id").map Value.toJson := by
  refine ⟨rfl, rfl, ?_⟩
  intro agree
  have same : (Json.integer 2) = .integer 1 := Option.some.inj agree
  cases same

end Row

end EntityQuery
