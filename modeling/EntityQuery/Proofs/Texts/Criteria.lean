import EntityQuery.Entity.Reader
import EntityQuery.Proofs.Memory.Operation
import EntityQuery.Proofs.Texts.Mapped
import EntityQuery.Proofs.Values

/-!
# Texts in criteria

What criteria compare with are scalars and lists of scalars, alone or with an operator in front.
Where the transform of a field changes each text on its own, criteria with other texts are read to
the same condition with other texts, and the texts in it are those of the criteria after the
transform, in the same order. Criteria are outlined by leaving the contents of such texts out.
-/

namespace EntityQuery

open Lookup

/-! ## Exchange values -/

namespace Json

/-- A scalar with its text changed, if it is one. -/
def mapScalar (f : String → String) : Json → Json
  | string s => string (f s)
  | v => v

/-- A scalar or a list of scalars with every text in it changed. -/
def mapTexts (f : String → String) : Json → Json
  | array items => array (items.map (mapScalar f))
  | v => v.mapScalar f

/-- The texts of a scalar or of a list of scalars. -/
def texts : Json → List String
  | array items => items.filterMap asText?
  | v => v.asText?.toList

end Json

/-- Fields with the values changed. -/
def mapFields (g : String → Json → Json) (fields : List (String × Json)) : List (String × Json) :=
  fields.map fun x => (x.1, g x.1 x.2)

theorem lookup_mapFields (g : String → Json → Json) (key : String)
    (fields : List (String × Json)) :
    (mapFields g fields).lookup key = (fields.lookup key).map (g key) := by
  induction fields with
  | nil => rfl
  | cons x rest ih =>
      rw [mapFields] at ih
      rw [mapFields, List.map_cons, List.lookup_cons, List.lookup_cons]
      cases here : key == x.1 with
      | false => exact ih
      | true => rw [eq_of_beq here]; rfl

theorem length_mapFields (g : String → Json → Json) (fields : List (String × Json)) :
    (mapFields g fields).length = fields.length := List.length_map _

namespace Criteria

/-- What a key is compared with, with every text in it changed; an operator stays as it is. -/
def mapOperand (f : String → String) : Json → Json
  | .object fields =>
    .object (mapFields (fun key v => if key = "value" then v.mapTexts f else v) fields)
  | v => v.mapTexts f

/-- The texts that a key is compared with. -/
def operandTexts : Json → List String
  | .object fields => ((fields.lookup "value").map Json.texts).getD []
  | v => v.texts

end Criteria

namespace Value

variable (f : String → String)

theorem mapTexts_ofInt (i : Int) : (ofInt i).mapTexts f = ofInt i := by
  unfold ofInt
  split <;> rw [mapTexts]

theorem ofScalar?_mapScalar (j : Json) :
    ofScalar? (j.mapScalar f) = (ofScalar? j).map (mapTexts f) := by
  cases j with
  | integer i => exact congrArg some (mapTexts_ofInt f i).symm
  | _ => simp only [Json.mapScalar, ofScalar?, Option.map_some, Option.map_none, mapTexts]

theorem ofScalars?_mapScalar (items : List Json) :
    (items.map (Json.mapScalar f)).mapM ofScalar? =
      (items.mapM ofScalar?).map (List.map (mapTexts f)) := by
  induction items with
  | nil => rfl
  | cons j rest ih =>
      rw [List.map_cons, List.mapM_cons, List.mapM_cons, ofScalar?_mapScalar, ih]
      cases ofScalar? j with
      | none => rfl
      | some v => cases rest.mapM ofScalar? <;> rfl

theorem ofJson?_mapTexts (j : Json) : ofJson? (j.mapTexts f) = (ofJson? j).map (mapTexts f) := by
  cases j with
  | array items =>
      rw [Json.mapTexts, ofJson?_array, ofJson?_array, ofScalars?_mapScalar]
      cases items.mapM ofScalar? with
      | none => rfl
      | some values => simp only [Option.map_some, mapTexts_list]
  | null => exact ofScalar?_mapScalar f .null
  | bool b => exact ofScalar?_mapScalar f (.bool b)
  | integer i => exact ofScalar?_mapScalar f (.integer i)
  | real d => exact ofScalar?_mapScalar f (.real d)
  | string s => exact ofScalar?_mapScalar f (.string s)
  | object fields => exact ofScalar?_mapScalar f (.object fields)

/-- The value of a scalar has the text of the scalar. -/
theorem texts_of_ofScalar? {j : Json} {v : Value} (h : ofScalar? j = some v) :
    v.texts = j.asText?.toList := by
  cases j with
  | integer i =>
      cases h
      unfold ofInt
      split <;> rw [texts] <;> rfl
  | array items => cases h
  | object fields => cases h
  | _ =>
      cases h
      rw [texts]
      rfl

theorem texts_of_ofScalars? {items : List Json} {values : List Value}
    (h : items.mapM ofScalar? = some values) :
    values.flatMap texts = items.filterMap Json.asText? := by
  have each := mapM_eq_some.1 h
  clear h
  induction each with
  | nil => rfl
  | @cons j v rest others first further ih =>
      rw [List.flatMap_cons, texts_of_ofScalar? first, ih]
      cases word : j.asText? with
      | none => rw [List.filterMap_cons_none word]; rfl
      | some s => rw [List.filterMap_cons_some word]; rfl

theorem texts_of_ofJson? {j : Json} {v : Value} (h : ofJson? j = some v) :
    v.texts = j.texts := by
  cases j with
  | array items =>
      rw [ofJson?_array] at h
      obtain ⟨values, read, rfl⟩ := Option.map_eq_some_iff.1 h
      rw [texts_list]
      exact texts_of_ofScalars? read
  | null => exact texts_of_ofScalar? (j := .null) h
  | bool b => exact texts_of_ofScalar? (j := .bool b) h
  | integer i => exact texts_of_ofScalar? (j := .integer i) h
  | real d => exact texts_of_ofScalar? (j := .real d) h
  | string s => exact texts_of_ofScalar? (j := .string s) h
  | object fields => cases h

end Value

namespace Criteria

/-- An operand with other texts is read to the same operator and to the value with other texts, and
it is refused alike. -/
theorem operand_mapOperand (f : String → String) (j : Json) :
    operand (mapOperand f j) = (operand j).map fun x => (x.1, x.2.mapTexts f) := by
  cases j with
  | object fields =>
      have spelled : ((fields.lookup "op").map fun v =>
          if "op" = "value" then v.mapTexts f else v) = fields.lookup "op" := by
        simp
      have compared : ((fields.lookup "value").map fun v =>
          if "value" = "value" then v.mapTexts f else v) =
            (fields.lookup "value").map (Json.mapTexts f) := by
        simp
      rw [mapOperand, operand, operand, lookup_mapFields, lookup_mapFields, length_mapFields,
        spelled, compared]
      cases fields.lookup "op" with
      | none => rfl
      | some op =>
          cases fields.lookup "value" with
          | none => rfl
          | some value =>
              match fields.length with
              | 0 | 1 | _ + 3 => rfl
              | 2 =>
                  simp only [Option.map_some, Value.ofJson?_mapTexts]
                  cases op with
                  | string s =>
                      dsimp only
                      cases Operator.ofText? s with
                      | none => rfl
                      | some operator => cases Value.ofJson? value <;> rfl
                  | _ => rfl
  | integer i =>
      exact congrArg (fun v => Except.ok (Operator.eq, v)) (Value.mapTexts_ofInt f i).symm
  | _ => rfl

theorem texts_of_operand {j : Json} {op : Operator} {v : Value} (h : operand j = .ok (op, v)) :
    v.texts = operandTexts j := by
  obtain ⟨fields, value, rfl, compared, read⟩ | scalar := operand_cases h
  · rw [operandTexts, compared]
    exact Value.texts_of_ofJson? read
  · have read := Value.ofJson?_of_ofScalar? scalar
    cases j with
    | object fields => cases scalar
    | _ => exact Value.texts_of_ofJson? read

end Criteria

/-! ## Transforms -/

namespace Transform

/-- What a transform makes of each text, if this is all that it does. -/
def textMap? : Transform → Option (String → String)
  | identity => some id
  | lowercase => some Unicode.lower
  | uppercase => some Unicode.upper
  | text | integer | boolean => none

mutual

/-- A transform that changes texts only gives the value with each text changed, if it fits. -/
theorem apply_eq_mapTexts {t : Transform} {g : String → String} (known : t.textMap? = some g) :
    ∀ {v w : Value}, t.apply v = .ok w → w = v.mapTexts g
  | .null, w, h => by
      rw [apply_null] at h
      cases h
      rw [Value.mapTexts]
  | .list items, w, h => by
      rw [apply] at h
      obtain ⟨others, each, rfl⟩ := map_eq_ok.1 h
      rw [Value.mapTexts, applyAll_eq_mapAllTexts known each]
  | .bool _, w, h | .integer _, w, h | .float _, w, h | .text _, w, h => by
      rw [apply] at h
      rw [Value.mapTexts]
      cases t <;> cases known <;> cases h <;> rfl

theorem applyAll_eq_mapAllTexts {t : Transform} {g : String → String}
    (known : t.textMap? = some g) : ∀ {items others : List Value},
      applyAll t items = .ok others → others = Value.mapAllTexts g items
  | [], others, h => by
      rw [applyAll_nil] at h
      cases h
      rw [Value.mapAllTexts]
  | v :: rest, others, h => by
      rw [applyAll] at h
      obtain ⟨w, first, h⟩ := bind_eq_ok.1 h
      obtain ⟨ws, further, h⟩ := bind_eq_ok.1 h
      cases h
      rw [Value.mapAllTexts, apply_eq_mapTexts known first, applyAll_eq_mapAllTexts known further]

end

end Transform

namespace FieldMapping

/-- The texts that a field is compared with: each text of the value after the transform. Where the
transform does more, they are those of the transformed value. -/
def sentTexts (m : FieldMapping) (v : Json) : List String :=
  match m.transform.textMap? with
  | some g => (Criteria.operandTexts v).map g
  | none =>
    match Criteria.operand v with
    | .error _ => []
    | .ok (_, value) =>
      match m.transform.apply value with
      | .error _ => []
      | .ok w => w.texts

end FieldMapping

/-! ## Comparisons -/

/-- A text without its contents. -/
def blankText (_ : String) : String := ""

namespace Persister

/-- What a field is compared with, without the contents of texts if the transform of the field
changes each of them on its own. -/
def outline (p : Persister) (field : String) (v : Json) : Json :=
  match (p.catalog.mapping? p.entity field).bind (·.transform.textMap?) with
  | some _ => Criteria.mapOperand blankText v
  | none => v

/-- The texts that a field is compared with; a field that is none is compared with nothing. -/
def sentTexts (p : Persister) (field : String) (v : Json) : List String :=
  (p.catalog.mapping? p.entity field).elim [] (·.sentTexts v)

end Persister

namespace Criteria

variable {p : Persister} {field key : String} {v v' : Json} {c c' : Condition}
  {criteria criteria' : Criteria}

/-- What a comparison consists of. -/
theorem parts_of_comparison (read : (comparison p field v).fresh = .ok c) :
    ∃ m op value w, p.catalog.mapping? p.entity field = some m ∧ operand v = .ok (op, value) ∧
      m.transform.apply value = .ok w ∧ c = .comparison m.column op w := by
  obtain ⟨m, op, value, known, operand, compared⟩ := comparison_eq_ok.1 read
  obtain ⟨-, w, transformed, rfl⟩ := FieldMapping.comparison_eq_ok compared
  exact ⟨m, op, value, w, known, operand, transformed, rfl⟩

/-- Comparisons with one outline are read to the same condition but for its texts. -/
theorem mapTexts_comparison (alike : p.outline field v = p.outline field v')
    (read : (comparison p field v).fresh = .ok c)
    (read' : (comparison p field v').fresh = .ok c') :
    c.mapTexts blankText = c'.mapTexts blankText := by
  obtain ⟨m, op, value, w, known, operand, transformed, rfl⟩ := parts_of_comparison read
  obtain ⟨m', op', value', w', known', operand', transformed', rfl⟩ := parts_of_comparison read'
  cases known.symm.trans known'
  rw [Persister.outline, Persister.outline, known, Option.bind_some] at alike
  cases changes : m.transform.textMap? with
  | none =>
      -- Here the outline is the value itself, so there is only one run.
      rw [changes] at alike
      cases alike
      cases operand.symm.trans operand'
      cases transformed.symm.trans transformed'
      rfl
  | some g =>
      -- Leaving the contents out undoes the transform: after it, the values have one outline, too.
      rw [changes] at alike
      have outlined := congrArg Criteria.operand alike
      rw [operand_mapOperand, operand_mapOperand, operand, operand'] at outlined
      obtain ⟨rfl, values⟩ := Prod.mk.inj (Except.ok.inj outlined)
      rw [Transform.apply_eq_mapTexts changes transformed,
        Transform.apply_eq_mapTexts changes transformed', Condition.mapTexts, Condition.mapTexts,
        Value.mapTexts_mapTexts, Value.mapTexts_mapTexts]
      exact congrArg (Condition.comparison m.column op) values

/-- The texts that a comparison is read to are the texts that are sent. -/
theorem texts_comparison (read : (comparison p field v).fresh = .ok c) :
    c.texts = p.sentTexts field v := by
  obtain ⟨m, op, value, w, known, operand, transformed, rfl⟩ := parts_of_comparison read
  rw [Condition.texts_comparison, Persister.sentTexts, known, Option.elim_some,
    FieldMapping.sentTexts]
  cases changes : m.transform.textMap? with
  | none =>
      dsimp only
      rw [operand]
      dsimp only
      rw [transformed]
  | some g =>
      dsimp only
      rw [Transform.apply_eq_mapTexts changes transformed, Value.texts_mapTexts,
        texts_of_operand operand]

/-- Criteria without the contents of texts of fields whose transform changes each text on its own.
What stands under the reserved key stays as it is. -/
def outline (p : Persister) (reserved? : Option String) (criteria : Criteria) : Criteria :=
  mapFields (fun field v => if reserved? = some field then v else p.outline field v) criteria

/-- Entries that differ only in what does not matter to their results have the same results, as far
as these matter. -/
theorem map_eq_of_mapFields {α β : Type} {g : String → Json → Json} {h : α → β}
    {R : String × Json → α → Prop}
    (same : ∀ field v v' a a', g field v = g field v' → R (field, v) a → R (field, v') a' →
      h a = h a')
    {fields fields' : List (String × Json)} {as as' : List α}
    (alike : mapFields g fields = mapFields g fields') (read : List.Forall₂ R fields as)
    (read' : List.Forall₂ R fields' as') : as.map h = as'.map h := by
  induction read generalizing fields' as' with
  | nil =>
      cases read' with
      | nil => rfl
      | cons => cases alike
  | @cons x a fields as first further ih =>
      cases read' with
      | nil => cases alike
      | @cons x' a' fields' as' first' further' =>
          obtain ⟨entry, entries⟩ := List.cons.inj alike
          obtain ⟨field, v⟩ := x
          obtain ⟨field', v'⟩ := x'
          obtain ⟨rfl, values⟩ := Prod.mk.inj entry
          rw [List.map_cons, List.map_cons, same field v v' a a' values first first',
            ih entries further']

theorem filter_outline (p : Persister) (key : String) (criteria : Criteria) :
    (outline p (some key) criteria).filter (·.1 != key) =
      mapFields p.outline (criteria.filter (·.1 != key)) := by
  rw [outline, mapFields, List.filter_map]
  refine List.map_congr_left fun x mem => ?_
  have other : x.1 ≠ key := by simpa using List.of_mem_filter mem
  rw [if_neg fun same => other (Option.some.inj same).symm]

/-- Criteria with one outline are read to the same condition but for its texts. -/
theorem mapTexts_condition (alike : criteria.outline p (some key) = criteria'.outline p (some key))
    (read : (condition p key criteria).fresh = .ok c)
    (read' : (condition p key criteria').fresh = .ok c') :
    c.mapTexts blankText = c'.mapTexts blankText := by
  obtain ⟨cs, each, rfl⟩ := condition_eq_ok.1 read
  obtain ⟨cs', each', rfl⟩ := condition_eq_ok.1 read'
  have entries := congrArg (List.filter (·.1 != key)) alike
  rw [filter_outline, filter_outline] at entries
  rw [Condition.mapTexts_conj, Condition.mapTexts_conj]
  refine congrArg Condition.conj (map_eq_of_mapFields ?_ entries each each')
  exact fun field v v' c c' same compared compared' => mapTexts_comparison same compared compared'

/-- The texts that criteria are read to are the texts that are sent. -/
theorem texts_condition (read : (condition p key criteria).fresh = .ok c) :
    c.texts = (criteria.filter (·.1 != key)).flatMap fun x => p.sentTexts x.1 x.2 := by
  obtain ⟨cs, compared, rfl⟩ := condition_eq_ok.1 read
  clear read
  rw [Condition.texts_conj]
  generalize criteria.filter (·.1 != key) = entries at compared
  induction compared with
  | nil => rfl
  | cons first further ih => rw [List.flatMap_cons, List.flatMap_cons, texts_comparison first, ih]

end Criteria

end EntityQuery
