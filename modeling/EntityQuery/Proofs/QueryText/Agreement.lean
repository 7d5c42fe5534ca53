import EntityQuery.Proofs.Memory.Operation
import EntityQuery.Proofs.QueryText.Comparison
import EntityQuery.Proofs.Reading.Whole

/-!
# Criteria as query text

A test of a field can be an entry of criteria, with an operator and a value, and a comparison in
query text. Criteria are read entry by entry and joined once; in query text the tests stand in a
chain that is grouped to the left and joined pair by pair. Both come to the same flat conjunction of
what the tests come to, and the first test that is refused decides the error of both.
-/

namespace EntityQuery

open ConditionText Lookup

/-- A field, an operator and a value to compare with. -/
structure FieldTest where
  field : String
  op : Operator
  value : Value

namespace FieldTest

/-- The test in query text. -/
def text (t : FieldTest) : String := t.field ++ " " ++ t.op.text ++ " " ++ t.value.display

/-- The test as an entry of criteria. -/
def entry (t : FieldTest) : String × Json :=
  (t.field, .object [("op", .string t.op.text), ("value", t.value.toJson)])

/-- What a test comes to by the catalog alone. -/
def condition (p : Persister) (t : FieldTest) : QueryResult Condition := do
  let m ← p.mapping t.field
  m.comparison t.field t.op t.value

/-- A test that can be written both ways: its field has a plain name, which is no reserved word and
not the reserved key of the criteria, and its operand is a plain scalar or, for a membership test, a
list of at least one. -/
structure IsPlain (key : String) (t : FieldTest) : Prop where
  word : isPlainWord t.field.toList
  free : Unicode.upper t.field ∉ reservedWords
  unreserved : t.field ≠ key
  operand : t.value.isPlainOperand
  kind : t.value.isList = t.op.isMembership

variable {p : Persister} {key : String} {t : FieldTest} {tests : List FieldTest}

/-- A test comes to a single comparison. -/
theorem isAll_of_condition {c : Condition} (h : t.condition p = .ok c) : c.isAll = false := by
  obtain ⟨m, -, h⟩ := bind_eq_ok.1 h
  obtain ⟨-, w, -, rfl⟩ := FieldMapping.comparison_eq_ok h
  rfl

/-- A test is refused because of its field or because of its value. -/
theorem condition_error {e : QueryError} (h : t.condition p = .error e) :
    e = .unknownField p.entity t.field ∨ ∃ fault, e = .invalidValue t.field fault := by
  rw [condition, Persister.mapping] at h
  cases known : p.catalog.mapping? p.entity t.field with
  | none =>
      rw [known] at h
      cases h
      exact .inl rfl
  | some m =>
      rw [known] at h
      exact .inr (FieldMapping.comparison_error h)

/-- What tests come to together: the flat conjunction, or the error of the first test that is
refused. -/
def conjunction (p : Persister) (tests : List FieldTest) : QueryResult Condition :=
  (tests.mapM (condition p)).map Condition.conj

theorem conjunction_error {e : QueryError} (h : conjunction p tests = .error e) :
    ∃ t ∈ tests, t.condition p = .error e := by
  rw [conjunction] at h
  cases done : tests.mapM (condition p) with
  | error e' =>
      rw [done] at h
      cases h
      exact mapM_error done
  | ok cs =>
      rw [done] at h
      cases h

theorem conjunction_single (t : FieldTest) : conjunction p [t] = t.condition p := by
  rw [conjunction, List.mapM_cons, List.mapM_nil]
  cases single : t.condition p with
  | error e => rfl
  | ok c => exact congrArg Except.ok (Condition.conj_single (isAll_of_condition single))

/-- One more test joins what the tests in front of it come to. -/
theorem conjunction_snoc (tests : List FieldTest) (t : FieldTest) :
    conjunction p (tests ++ [t]) = (do
      let front ← conjunction p tests
      let last ← t.condition p
      .ok (.conj [front, last])) := by
  rw [conjunction, conjunction, List.mapM_append, List.mapM_cons, List.mapM_nil]
  cases done : tests.mapM (condition p) with
  | error e => rfl
  | ok cs =>
      cases t.condition p with
      | error e => rfl
      | ok c =>
          have flat : ∀ c ∈ cs, c.isAll = false :=
            forall_of_forall₂ (mapM_eq_ok.1 done) fun _ _ => isAll_of_condition
          exact congrArg Except.ok (Condition.conj_conj flat c).symm

end FieldTest

/-! ## Criteria -/

@[simp] theorem Operator.ofText?_text (op : Operator) : ofText? op.text = some op := by
  cases op <;> decide

namespace Value

theorem ofScalar?_toJson {v : Value} (plain : v.isPlain) : ofScalar? v.toJson = some v := by
  cases v with
  | integer i => simp [toJson, ofScalar?, ofInt]
  | float _ | list _ => cases plain
  | _ => rw [toJson, ofScalar?]

/-- A plain operand is read back from its exchange value. -/
theorem ofJson?_toJson {v : Value} (plain : v.isPlainOperand) : ofJson? v.toJson = some v := by
  cases v with
  | list items =>
      simp only [isPlainOperand, Bool.and_eq_true, List.all_eq_true] at plain
      have each : (listToJson items).mapM ofScalar? = some items := by
        replace plain := plain.2
        induction items with
        | nil => rw [listToJson]; rfl
        | cons item items ih =>
            obtain ⟨first, further⟩ := List.forall_mem_cons.1 plain
            rw [listToJson, List.mapM_cons, ofScalar?_toJson first, ih further]
            rfl
      rw [toJson, ofJson?_array, each, Option.map_some]
  | null => exact ofScalar?_toJson (v := .null) rfl
  | bool b => exact ofScalar?_toJson (v := .bool b) rfl
  | integer i => simp [toJson, ofJson?, ofScalar?, ofInt]
  | text s => exact ofScalar?_toJson (v := .text s) rfl
  | float _ => cases plain

end Value

namespace FieldTest

variable {p : Persister} {key : String} {t : FieldTest} {tests : List FieldTest}

theorem operand_entry (plain : t.value.isPlainOperand) :
    Criteria.operand t.entry.2 = .ok (t.op, t.value) := by
  have spelled (op value : Json) : [("op", op), ("value", value)].lookup "op" = some op := rfl
  have compared (op value : Json) : [("op", op), ("value", value)].lookup "value" = some value :=
    rfl
  simp only [entry, Criteria.operand, spelled, compared, List.length_cons, List.length_nil,
    Operator.ofText?_text, Value.ofJson?_toJson plain]

/-- An entry of criteria comes to what the catalog says of its test. -/
theorem fresh_entry (plain : t.value.isPlainOperand) :
    (Criteria.comparison p t.entry.1 t.entry.2).fresh = t.condition p := by
  rw [Criteria.fresh_comparison, operand_entry plain]
  rfl

theorem fresh_criteria (plain : ∀ t ∈ tests, t.IsPlain key) :
    (Criteria.condition p key (tests.map entry)).fresh = conjunction p tests := by
  have kept : (tests.map entry).filter (·.1 != key) = tests.map entry := by
    rw [List.filter_eq_self]
    intro x mem
    obtain ⟨t, among, rfl⟩ := List.mem_map.1 mem
    simpa [entry] using (plain t among).unreserved
  have each : (tests.mapM fun t => (Criteria.comparison p t.entry.1 t.entry.2).fresh) =
      tests.mapM (condition p) := by
    clear kept
    induction tests with
    | nil => rfl
    | cons t tests ih =>
        obtain ⟨first, further⟩ := List.forall_mem_cons.1 plain
        rw [List.mapM_cons, List.mapM_cons, fresh_entry first.operand, ih further]
  rw [Criteria.fresh_condition, kept, List.mapM_map, conjunction]
  exact congrArg (Except.map Condition.conj) each

end FieldTest

/-! ## Query text -/

namespace Value

theorem nesting_le_one_of_isPlain {v : Value} (plain : v.isPlain) : v.nesting ≤ 1 := by
  cases v with
  | integer i =>
      rw [nesting]
      split <;> omega
  | float _ | list _ => cases plain
  | _ =>
      rw [nesting]
      omega

/-- A plain operand nests at most the reading behind a sign. -/
theorem nesting_le_one {v : Value} (plain : v.isPlainOperand) : v.nesting ≤ 1 := by
  cases v with
  | list items =>
      simp only [isPlainOperand, Bool.and_eq_true, List.all_eq_true] at plain
      rw [nesting]
      replace plain := plain.2
      induction items with
      | nil => rw [nestingAll]; omega
      | cons item items ih =>
          obtain ⟨first, further⟩ := List.forall_mem_cons.1 plain
          rw [nestingAll]
          exact Nat.max_le.2 ⟨nesting_le_one_of_isPlain first, ih further⟩
  | _ => exact nesting_le_one_of_isPlain (by simpa [isPlainOperand] using plain)

end Value

namespace QueryText

/-- What an expression comes to by the catalog alone, whatever text it comes from. -/
def ComesTo (p : Persister) (r : QueryResult Condition) (e : Expr) : Prop :=
  ∀ text, (narrow p text e).fresh = r

variable {p : Persister}

/-- A written expression is the query text of what it comes to. -/
theorem fresh_condition_of_written {need floor : Nat} {text : String} {r : QueryResult Condition}
    (written : Written need floor text (ComesTo p r)) (some : 0 < floor)
    (shallow : need + 2 < nestingBudget) : (condition p text).fresh = r := by
  obtain ⟨e, comes, same⟩ := written.condition_eq some shallow
  rw [same]
  exact comes text.toList

end QueryText

namespace FieldTest

open QueryText

variable {p : Persister} {key : String} {t : FieldTest} {tests : List FieldTest}

/-- The text of a test comes to what the catalog says of the test. -/
theorem written_text (plain : t.IsPlain key) :
    Written 2 Strength.comparison.rank t.text (ComesTo p (t.condition p)) := by
  have written := written_compares p plain.word plain.free plain.operand plain.kind
  have deep : (Condition.comparison t.field t.op t.value).nesting ≤ 2 := by
    rw [Condition.nesting]
    exact Nat.succ_le_succ (Value.nesting_le_one plain.operand)
  rw [Condition.display] at written
  refine written.mono deep (Nat.le_refl _) ?_
  rintro e ⟨target, named, narrowed⟩ text
  rw [narrowed, fresh_comparison, field_of_names named text]
  rfl

/-- The chain of the texts of tests comes to the conjunction of the tests. -/
theorem written_texts (nonempty : tests ≠ []) (plain : ∀ t ∈ tests, t.IsPlain key) :
    Written 3 Strength.conjunction.rank (" AND ".intercalate (tests.map text))
      (ComesTo p (conjunction p tests)) := by
  obtain ⟨first, rest, rfl⟩ := List.exists_cons_of_ne_nil nonempty
  obtain ⟨plainFirst, plainRest⟩ := List.forall_mem_cons.1 plain
  have front : Written 3 Strength.conjunction.rank first.text
      (ComesTo p (conjunction p [first])) := by
    rw [conjunction_single]
    exact (written_text plainFirst).mono (by decide) (by decide) fun _ => id
  have more (done : List FieldTest) (t : FieldTest) (e e' : Expr)
      (before : ComesTo p (conjunction p done) e) (last : ComesTo p (t.condition p) e') :
      ComesTo p (conjunction p (done ++ [t])) (.binary e .and e') := by
    intro text
    rw [narrow, fresh_both (settled_narrow e) (settled_narrow e'), before text, last text,
      conjunction_snoc]
  have items : ∀ t ∈ rest, ∃ n, n < 3 ∧
      Written n Strength.comparison.rank t.text (ComesTo p (t.condition p)) :=
    fun t mem => ⟨2, by decide, written_text (plainRest t mem)⟩
  have chain := Written.chain .and more front (by decide) items
  rwa [List.map_cons, intercalate_cons_eq_foldl, List.foldl_map]

/-- Query text and criteria agree on tests that can be written both ways, whatever the persister has
been asked before either of them: they come to the same condition, or the field or the value of one
of the tests is refused with the same error. -/
theorem text_agrees {memo memo' : Memo} (nonempty : tests ≠ [])
    (plain : ∀ t ∈ tests, t.IsPlain key) (h : p.Remembers memo) (h' : p.Remembers memo') :
    let text := " AND ".intercalate (tests.map text)
    let result := ((QueryText.condition p text).perform memo).1
    result = ((Criteria.condition p key (tests.map entry)).perform memo').1 ∧
      ∀ e, result = .error e → ∃ t ∈ tests,
        e = .unknownField p.entity t.field ∨ ∃ fault, e = .invalidValue t.field fault := by
  intro text result
  have read : result = conjunction p tests := by
    refine (h.perform_eq (QueryText.settled_condition text)).trans ?_
    exact fresh_condition_of_written (written_texts nonempty plain) (by decide) (by decide)
  rw [h'.perform_eq (Criteria.settled_condition key _), fresh_criteria plain]
  refine ⟨read, fun e failed => ?_⟩
  obtain ⟨t, mem, refused⟩ := conjunction_error (read.symm.trans failed)
  exact ⟨t, mem, condition_error refused⟩

/-- A persister of books. -/
def books : Persister where
  handle := 1
  catalog := ⟨[⟨"Book", "books", none, ["isbn"],
    [⟨"title", some "full_title", .lowercase⟩, ⟨"year", none, .integer⟩]⟩]⟩
  entity := "Book"
  casing := .lower

/-- Tests of three fields, with a quote in a text and a year that is written as a text. -/
def oldBooks : List FieldTest :=
  [⟨"title", .like, .text "O'Brien%"⟩, ⟨"year", .notIn, .list [.text "1999", .integer (-3)]⟩,
    ⟨"isbn", .notEq, .null⟩]

theorem oldBooks_isPlain : ∀ t ∈ oldBooks, t.IsPlain "query" := by
  simp only [oldBooks, List.forall_mem_cons]
  refine ⟨⟨?_, ?_, by decide, rfl, rfl⟩, ⟨?_, ?_, by decide, rfl, rfl⟩,
    ⟨?_, ?_, by decide, rfl, rfl⟩, List.forall_mem_nil _⟩ <;> decide

/-- The tests of old books are read alike from criteria and from query text. -/
theorem oldBooks_agree :
    " AND ".intercalate (oldBooks.map text) =
        "title LIKE 'O''Brien%' AND year NOT IN ('1999', -3) AND isbn <> NULL" ∧
      ((QueryText.condition books (" AND ".intercalate (oldBooks.map text))).perform {}).1 =
        ((Criteria.condition books "query" (oldBooks.map entry)).perform {}).1 ∧
      ((Criteria.condition books "query" (oldBooks.map entry)).perform {}).1.map Condition.display =
        .ok "(full_title LIKE 'o''brien%' AND year NOT IN (1999, -3) AND isbn <> NULL)" :=
  ⟨by decide, (text_agrees (by decide) oldBooks_isPlain .nothing .nothing).1, by decide⟩

end FieldTest

end EntityQuery
