import EntityQuery.Proofs.Memory
import EntityQuery.Proofs.QueryText.Comparison
import EntityQuery.Proofs.Reading.Whole

/-!
# Query text of conditions

The display of a condition in normal form is query text that is read as this condition. The display
puts parentheses around every connective, so no operator ever competes with another one; a chain of
equal connectives is read with the grouping to the left, and the flat constructors undo it.
-/

namespace EntityQuery

namespace QueryText

open ConditionText Parse

/-! ## Comparisons -/

/-- An expression is narrowed to a condition, whatever text it comes from. -/
def Means (p : Persister) (c : Condition) (e : Expr) : Prop :=
  ∀ text, (narrow p text e).Gives p.catalog c

section

variable {p : Persister} {column : String} {op : Operator} {v : Value}

theorem gives_comparison (known : p.catalog.mapping? p.entity column = some ⟨column, .identity⟩)
    (passes : FieldMapping.fault? op v = none) {target : Expr} (named : Names column target)
    (text : List Char) :
    (comparison p text target op v).Gives p.catalog (.comparison column op v) := by
  have kept := FieldMapping.comparison_of_noFault column passes
  exact .bind (.ofResult (field_of_names named text))
    (.bind (Persister.gives_resolve known) (.ofResult kept))

/-- The display of a comparison is read as this comparison. -/
theorem written_comparison (entity : p.IsPlain) {mapping : FieldMapping}
    (known : p.catalog.mapping? p.entity column = some mapping) (plain : v.isPlainOperand)
    {c : Condition} (passes : mapping.comparison column op v = .ok c) :
    Written (Condition.comparison column op v).nesting Strength.comparison.rank
      (Condition.comparison column op v).display (Means p (.comparison column op v)) := by
  obtain ⟨rfl, word, free⟩ := entity column mapping known
  obtain ⟨passes, -⟩ := FieldMapping.comparison_eq_ok passes
  have kind := FieldMapping.isList_of_noFault passes
  refine (written_compares p word free plain kind).mono (Nat.le_refl _) (Nat.le_refl _) ?_
  rintro e ⟨target, named, narrowed⟩ text
  rw [narrowed]
  exact gives_comparison known passes named text

end

/-! ## Connectives -/

variable {p : Persister}

theorem displayAll_eq_map_display (members : List Condition) :
    Condition.displayAll members = members.map Condition.display := by
  induction members with
  | nil => rw [Condition.displayAll, List.map_nil]
  | cons c members ih => rw [Condition.displayAll, ih, List.map_cons]

/-- A connective in parentheses, for either connective with its flat constructor. Between the
parentheses the members read so far mean the flat connective of those members. -/
theorem written_connective {word : String} {op : BinaryOp} {rank : Nat}
    (connective : Connective word op rank) (low : rank < Strength.comparison.rank)
    {join : List Condition → Condition} {flat : Condition → Prop}
    (single : ∀ c, flat c → join [c] = c)
    (joins : ∀ done c, (∀ d ∈ done, flat d) → join [join done, c] = join (done ++ [c]))
    (narrows : ∀ text left right, narrow p text (.binary left op right) = do
      let a ← narrow p text left
      let b ← narrow p text right
      pure (join [a, b]))
    {first : Condition} {rest : List Condition}
    (members : ∀ c ∈ first :: rest,
      flat c ∧ Written c.nesting Strength.comparison.rank c.display (Means p c)) :
    Written (max first.nesting (Condition.nestingAll rest) + 1) Strength.comparison.rank
      ("(" ++ (" " ++ word ++ " ").intercalate ((first :: rest).map Condition.display) ++ ")")
      (Means p (join (first :: rest))) := by
  let soFar (done : List Condition) (e : Expr) : Prop :=
    (∀ d ∈ done, flat d) ∧ Means p (join done) e
  obtain ⟨flatFirst, written⟩ := members first List.mem_cons_self
  have front : Written (max first.nesting (Condition.nestingAll rest)) rank first.display
      (soFar [first]) := by
    refine written.mono (Nat.le_max_left _ _) (Nat.le_of_lt low) fun e means => ⟨?_, ?_⟩
    · simpa using flatFirst
    · rwa [single first flatFirst]
  have more (done : List Condition) (c : Condition) (e e' : Expr) (before : soFar done e)
      (means : flat c ∧ Means p c e') : soFar (done ++ [c]) (.binary e op e') := by
    refine ⟨?_, fun text => ?_⟩
    · simpa [or_imp, forall_and] using ⟨before.1, means.1⟩
    · rw [narrows, ← joins done c before.1]
      exact .bind (before.2 text) (.bind (means.2 text) (.pure _))
  have items : ∀ c ∈ rest, ∃ n, n < max first.nesting (Condition.nestingAll rest) ∧
      Written n Strength.comparison.rank c.display fun e => flat c ∧ Means p c e := by
    intro c mem
    obtain ⟨flatMember, written⟩ := members c (List.mem_cons_of_mem first mem)
    refine ⟨c.nesting, ?_, written.mono (Nat.le_refl _) (Nat.le_refl _) fun e => .intro flatMember⟩
    exact Nat.lt_of_lt_of_le (Condition.nesting_lt_nestingAll mem) (Nat.le_max_right _ _)
  have chain := Written.chain connective more front low items
  rw [List.map_cons, intercalate_cons_eq_foldl, List.foldl_map]
  have some : 0 < rank := by cases connective <;> decide
  have whole := (chain.enclosed some).parentheses
    (R := Means p (join (first :: rest))) fun e means text => by
      rw [narrow]
      exact means.2 text
  exact whole.toWritten _

/-- The display of a condition in normal form is read as this condition. -/
theorem written_display (entity : p.IsPlain) {c : Condition} (normal : c.Normal p) :
    Written c.nesting Strength.comparison.rank c.display (Means p c) := by
  induction normal with
  | comparison known plain passes => exact written_comparison entity known plain passes
  | @all members several flat normal ih =>
      obtain ⟨first, rest, rfl⟩ : ∃ first rest, members = first :: rest :=
        List.exists_cons_of_ne_nil (by rintro rfl; simp at several)
      rw [Condition.display, Condition.nesting, displayAll_eq_map_display,
        ← Condition.conj_of_flat several flat]
      exact written_connective .and (by decide)
        (fun c (flat : c.isAll = false) => Condition.conj_single flat)
        (fun done c flat => Condition.conj_conj flat c)
        (fun text left right => by rw [narrow]) fun c mem => ⟨flat c mem, ih c mem⟩
  | @any members several flat normal ih =>
      obtain ⟨first, rest, rfl⟩ : ∃ first rest, members = first :: rest :=
        List.exists_cons_of_ne_nil (by rintro rfl; simp at several)
      rw [Condition.display, Condition.nesting, displayAll_eq_map_display,
        ← Condition.disj_of_flat several flat]
      exact written_connective .or (by decide)
        (fun c (flat : c.isAny = false) => Condition.disj_single flat)
        (fun done c flat => Condition.disj_disj flat c)
        (fun text left right => by rw [narrow]) fun c mem => ⟨flat c mem, ih c mem⟩

/-- A written expression is the query text of what it means. -/
theorem gives_condition {need floor : Nat} {text : String} {c : Condition}
    (written : Written need floor text (Means p c)) (some : 0 < floor)
    (shallow : need + 2 < nestingBudget) : (condition p text).Gives p.catalog c := by
  obtain ⟨e, means, same⟩ := written.condition_eq some shallow
  rw [same]
  exact means text.toList

/-- Reading undoes displaying: the display of a condition in normal form that is not nested too
deeply is read as this condition, whatever the persister remembers. -/
theorem condition_display (entity : p.IsPlain) {c : Condition} (normal : c.Normal p)
    (shallow : c.nesting + 2 < nestingBudget) {memo : Memo}
    (agrees : memo.fields.Agrees p.catalog) :
    ((condition p c.display).perform memo).1 = .ok c := by
  obtain ⟨after, done, -⟩ :=
    gives_condition (written_display entity normal) (by decide) shallow memo agrees
  rw [done]

/-- A persister of users. -/
def users : Persister where
  handle := 1
  catalog := ⟨[⟨"User", "users", none, ["id"],
    [⟨"name", none, .identity⟩, ⟨"active", some "active", .identity⟩]⟩]⟩
  entity := "User"
  casing := .lower

/-- A condition on users in which connectives alternate, with a quote in a text and the least
integer in a list. -/
def absentOrLeast : Condition :=
  .all [.any [.comparison "name" .like (.text "O'Brien%"),
      .comparison "id" .notIn (.list [.integer Int64.minValue, .integer 7, .text ""]),
      .all [.comparison "name" .eq .null, .comparison "active" .notEq (.bool true)]],
    .comparison "id" .gtEq (.integer (-5))]

theorem users_isPlain : users.IsPlain := by
  refine .of_definition (e := users.catalog.entities.head (by decide)) rfl ?_ ?_ <;>
    decide

theorem absentOrLeast_normal : absentOrLeast.Normal users := by
  have name {op : Operator} {v : Value} (plain : v.isPlainOperand)
      (noFault : FieldMapping.fault? op v = none) :
      (Condition.comparison "name" op v).Normal users := .of_noFault rfl plain noFault
  have active {op : Operator} {v : Value} (plain : v.isPlainOperand)
      (noFault : FieldMapping.fault? op v = none) :
      (Condition.comparison "active" op v).Normal users := .of_noFault rfl plain noFault
  have id {op : Operator} {v : Value} (plain : v.isPlainOperand)
      (noFault : FieldMapping.fault? op v = none) :
      (Condition.comparison "id" op v).Normal users := .of_noFault rfl plain noFault
  have inner : (Condition.all [.comparison "name" .eq .null,
      .comparison "active" .notEq (.bool true)]).Normal users := by
    refine .all (by decide) (by simp [Condition.isAll]) ?_
    simp only [List.forall_mem_cons]
    exact ⟨name rfl rfl, active rfl rfl, List.forall_mem_nil _⟩
  have choice : (Condition.any [.comparison "name" .like (.text "O'Brien%"),
      .comparison "id" .notIn (.list [.integer Int64.minValue, .integer 7, .text ""]),
      .all [.comparison "name" .eq .null, .comparison "active" .notEq (.bool true)]]).Normal
        users := by
    refine .any (by decide) (by simp [Condition.isAny]) ?_
    simp only [List.forall_mem_cons]
    exact ⟨name rfl rfl, id rfl rfl, inner, List.forall_mem_nil _⟩
  refine .all (by decide) (by simp [Condition.isAll]) ?_
  simp only [List.forall_mem_cons]
  exact ⟨choice, id rfl rfl, List.forall_mem_nil _⟩

/-- A condition with alternating connectives is read back from its display. -/
theorem absentOrLeast_display :
    absentOrLeast.display =
        "((name LIKE 'O''Brien%' OR id NOT IN (-9223372036854775808, 7, '') OR " ++
          "(name = NULL AND active <> TRUE)) AND id >= -5)" ∧
      ((condition users absentOrLeast.display).perform {}).1 = .ok absentOrLeast :=
  ⟨by decide, condition_display users_isPlain absentOrLeast_normal (by decide) (.empty _)⟩

end QueryText

end EntityQuery
