import EntityQuery.Proofs.Filter.Collecting
import EntityQuery.Proofs.Filter.Readable
import EntityQuery.Proofs.Integers.Literal
import EntityQuery.Proofs.Leaves
import EntityQuery.Proofs.QueryText.Grammar
import EntityQuery.Proofs.QueryText.NormalForm
import EntityQuery.Proofs.Repository.Texts

/-!
# Integers in requests

The numbers in the filter of a statement are those that the comparisons of the request are given,
comparison by comparison and from left to right: first those of the query text, if there is one, and
then those of the criteria. A field without a transform is compared with as many numbers as are
given for it, and each integer among them is written so that it stands for this integer. With
transforms there may be other numbers, but only in the places of their own fields.
-/

namespace EntityQuery

open ConditionText Lookup

/-! ## Numbers -/

namespace Sql.Expr

mutual

/-- The numbers in an expression, from left to right. -/
def numbers : Expr → List Literal
  | .literal l => if l.isNumber then [l] else []
  | .binary left _ right => left.numbers ++ right.numbers
  | .aggregate _ arguments _ => allNumbers arguments
  | .inList operand items _ => operand.numbers ++ allNumbers items
  | .isNull operand _ => operand.numbers
  | .nested inner => inner.numbers
  | .column _ _ | .wildcard | .raw _ => []

/-- The numbers in expressions, from left to right. -/
def allNumbers : List Expr → List Literal
  | [] => []
  | e :: rest => e.numbers ++ allNumbers rest

end

theorem allNumbers_eq_flatMap (es : List Expr) : allNumbers es = es.flatMap numbers := by
  induction es with
  | nil => rw [allNumbers, List.flatMap_nil]
  | cons e rest ih => rw [allNumbers, ih, List.flatMap_cons]

end Sql.Expr

/-- The numbers that a value is written as, from left to right. -/
def Value.numbers (v : Value) : List Sql.Literal := v.leaves.filterMap number?

/-- The numbers in an expression are collected from the numbers in values. -/
theorem Sql.Expr.numbers_collects : Collects numbers Value.numbers where
  literal := by
    intro v l read
    rw [numbers]
    cases v with
    | list items => cases read
    | _ =>
        cases read
        rfl
  boolean b := by
    rw [numbers]
    rfl
  null := rfl
  list items := by
    rw [Value.numbers, Value.leaves_list, List.filterMap_flatMap]
    rfl
  rootColumn column := by rw [rootColumn, numbers]
  binary left op right := by rw [numbers]
  inList operand items negated := by rw [numbers, allNumbers_eq_flatMap]
  isNull operand negated := by rw [numbers]
  nested inner := by rw [numbers]
  raw fragment := by rw [numbers]

/-! ## What a request compares -/

/-- What a comparison of a request compares: a field, if it names one, with operands. -/
structure Comparand where
  field? : Option String
  operands : List Operand

namespace ConditionText.Expr

/-- What a test of query text compares. -/
def comparand : Expr → Comparand
  | .binary target _ operand => ⟨QueryText.field? target, [.ofText operand]⟩
  | .like _ _ target pattern _ => ⟨QueryText.field? target, [.ofText pattern]⟩
  | .inList target items _ => ⟨QueryText.field? target, items.map .ofText⟩
  | .isNull target _ => ⟨QueryText.field? target, [.ofText (.constant .null)]⟩
  | _ => ⟨none, []⟩

/-- What the tests of an expression compare, from left to right. -/
def comparands (e : Expr) : List Comparand := e.tests.map comparand

end ConditionText.Expr

/-- What query text compares. -/
def QueryText.comparands (text : String) : List Comparand :=
  if Unicode.allBlank text then []
  else
    match statement text.toList with
    | .ok s => s.condition.comparands
    | .error _ => []

/-- The items of an array; another value stands for itself. -/
def Json.scalars : Json → List Json
  | array items => items
  | v => [v]

namespace Criteria

/-- What a key is compared with; an operator is left out. -/
def operands : Json → List Json
  | .object fields => (fields.lookup "value").elim [] Json.scalars
  | v => v.scalars

/-- What an entry of criteria compares. -/
def comparand (x : String × Json) : Comparand := ⟨some x.1, (operands x.2).map .ofJson⟩

/-- What the query text under a reserved key compares. -/
def textComparands (criteria : Criteria) (key : String) : List Comparand :=
  match criteria.lookup key with
  | some (.string text) => QueryText.comparands text
  | _ => []

end Criteria

/-- What a caller asks a repository for. -/
inductive Search where
  | criteria (criteria : Criteria) (request : SortRequest) (limit offset : Option Nat)
  | text (text : String)

namespace Repository

/-- What a search compares. With a parser, the text under the reserved key comes first. -/
def comparands (r : Repository) : Search → List Comparand
  | .text text => QueryText.comparands text
  | .criteria criteria _ _ _ =>
    match r.parserKey with
    | none => criteria.map Criteria.comparand
    | some key =>
      criteria.textComparands key ++ (criteria.filter (·.1 != key)).map Criteria.comparand

/-- The statement that a search comes down to, or why there is none. -/
def lower (r : Repository) : Search → QueryResult Sql.Select
  | .criteria criteria request limit offset => r.statement criteria request limit offset
  | .text text =>
    match r.composer? with
    | none => .error (.misconfigured .queryText)
    | some _ => (QueryText.query r.persister text).fresh >>= fun q => r.persister.select q.clauses

end Repository

namespace Persister

/-- A block of literals is what a comparison is given, if the field has no transform: one literal
for each number, and a literal for an integer stands for it. -/
def CarriesBlock (p : Persister) (StandsFor : Sql.Literal → ℤ → Prop) (c : Comparand)
    (block : List Sql.Literal) : Prop :=
  ∀ field m, c.field? = some field → p.catalog.mapping? p.entity field = some m →
    m.transform = .identity →
      List.Forall₂ (fun o l => ∀ n, o.Spells n → StandsFor l n)
        (c.operands.filter Operand.isNumber) block

/-- The numbers in the filter of a statement consist of one block for each comparison. -/
def Carries (p : Persister) (StandsFor : Sql.Literal → ℤ → Prop) (cs : List Comparand)
    (s : Sql.Select) : Prop :=
  ∃ blocks, s.filter.elim [] Sql.Expr.numbers = blocks.flatten ∧
    List.Forall₂ (p.CarriesBlock StandsFor) cs blocks

/-- A comparison of a column is read from what a request compares. -/
def Compares (p : Persister) (c : Comparand) (x : String × Operator × Value) : Prop :=
  ∃ field m value, c.field? = some field ∧ p.catalog.mapping? p.entity field = some m ∧
    List.Forall₂ Operand.Reads c.operands value.leaves ∧ m.transform.apply value = .ok x.2.2

variable {p : Persister} {c : Comparand} {x : String × Operator × Value}

theorem Compares.carriesBlock (h : p.Compares c x) :
    p.CarriesBlock Sql.Literal.Renders c x.2.2.numbers := by
  obtain ⟨field, m, value, named, known, read, transformed⟩ := h
  intro field' m' named' known' identity
  cases named.symm.trans named'
  cases known.symm.trans known'
  rw [identity, FieldMapping.apply_identity] at transformed
  cases transformed
  exact Operand.renders_of_reads read

/-- What the comparisons of a lowered condition are read from is what its filter carries. -/
theorem carries_of_compares {cs : List Comparand} {condition : Condition} {s : Sql.Select}
    (compared : List.Forall₂ p.Compares cs condition.comparisons)
    (lowered : Lowering.filter condition = .ok s.filter) : p.Carries Sql.Literal.Renders cs s := by
  refine ⟨condition.comparisons.map (·.2.2.numbers), ?_, ?_⟩
  · rw [Sql.Expr.numbers_collects.filter lowered, List.flatMap_def]
  · rw [List.forall₂_map_right_iff]
    exact compared.imp fun _ _ => Compares.carriesBlock

end Persister

/-! ## Query text -/

namespace QueryText

variable {p : Persister} {text : List Char}

theorem reads_of_literal {e : Expr} {v : Value} (read : literal text e = .ok v) :
    (Operand.ofText e).Reads v :=
  literal_eq_ok.1 read

/-- A comparison is read from the target and from the operands of its value. -/
theorem compares_of_comparison {target : Expr} {op : Operator} {v : Value} {c : Condition}
    {os : List Operand} (read : List.Forall₂ Operand.Reads os v.leaves)
    (compared : (comparison p text target op v).fresh = .ok c) :
    List.Forall₂ p.Compares [⟨field? target, os⟩] c.comparisons := by
  obtain ⟨name, m, named, known, compared⟩ := comparison_eq_ok.1 compared
  obtain ⟨-, w, transformed, rfl⟩ := FieldMapping.comparison_eq_ok compared
  rw [Condition.comparisons]
  exact .cons ⟨name, m, v, named, known, read, transformed⟩ .nil

/-- The comparisons of a condition are read from the tests of its expression. -/
theorem Narrows.compares {e : Expr} {c : Condition} (h : Narrows p text e c) :
    List.Forall₂ p.Compares e.comparands c.comparisons := by
  have single {e : Expr} {v : Value} (read : literal text e = .ok v) :
      List.Forall₂ Operand.Reads [.ofText e] v.leaves := by
    rw [Value.leaves_of_scalar (isList_of_literal read)]
    exact .cons (reads_of_literal read) .nil
  induction h with
  | @symbol left right binary op v c known read compared =>
      have alone : (Expr.binary left binary right).tests = [.binary left binary right] := by
        cases binary <;> cases known <;> rfl
      rw [Expr.comparands, alone]
      exact compares_of_comparison (single read) compared
  | pattern read compared => exact compares_of_comparison (single read) compared
  | @membership operand items negated vs c read compared =>
      refine compares_of_comparison (v := .list vs) ?_ compared
      have each := mapM_eq_ok.1 read
      rw [Value.leaves_of_scalars (forall_of_forall₂ each fun _ _ => isList_of_literal),
        List.forall₂_map_left_iff]
      exact each.imp fun _ _ => reads_of_literal
  | nullTest compared => exact compares_of_comparison (.cons ⟨rfl, rfl⟩ .nil) compared
  | conj _ _ ihl ihr =>
      rw [Condition.comparisons_conj, Expr.comparands, Expr.tests, List.map_append,
        List.flatMap_cons, List.flatMap_singleton]
      exact List.rel_append ihl ihr
  | disj _ _ ihl ihr =>
      rw [Condition.comparisons_disj, Expr.comparands, Expr.tests, List.map_append,
        List.flatMap_cons, List.flatMap_singleton]
      exact List.rel_append ihl ihr
  | nested _ ih =>
      rw [Expr.comparands, Expr.tests]
      exact ih

theorem compares_of_blank {text : String} (blank : Unicode.allBlank text) :
    List.Forall₂ p.Compares (comparands text) Condition.always.comparisons := by
  rw [comparands, if_pos blank, Condition.always, Condition.comparisons, Condition.allComparisons]
  exact .nil

theorem compares_of_statement {text : String} {s : Statement} {c : Condition}
    (notBlank : ¬ Unicode.allBlank text) (stated : statement text.toList = .ok s)
    (narrowed : Narrows p text.toList s.condition c) :
    List.Forall₂ p.Compares (comparands text) c.comparisons := by
  rw [comparands, if_neg notBlank, stated]
  exact narrowed.compares

theorem compares_of_condition {text : String} {c : Condition}
    (read : (condition p text).fresh = .ok c) :
    List.Forall₂ p.Compares (comparands text) c.comparisons := by
  obtain ⟨blank, rfl⟩ | ⟨s, notBlank, stated, -, narrowed⟩ := condition_cases read
  · exact compares_of_blank blank
  · exact compares_of_statement notBlank stated narrowed

end QueryText

/-! ## Criteria -/

namespace Criteria

variable {p : Persister} {key : String} {criteria : Criteria}

theorem reads_of_ofScalar? {j : Json} {v : Value} (read : Value.ofScalar? j = some v) :
    List.Forall₂ Operand.Reads [.ofJson j] v.leaves := by
  rw [Value.leaves_of_scalar (Value.isList_of_ofScalar? read)]
  exact .cons read .nil

theorem reads_of_ofJson? {j : Json} {v : Value} (read : Value.ofJson? j = some v) :
    List.Forall₂ Operand.Reads (j.scalars.map .ofJson) v.leaves := by
  cases j with
  | array items =>
      obtain ⟨values, each, rfl⟩ := Option.map_eq_some_iff.1 read
      have each := mapM_eq_some.1 each
      rw [Value.leaves_of_scalars (forall_of_forall₂ each fun _ _ => Value.isList_of_ofScalar?),
        List.forall₂_map_left_iff]
      exact each
  | _ => exact reads_of_ofScalar? read

theorem reads_of_operand {j : Json} {op : Operator} {v : Value} (read : operand j = .ok (op, v)) :
    List.Forall₂ Operand.Reads ((operands j).map .ofJson) v.leaves := by
  obtain ⟨fields, value, rfl, compared, scalars⟩ | scalar := operand_cases read
  · rw [operands, compared]
    exact reads_of_ofJson? scalars
  · have read := Value.ofJson?_of_ofScalar? scalar
    cases j with
    | object fields => cases scalar
    | _ => exact reads_of_ofJson? read

/-- The comparisons of criteria are read from their entries. -/
theorem compares_of_condition {c : Condition} (read : (condition p key criteria).fresh = .ok c) :
    List.Forall₂ p.Compares ((criteria.filter (·.1 != key)).map comparand) c.comparisons := by
  obtain ⟨cs, compared, rfl⟩ := condition_eq_ok.1 read
  clear read
  rw [Condition.comparisons_conj, List.forall₂_map_left_iff]
  generalize criteria.filter (·.1 != key) = entries at compared
  induction compared with
  | nil => exact .nil
  | cons first further ih =>
      obtain ⟨m, op, value, w, known, operand, transformed, rfl⟩ := parts_of_comparison first
      rw [List.flatMap_cons, Condition.comparisons]
      exact .cons ⟨_, m, value, rfl, known, reads_of_operand operand, transformed⟩ ih

end Criteria

namespace Composer

variable {c : Composer} {criteria : Criteria}

theorem compares_of_base? {base : Option Condition} (read : (c.base? criteria).fresh = .ok base) :
    List.Forall₂ c.persister.Compares (criteria.textComparands c.reservedKey)
      (base.elim [] Condition.comparisons) := by
  rw [Criteria.textComparands]
  obtain ⟨absent, rfl⟩ | ⟨text, condition, given, made, rfl⟩ := base?_cases read
  · rw [absent]
    exact .nil
  · rw [given]
    exact QueryText.compares_of_condition made

end Composer

/-- Without a parser, an entry carries its numbers as they are given, whatever the transform. -/
theorem PlainCriteria.carriesBlock_of_entry {p : Persister} {field : String} {v : Json}
    {e : Sql.Expr} (read : (entry p field v).fresh = .ok e) :
    p.CarriesBlock Sql.Literal.Renders (Criteria.comparand (field, v)) e.numbers := by
  obtain ⟨m, value, -, scalars, rfl⟩ := parts_of_entry read
  have operands : Criteria.operands v = v.scalars := by
    cases v with
    | object fields => cases scalars
    | _ => rfl
  rintro - - - - -
  rw [Sql.Expr.numbers_collects.plainComparison (Value.isFlat_of_ofJson? scalars),
    Criteria.comparand, operands]
  exact Operand.renders_of_reads (Criteria.reads_of_ofJson? scalars)

/-! ## Searches -/

namespace Repository

variable {r : Repository} {c : Composer} {criteria : Criteria} {request : SortRequest}
  {limit offset : Option Nat} {search : Search} {s : Sql.Select}

theorem carries_of_composer (installed : r.composer? = some c)
    (made : r.statement criteria request limit offset = .ok s) :
    r.persister.Carries Sql.Literal.Renders
      (r.comparands (.criteria criteria request limit offset)) s := by
  obtain ⟨condition, keys, base, filter, t, read, -, found, lowered, -, rfl⟩ :=
    parts_of_composer installed made
  have key : r.parserKey = some c.reservedKey := by
    obtain ⟨key, known, rfl⟩ := Option.map_eq_some_iff.1 installed
    exact known
  rw [comparands, key]
  refine Persister.carries_of_compares ?_ lowered
  rw [Composer.comparisons_merge]
  have text := Composer.compares_of_base? found
  rw [persister_of_composer? installed] at text
  exact List.rel_append text (Criteria.compares_of_condition read)

theorem carries_of_plain (none : r.composer? = none)
    (made : r.statement criteria request limit offset = .ok s) :
    r.persister.Carries Sql.Literal.Renders
      (r.comparands (.criteria criteria request limit offset)) s := by
  obtain ⟨entries, keys, t, read, -, -, rfl⟩ := parts_of_plain none made
  have noKey : r.parserKey = Option.none := Option.map_eq_none_iff.1 none
  rw [comparands, noKey]
  refine ⟨entries.map Sql.Expr.numbers, ?_, ?_⟩
  · rw [← List.flatMap_def]
    exact Sql.Expr.numbers_collects.plainFilter entries
  · rw [List.forall₂_map_left_iff, List.forall₂_map_right_iff]
    exact read.imp fun _ _ => PlainCriteria.carriesBlock_of_entry

theorem carries_of_text {p : Persister} {text : String} {q : Query}
    (read : (QueryText.query p text).fresh = .ok q) (made : p.select q.clauses = .ok s) :
    p.Carries Sql.Literal.Renders (QueryText.comparands text) s := by
  obtain ⟨filter, t, lowered, -, rfl⟩ := Persister.select_eq_ok.1 made
  obtain ⟨blank, rfl⟩ | ⟨s, c, keys, limit, offset, notBlank, stated, narrowed, -, rfl⟩ :=
    QueryText.query_cases read
  · exact Persister.carries_of_compares (QueryText.compares_of_blank blank) lowered
  · exact Persister.carries_of_compares
      (QueryText.compares_of_statement notBlank stated (QueryText.narrows_of_narrow narrowed))
      lowered

/-- A search that comes down to a statement carries its integers into the filter: each one that is
given for a field without a transform is written in its place, exactly if signed sixty-four bits
hold it and with a small error otherwise. -/
theorem lower_carries (made : r.lower search = .ok s) :
    r.persister.Carries Sql.Literal.Renders (r.comparands search) s := by
  cases search with
  | criteria criteria request limit offset =>
      cases installed : r.composer? with
      | none => exact carries_of_plain installed made
      | some c => exact carries_of_composer installed made
  | text text =>
      rw [lower] at made
      split at made
      · cases made
      · obtain ⟨q, read, made⟩ := bind_eq_ok.1 made
        exact carries_of_text read made

/-- A repository of users with their ages. -/
def agedUsers : Repository where
  persister := {
    handle := 1
    catalog := ⟨[⟨"User", "users", none, ["id"], [⟨"age", none, .identity⟩]⟩]⟩
    entity := "User"
    casing := .lower }
  parserKey := some "query"

/-- The user with the least number there is, if the age is one of two numbers; the greater one of
them is no signed number of sixty-four bits. -/
def greatAges : Search :=
  .criteria [("age", .object [("op", .string "in"),
      ("value", .array [.integer 9007199254740993, .integer 18446744073709551615])]),
    ("query", .string "id = -9223372036854775808")] [] none none

theorem greatAges_carries :
    ∃ s, agedUsers.lower greatAges = .ok s ∧
      s.text = "SELECT e.* FROM users e WHERE e.id = -9223372036854775808 AND " ++
        "e.age IN (9007199254740993, 18446744073709552000)" ∧
      agedUsers.persister.Carries Sql.Literal.Renders (agedUsers.comparands greatAges) s := by
  have written : (agedUsers.lower greatAges).map (·.text) =
      .ok ("SELECT e.* FROM users e WHERE e.id = -9223372036854775808 AND " ++
        "e.age IN (9007199254740993, 18446744073709552000)") := by
    decide +kernel
  obtain ⟨s, made, text⟩ := map_eq_ok.1 written
  exact ⟨s, made, text, lower_carries made⟩

/-- The users of an age that is no signed number of sixty-four bits. -/
def greatestAge : Search := .text "age = 9223372036854775809"

/-- Past signed sixty-four bits, the number that is written need not be the one that is given. -/
theorem not_carries_exactly :
    ∃ s, agedUsers.lower greatestAge = .ok s ∧
      s.text = "SELECT e.* FROM users e WHERE e.age = 9223372036854776000" ∧
      ¬ agedUsers.persister.Carries Sql.Literal.Denotes (agedUsers.comparands greatestAge) s := by
  have written : (agedUsers.lower greatestAge).map (fun s =>
      (s.text, s.filter.elim [] Sql.Expr.numbers)) =
        .ok ("SELECT e.* FROM users e WHERE e.age = 9223372036854776000",
          [.float ⟨0x43E0000000000000⟩]) := by
    decide +kernel
  have given : (agedUsers.comparands greatestAge).map (fun c =>
      (c.field?, (c.operands.filter Operand.isNumber).map Operand.integer?)) =
        [(some "age", [some 9223372036854775809])] := by
    decide +kernel
  obtain ⟨s, made, parts⟩ := map_eq_ok.1 written
  obtain ⟨text, numbers⟩ := Prod.mk.inj parts
  refine ⟨s, made, text, ?_⟩
  rintro ⟨blocks, whole, each⟩
  -- There is one comparison with one number, so there is one block with one literal.
  obtain ⟨c, comparands, operands⟩ := List.map_eq_singleton_iff.1 given
  obtain ⟨named, integers⟩ := Prod.mk.inj operands
  obtain ⟨o, only, spelled⟩ := List.map_eq_singleton_iff.1 integers
  rw [comparands] at each
  obtain ⟨block, _, first, ⟨⟩, rfl⟩ := List.forall₂_cons_left_iff.1 each
  have carried := first "age" ⟨"age", .identity⟩ named (by decide) rfl
  rw [List.flatten_singleton, numbers] at whole
  rw [only, ← whole] at carried
  obtain ⟨l, _, denotes, -, same⟩ := List.forall₂_cons_left_iff.1 carried
  obtain ⟨rfl, -⟩ := List.cons.inj same
  have decimal : (Sql.Literal.float ⟨0x43E0000000000000⟩).text = toString 9223372036854776000 := by
    decide +kernel
  have value := denotes 9223372036854775809 (Operand.spells_of_integer? spelled)
  rw [Sql.Literal.Denotes,
    Sql.Literal.rational?_of_text decimal (Double.rational?_toString 9223372036854776000)] at value
  exact absurd (Option.some.inj value) (by norm_num)

end Repository

end EntityQuery
