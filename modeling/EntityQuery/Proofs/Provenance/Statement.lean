import EntityQuery.Proofs.Filter.Shape
import EntityQuery.Proofs.Provenance.Reading

/-!
# What stands in a statement as it is

A statement quotes the texts that a caller gives and writes everything else as it is: columns,
tables, names of functions and pieces of SQL. In a statement that is made of grounded clauses or of
plain criteria, only columns of the caller's fields and the table of the entity are written so,
under the alias of the root table. So no name and no text of a caller gets into a statement except
as a literal.
-/

namespace EntityQuery

open Lookup

namespace Sql

/-- A part of an expression that is written as it is, without quotes. -/
inductive Verbatim where
  | column (table : Option String) (name : String)
  | function (name : String)
  | fragment (text : String)
  deriving DecidableEq, Repr

mutual

/-- The parts of an expression that are written as they are, from left to right. -/
@[simp] def Expr.verbatim : Expr → List Verbatim
  | .column table name => [.column table name]
  | .literal _ => []
  | .binary left _ right => left.verbatim ++ right.verbatim
  | .aggregate name arguments _ => .function name :: Expr.allVerbatim arguments
  | .inList operand items _ => operand.verbatim ++ Expr.allVerbatim items
  | .isNull operand _ => operand.verbatim
  | .wildcard => []
  | .nested inner => inner.verbatim
  | .raw fragment => [.fragment fragment]

/-- The parts of expressions that are written as they are, from left to right. -/
@[simp] def Expr.allVerbatim : List Expr → List Verbatim
  | [] => []
  | e :: rest => e.verbatim ++ Expr.allVerbatim rest

end

/-- The parts of the filter and the order of a statement that are written as they are. -/
def Select.verbatim (s : Select) : List Verbatim :=
  s.filter.elim [] Expr.verbatim ++ s.order.flatMap fun t => t.expr.verbatim

theorem Expr.allVerbatim_eq_flatMap (es : List Expr) :
    Expr.allVerbatim es = es.flatMap Expr.verbatim := by
  induction es with
  | nil => rw [Expr.allVerbatim, List.flatMap_nil]
  | cons e rest ih => rw [Expr.allVerbatim, ih, List.flatMap_cons]

end Sql

/-! ## Filters -/

/-- Everything that an expression writes as it is are some columns of the root table. -/
def Sql.Expr.WritesOnly (e : Sql.Expr) (columns : List String) : Prop :=
  ∀ x ∈ e.verbatim, ∃ column ∈ columns, x = .column (some rootAlias) column

namespace Sql.Expr.WritesOnly

variable {e : Sql.Expr} {columns columns' : List String}

theorem mono (h : e.WritesOnly columns) (more : ∀ column ∈ columns, column ∈ columns') :
    e.WritesOnly columns' := by
  intro x mem
  obtain ⟨column, listed, written⟩ := h x mem
  exact ⟨column, more column listed, written⟩

theorem literal (l : Sql.Literal) (columns : List String) :
    (Sql.Expr.literal l).WritesOnly columns := by
  intro x mem
  rw [verbatim] at mem
  cases mem

theorem rootColumn (column : String) : (rootColumn column).WritesOnly [column] := by
  intro x mem
  rw [EntityQuery.rootColumn, verbatim, List.mem_singleton] at mem
  exact ⟨column, List.mem_singleton_self _, mem⟩

theorem isNull (h : e.WritesOnly columns) (negated : Bool) :
    (Sql.Expr.isNull e negated).WritesOnly columns := by
  rw [WritesOnly, verbatim]
  exact h

theorem nested (h : e.WritesOnly columns) : (Sql.Expr.nested e).WritesOnly columns := by
  rw [WritesOnly, verbatim]
  exact h

theorem binary_literal (h : e.WritesOnly columns) (op : Sql.BinaryOperator) (l : Sql.Literal) :
    (Sql.Expr.binary e op (.literal l)).WritesOnly columns := by
  rw [WritesOnly, verbatim, verbatim, List.append_nil]
  exact h

theorem inList_literals (h : e.WritesOnly columns) (ls : List Sql.Literal) (negated : Bool) :
    (Sql.Expr.inList e (ls.map .literal) negated).WritesOnly columns := by
  have items : allVerbatim (ls.map .literal) = [] := by
    rw [allVerbatim_eq_flatMap, List.flatMap_map, List.flatMap_eq_nil_iff]
    intro l mem
    rw [verbatim]
  rw [WritesOnly, verbatim, items, List.append_nil]
  exact h

/-- A chain writes what its members write. -/
theorem chain {es : List Sql.Expr} (h : ∀ e ∈ es, e.WritesOnly columns)
    (op : Sql.BinaryOperator) (empty : Bool) :
    (Lowering.chain op empty es).WritesOnly columns := by
  cases es with
  | nil => exact literal _ columns
  | cons e rest =>
      rw [Lowering.chain]
      obtain ⟨first, further⟩ := List.forall_mem_cons.1 h
      clear h
      induction rest generalizing e with
      | nil => exact first
      | cons d rest ih =>
          obtain ⟨second, further⟩ := List.forall_mem_cons.1 further
          refine ih (.binary e op d) ?_ further
          intro x mem
          rw [verbatim] at mem
          exact (List.mem_append.1 mem).elim (first x) (second x)

end Sql.Expr.WritesOnly

namespace Lowering

variable {column : String} {op : Operator} {v : Value} {e : Sql.Expr}

theorem writesOnly_comparison (h : comparison column op v = .ok e) : e.WritesOnly [column] := by
  cases shape_of_comparison h with
  | constant => exact .literal _ _
  | nullTest => exact (Sql.Expr.WritesOnly.rootColumn column).isNull _
  | binary known scalar => exact (Sql.Expr.WritesOnly.rootColumn column).binary_literal _ _
  | membership scalars => exact (Sql.Expr.WritesOnly.rootColumn column).inList_literals _ _

theorem writesOnly_member {c : Condition} {columns : List String} (h : e.WritesOnly columns) :
    (member c e).WritesOnly columns := by
  unfold member
  split
  · exact h.nested
  · exact h.nested
  · exact h

mutual

/-- The expression of a condition without pieces of SQL writes the columns of the condition only. -/
theorem writesOnly_expr : ∀ (c : Condition) {e : Sql.Expr}, expr c = .ok e → c.fragments = [] →
    e.WritesOnly c.columns
  | .comparison column op v, e, lowered, _ => by
      rw [expr] at lowered
      exact writesOnly_comparison lowered
  | .all members, e, lowered, noFragments => by
      obtain ⟨es, each, rfl⟩ := expr_all_eq_ok.1 lowered
      rw [Condition.fragments_all, List.flatMap_eq_nil_iff] at noFragments
      rw [Condition.columns, Condition.comparisons_all, List.map_flatMap]
      exact .chain (writesOnly_memberExprs members each noFragments) _ _
  | .any members, e, lowered, noFragments => by
      obtain ⟨es, each, rfl⟩ := expr_any_eq_ok.1 lowered
      rw [Condition.fragments_any, List.flatMap_eq_nil_iff] at noFragments
      rw [Condition.columns, Condition.comparisons_any, List.map_flatMap]
      exact .chain (writesOnly_memberExprs members each noFragments) _ _
  | .raw fragment, e, _, noFragments => by
      rw [Condition.fragments] at noFragments
      cases noFragments

theorem writesOnly_memberExprs : ∀ (cs : List Condition) {es : List Sql.Expr},
    memberExprs cs = .ok es → (∀ c ∈ cs, c.fragments = []) →
      ∀ e ∈ es, e.WritesOnly (cs.flatMap Condition.columns)
  | [], es, lowered, _ => by
      rw [memberExprs] at lowered
      cases lowered
      simp
  | c :: cs, es, lowered, noFragments => by
      obtain ⟨e, others, first, further, rfl⟩ := memberExprs_cons_eq_ok.1 lowered
      obtain ⟨none, noneFurther⟩ := List.forall_mem_cons.1 noFragments
      rw [List.flatMap_cons]
      refine List.forall_mem_cons.2 ⟨writesOnly_member ?_, fun e mem => ?_⟩
      · exact (writesOnly_expr c first none).mono fun column => List.mem_append_left _
      · exact (writesOnly_memberExprs cs further noneFurther e mem).mono fun column =>
          List.mem_append_right _

end

end Lowering

/-! ## Statements -/

/-- A statement selects everything of the entity's table, and all it writes besides, without quotes,
are columns of some fields of the entity. -/
structure Sql.Select.Grounded (p : Persister) (fields : List String) (s : Sql.Select) : Prop where
  known : ∀ field ∈ fields, ∃ m, p.catalog.mapping? p.entity field = some m
  projections : s.projections = [.allOf rootAlias]
  source : ∃ t, p.catalog.table? p.entity = some t ∧
    s.source = some (.table t.schema t.name (some rootAlias))
  verbatim : ∀ x ∈ s.verbatim, ∃ field ∈ fields, ∃ m,
    p.catalog.mapping? p.entity field = some m ∧ x = .column (some rootAlias) m.column

section

variable {p : Persister} {fields columns : List String} {filter : Option Sql.Expr}
  {keys : SortOrder} {t : TableName} {limit offset : Option Nat}

theorem Lowering.verbatim_order {x : Sql.Verbatim}
    (mem : x ∈ (order keys).flatMap fun t => t.expr.verbatim) :
    ∃ column ∈ keys.columns, x = .column (some rootAlias) column := by
  rw [order, List.flatMap_map, List.mem_flatMap] at mem
  obtain ⟨key, listed, written⟩ := mem
  rw [rootColumn, Sql.Expr.verbatim, List.mem_singleton] at written
  exact ⟨key.column, List.mem_map_of_mem listed, written⟩

/-- A statement of whole rows is grounded if its filter and its order are. -/
theorem Sql.Select.Grounded.of_parts (grounds : p.Grounds fields (columns ++ keys.columns))
    (writes : ∀ e, filter = some e → e.WritesOnly columns)
    (known : p.catalog.table? p.entity = some t) :
    (Sql.Select.wholeRows t filter (Lowering.order keys) limit offset).Grounded p fields := by
  refine ⟨grounds.known, rfl, ⟨t, known, rfl⟩, ?_⟩
  intro x mem
  have column : ∃ column ∈ columns ++ keys.columns, x = .column (some rootAlias) column := by
    obtain mem | mem := List.mem_append.1 mem
    · cases filter with
      | none => cases mem
      | some e =>
          obtain ⟨column, listed, written⟩ := writes e rfl x mem
          exact ⟨column, List.mem_append_left _ listed, written⟩
    · obtain ⟨column, listed, written⟩ := Lowering.verbatim_order mem
      exact ⟨column, List.mem_append_right _ listed, written⟩
  obtain ⟨column, listed, rfl⟩ := column
  obtain ⟨field, named, m, mapped, rfl⟩ := grounds.stored column listed
  exact ⟨field, named, m, mapped, rfl⟩

/-- The statement of grounded clauses is grounded in the same names. -/
theorem Clauses.Grounded.select {c : Clauses} {s : Sql.Select} (h : c.Grounded p fields)
    (made : p.select c = .ok s) : s.Grounded p fields := by
  obtain ⟨filter, t, lowered, known, rfl⟩ := Persister.select_eq_ok.1 made
  refine .of_parts h.grounds ?_ known
  rintro e rfl
  rw [Clauses.filter] at lowered
  split at lowered
  · next condition held =>
      rw [held, Option.elim_some]
      obtain ⟨-, ⟨⟩⟩ | ⟨-, _, lowered, ⟨⟩⟩ := Lowering.filter_eq_ok.1 lowered
      exact Lowering.writesOnly_expr condition lowered (h.noFragments condition held)
  · cases lowered

end

/-! ## Plain criteria -/

namespace PlainCriteria

variable {p : Persister}

theorem writesOnly_comparison (column : String) (v : Value) :
    (comparison column v).WritesOnly [column] := by
  unfold comparison
  split
  · exact (Sql.Expr.WritesOnly.rootColumn column).isNull _
  · exact .literal _ _
  · next item rest =>
      have items : (item :: rest).map literal =
          ((item :: rest).map fun v => (Lowering.literal? v).getD .null).map .literal := by
        rw [List.map_map]
        rfl
      rw [items]
      exact (Sql.Expr.WritesOnly.rootColumn column).inList_literals _ _
  · exact (Sql.Expr.WritesOnly.rootColumn column).binary_literal _ _

theorem writesOnly_entry {field : String} {v : Json} {e : Sql.Expr}
    (h : (entry p field v).fresh = .ok e) :
    ∃ column, p.Grounds [field] [column] ∧ e.WritesOnly [column] := by
  rw [fresh_entry] at h
  obtain ⟨m, known, h⟩ := bind_eq_ok.1 h
  split at h
  · cases h
    exact ⟨m.column, .single (Persister.mapping_eq_ok.1 known), writesOnly_comparison _ _⟩
  · cases h

/-- The entries of plain criteria write columns that are grounded in the names of the criteria. -/
theorem writesOnly_entries {criteria : Criteria} {entries : List Sql.Expr}
    (each : List.Forall₂ (fun x e => (entry p x.1 x.2).fresh = .ok e) criteria entries) :
    ∃ columns, p.Grounds (criteria.map (·.1)) columns ∧ ∀ e ∈ entries, e.WritesOnly columns := by
  induction each with
  | nil => exact ⟨[], .nil, by simp⟩
  | cons first further ih =>
      obtain ⟨column, grounds, writes⟩ := writesOnly_entry first
      obtain ⟨columns, groundsFurther, writesFurther⟩ := ih
      refine ⟨column :: columns, grounds.append groundsFurther, List.forall_mem_cons.2 ⟨?_, ?_⟩⟩
      · exact writes.mono (by simp)
      · exact fun e mem => (writesFurther e mem).mono fun _ => List.mem_cons_of_mem _

theorem writesOnly_filter {entries : List Sql.Expr} {columns : List String}
    (h : ∀ e ∈ entries, e.WritesOnly columns) {e : Sql.Expr} (made : filter entries = some e) :
    e.WritesOnly columns := by
  cases entries with
  | nil => cases made
  | cons first rest =>
      cases made
      exact .chain h _ _

/-- The statement of plain criteria is grounded in the names of the criteria and of their order. -/
theorem grounded_select {criteria : Criteria} {request : SortRequest} {limit offset : Option Nat}
    {n : NativeQuery} (h : (select p criteria request limit offset).fresh = .ok n) :
    n.select.Grounded p (criteria.map (·.1) ++ request.map (·.1)) := by
  rw [fresh_select] at h
  split at h
  · cases h
  · obtain ⟨entries, each, h⟩ := bind_eq_ok.1 h
    obtain ⟨order, sorted, h⟩ := bind_eq_ok.1 h
    obtain ⟨table, root, h⟩ := bind_eq_ok.1 h
    cases h
    obtain ⟨t, known, rfl⟩ := Persister.rootTable_eq_ok.1 root
    obtain ⟨columns, grounds, writes⟩ := writesOnly_entries (mapM_eq_ok.1 each)
    refine .of_parts (grounds.append (Criteria.grounds_order sorted)) (fun e made => ?_) known
    exact writesOnly_filter writes made

end PlainCriteria

/-! ## Requests -/

/-- Whatever a persister has been asked before, nothing that a caller names gets anywhere as it is.
What criteria, criteria with query text, and query text alone are read to is grounded in the field
names they contain, and clauses that are grounded have a grounded statement; the statement of plain
criteria is grounded, too. -/
theorem Persister.Remembers.grounded {p : Persister} {memo : Memo} (h : p.Remembers memo) :
    (∀ key (criteria : Criteria) request limit offset q,
        ((criteria.read p key request limit offset).perform memo).1 = .ok q →
        q.clauses.Grounded p (criteria.fields key ++ request.map (·.1))) ∧
      (∀ (c : Composer) (criteria : Criteria) request limit offset q, c.persister = p →
        ((c.compose criteria request limit offset).perform memo).1 = .ok q →
        q.clauses.Grounded p
          (c.textFields criteria ++ criteria.fields c.reservedKey ++ request.map (·.1))) ∧
      (∀ text q, ((QueryText.query p text).perform memo).1 = .ok q →
        q.clauses.Grounded p (QueryText.fieldNames text)) ∧
      (∀ (criteria : Criteria) request limit offset n,
        ((PlainCriteria.select p criteria request limit offset).perform memo).1 = .ok n →
        n.select.Grounded p (criteria.map (·.1) ++ request.map (·.1)) ∧ n.sql = n.select.text) ∧
      ∀ fields (c : Clauses) n, c.Grounded p fields → p.lower c = .ok n →
        n.select.Grounded p fields ∧ n.sql = n.select.text := by
  refine ⟨?_, ?_, ?_, ?_, ?_⟩
  · intro key criteria request limit offset q read
    rw [h.perform_eq (Criteria.settled_read key criteria request limit offset)] at read
    exact Criteria.grounded_read read
  · rintro c criteria request limit offset q rfl composed
    rw [h.perform_eq (Composer.settled_compose criteria request limit offset)] at composed
    exact Composer.grounded_compose composed
  · intro text q read
    rw [h.perform_eq (QueryText.settled_query text)] at read
    exact QueryText.grounded_query read
  · intro criteria request limit offset n made
    rw [h.perform_eq (PlainCriteria.settled_select criteria request limit offset)] at made
    exact ⟨PlainCriteria.grounded_select made, PlainCriteria.sql_of_select made⟩
  · intro fields c n grounded lowered
    rw [lower] at lowered
    obtain ⟨s, made, rfl⟩ := map_eq_ok.1 lowered
    exact ⟨grounded.select made, rfl⟩

/-- A persister of accounts, whose addresses are stored under another name. -/
def accounts : Persister where
  handle := 1
  catalog := ⟨[⟨"Account", "accounts", some "app", ["id"],
    [⟨"mail", some "mail_address", .lowercase⟩, ⟨"age", none, .identity⟩]⟩]⟩
  entity := "Account"
  casing := .lower

/-- Criteria with query text, and with an address that tries to get out of its quotes. -/
def intruding : Criteria :=
  [("mail", .string "X' OR e.id = 1 -- "), ("query", .string "age >= 18 OR Account.age IS NULL")]

/-- The intruding address stays within its quotes, and nothing but the columns of the two fields is
written without. -/
theorem intruding_grounded :
    let composed := (Composer.compose ⟨accounts, "query"⟩ intruding [("age", "DESC")] none none)
    let lowered := (composed.perform {}).1.bind fun q => accounts.lower q.clauses
    lowered.map (·.sql) = .ok ("SELECT e.* FROM app.accounts e WHERE (e.age >= 18 OR " ++
        "e.age IS NULL) AND e.mail_address = 'x'' or e.id = 1 -- ' ORDER BY e.age DESC") ∧
      ∀ n, lowered = .ok n → n.select.Grounded accounts ["age", "age", "mail", "age"] := by
  intro composed lowered
  refine ⟨by decide +kernel, ?_⟩
  intro n made
  obtain ⟨q, read, made⟩ := bind_eq_ok.1 made
  obtain ⟨-, compose, -, -, select⟩ := Persister.Remembers.grounded (.nothing (p := accounts))
  have grounded := compose ⟨accounts, "query"⟩ intruding [("age", "DESC")] none none q rfl read
  have names : Composer.textFields ⟨accounts, "query"⟩ intruding ++
      intruding.fields "query" ++ [("age", "DESC")].map (·.1) = ["age", "age", "mail", "age"] := by
    decide +kernel
  rw [names] at grounded
  exact (select _ q.clauses n grounded made).1

end EntityQuery
