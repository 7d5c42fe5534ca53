import EntityQuery.Proofs.Counting.Evaluation
import EntityQuery.Proofs.Filter.Shape
import EntityQuery.Proofs.Memory.Operation

/-!
# A count counts what is selected

The statement of a query selects whole rows; the counting statement counts identities in one of two
ways. Both filter the same table by the same filter, and the rows that are kept have as many
different identities as the statement without its page selects. An identity of one column is counted
as a column without nulls; the rows of the derived table are the identities of several columns with
the names of the columns beside the values, which makes no two of them equal or different.
-/

namespace EntityQuery

open Lookup

/-! ## Statements without an order and a page -/

namespace Sql

mutual

/-- Whether no level of a statement has an order or a page. -/
def Select.isUnpaged : Select → Bool
  | ⟨_, _, none, _, order, limit, offset⟩ => order.isEmpty && limit.isNone && offset.isNone
  | ⟨_, _, some source, _, order, limit, offset⟩ =>
    order.isEmpty && limit.isNone && offset.isNone && source.isUnpaged

/-- Whether no level of what is selected from has an order or a page. -/
def Source.isUnpaged : Source → Bool
  | .table _ _ _ => true
  | .derived query _ => query.isUnpaged

end

end Sql

/-! ## Rows -/

namespace Database

variable {α : Type} [DecidableEq α] (d : Database α)

/-- The rows of a table that a filter keeps, under the alias of the root table. -/
def kept (t : TableName) (filter : Option Sql.Expr) : List (Scope α) :=
  ((d.table t.schema t.name).map fun record => ⟨rootAlias, record⟩).filter (d.keeps filter)

section

variable {scopes : List (Scope α)} {projections : List Sql.Projection} {filter : Option Sql.Expr}
  {order : List Sql.OrderTerm}

/-- Rows that are counted together give one row. -/
theorem selected_together (together : projections.any Sql.Projection.isAggregate = true) :
    d.selected scopes false projections filter order none none =
      let kept := scopes.filter (d.keeps filter)
      [projections.flatMap (d.projected kept (kept.headD ⟨"", []⟩))] := by
  have given : projections.isEmpty = false := by
    cases projections with
    | nil => cases together
    | cons p rest => rfl
  simp [selected, given, together, page]

/-- Rows that are selected one by one are given in some order, and equal ones once if asked for. -/
theorem selected_each (given : projections.isEmpty = false)
    (each : projections.any Sql.Projection.isAggregate = false) (distinct : Bool) :
    let records := (scopes.filter (d.keeps filter)).map fun s =>
      projections.flatMap (d.projected [] s)
    (d.selected scopes distinct projections filter order none none).Perm
      (if distinct then records.dedup else records) := by
  have sorted := (List.perm_insertionSort (fun s s' => d.precedes order s s')
    (scopes.filter (d.keeps filter))).map fun s => projections.flatMap (d.projected [] s)
  cases distinct with
  | false => simpa [selected, given, each, page] using sorted
  | true => simpa [selected, given, each, page] using sorted.dedup

end

theorem identities_of_perm {records records' : List (Record α)} (h : records.Perm records')
    (names : List String) : d.identities names records = d.identities names records' :=
  List.toFinset_eq_of_perm _ _ (h.map _)

variable {t : TableName} {filter : Option Sql.Expr}

theorem mem_kept {s : Scope α} (mem : s ∈ d.kept t filter) :
    s.label = rootAlias ∧ s.record ∈ d.table t.schema t.name := by
  obtain ⟨record, listed, rfl⟩ := List.mem_map.1 (List.mem_filter.1 mem).1
  exact ⟨rfl, listed⟩

theorem value_rootColumn {s : Scope α} (mem : s ∈ d.kept t filter)
    (rows : List (Scope α)) (column : String) :
    d.value rows s (rootColumn column) = d.column s.record column := by
  rw [rootColumn, value, if_pos (d.mem_kept mem).1.symm]

/-- Without a page, a statement of whole rows gives the rows that are kept, in some order. -/
theorem rows_of_whole (order : List Sql.OrderTerm) :
    (d.rows (.wholeRows t filter order none none)).Perm
      ((d.kept t filter).map (·.record)) := by
  have whole (s : Scope α) (mem : s ∈ d.kept t filter) :
      [Sql.Projection.allOf rootAlias].flatMap (d.projected [] s) = s.record := by
    rw [List.flatMap_singleton, projected, if_pos (d.mem_kept mem).1.symm]
  have each : (d.selected (d.scopes (.table t.schema t.name (some rootAlias))) false
      [.allOf rootAlias] filter order none none).Perm
        ((d.kept t filter).map fun s => [.allOf rootAlias].flatMap (d.projected [] s)) :=
    d.selected_each rfl rfl false
  rw [Sql.Select.wholeRows, rows, ← List.map_congr_left whole]
  exact each

variable (order : List Sql.OrderTerm) (limit offset : Option Nat)

/-- Counting the different values of a column gives one row with their number, if none is null. -/
theorem rows_of_distinctCount {column : String}
    (present : ∀ record ∈ d.table t.schema t.name, d.column record column ≠ d.null) :
    ∃ label, d.rows (CountForm.distinctCount [column]
        (.wholeRows t filter order limit offset)) =
      [[(label, d.count
        (d.identities [column] ((d.kept t filter).map (·.record))).card)]] := by
  let counted := Sql.Expr.aggregate "COUNT" ([column].map rootColumn) true
  let kept := d.kept t filter
  have arguments : (kept.map fun s => d.argumentValues [] s ([column].map rootColumn)) =
      (kept.map (·.record)).map (d.columns [column]) := by
    rw [List.map_map]
    refine List.map_congr_left fun s mem => ?_
    have single : d.argumentValues [] s [rootColumn column] =
        [d.value [] s (rootColumn column)] := by
      rw [rootColumn, argumentValues, argumentValues]
      rintro ⟨⟩
    rw [List.map_singleton, single, d.value_rootColumn mem]
    rfl
  have noNull : ∀ vs ∈ (kept.map (·.record)).map (d.columns [column]), d.null ∉ vs := by
    intro vs mem null
    obtain ⟨record, listed, rfl⟩ := List.mem_map.1 mem
    obtain ⟨s, here, rfl⟩ := List.mem_map.1 listed
    refine present s.record (d.mem_kept here).2 ?_
    simpa [columns, eq_comm] using null
  have number (s : Scope α) : d.value kept s counted =
      d.count (d.identities [column] (kept.map (·.record))).card := by
    have all : ((kept.map (·.record)).map (d.columns [column])).filter (fun vs => d.null ∉ vs) =
        (kept.map (·.record)).map (d.columns [column]) :=
      List.filter_eq_self.2 fun vs mem => decide_eq_true (noNull vs mem)
    rw [value, arguments, aggregated, if_pos rfl, all, identities, List.card_toFinset]
    rfl
  have together : d.selected (d.scopes (.table t.schema t.name (some rootAlias))) false
      [.expr counted none] filter [] none none =
        [[.expr counted none].flatMap (d.projected kept (kept.headD ⟨"", []⟩))] :=
    d.selected_together rfl
  refine ⟨d.label counted, ?_⟩
  rw [Sql.Select.wholeRows, CountForm.distinctCount, rows, together, ← number]
  rfl

/-- Two functions that agree on which elements they tell apart take a list to as many different
values. -/
theorem length_dedup_map {β γ δ : Type} [DecidableEq γ] [DecidableEq δ] {f : β → γ} {g : β → δ}
    (same : ∀ a b, f a = f b ↔ g a = g b) (l : List β) :
    (l.map f).dedup.length = (l.map g).dedup.length := by
  induction l with
  | nil => rfl
  | cons a l ih =>
      have mem : f a ∈ l.map f ↔ g a ∈ l.map g := by
        simp only [List.mem_map, same]
      rw [List.map_cons, List.map_cons]
      by_cases known : f a ∈ l.map f
      · rw [List.dedup_cons_of_mem known, List.dedup_cons_of_mem (mem.1 known), ih]
      · rw [List.dedup_cons_of_notMem known, List.dedup_cons_of_notMem (mt mem.2 known),
          List.length_cons, List.length_cons, ih]

/-- The statement of the identities of several columns gives as many rows as there are. -/
theorem length_rows_of_identities {names : List String} (some : names ≠ []) :
    (d.rows (CountForm.identities names
        (.wholeRows t filter order limit offset))).length =
      (d.identities names ((d.kept t filter).map (·.record))).card := by
  let kept := d.kept t filter
  let named (record : Record α) : Record α := names.map fun c => (c, d.column record c)
  let projections := names.map fun c => Sql.Projection.expr (rootColumn c) none
  have selected (s : Scope α) (mem : s ∈ kept) :
      projections.flatMap (d.projected [] s) = named s.record := by
    have each (c : String) : d.projected [] s (.expr (rootColumn c) none) =
        [(c, d.column s.record c)] := by
      rw [← d.value_rootColumn mem [] c]
      rfl
    rw [List.flatMap_map]
    simp only [each]
    exact List.map_eq_flatMap.symm
  have plain : projections.any Sql.Projection.isAggregate = false := by
    rw [List.any_map, List.any_eq_false]
    intro c _
    simp [Sql.Projection.isAggregate, rootColumn, Sql.Expr.isAggregate]
  have given : projections.isEmpty = false := by
    simpa [projections] using some
  have rows : (d.rows (CountForm.identities names
      (.wholeRows t filter order limit offset))).Perm
        ((kept.map (·.record)).map named).dedup := by
    have same : (kept.map (·.record)).map named =
        kept.map fun s => projections.flatMap (d.projected [] s) := by
      rw [List.map_map]
      exact (List.map_congr_left selected).symm
    rw [Sql.Select.wholeRows, CountForm.identities, rows, same]
    exact d.selected_each given plain true
  have apart (record record' : Record α) :
      named record = named record' ↔ d.columns names record = d.columns names record' := by
    simp [named, columns, List.map_inj_left]
  rw [rows.length_eq, length_dedup_map apart, identities, List.card_toFinset]

/-- Counting the rows of a derived table gives one row with their number. -/
theorem rows_of_rowCount (label : String) (query : Sql.Select) :
    d.rows (CountForm.rowCount label query) = [[(label, d.count (d.rows query).length)]] := by
  have number (rows : List (Scope α)) (s : Scope α) :
      d.value rows s (.aggregate "COUNT" [.wildcard] false) = d.count rows.length := by
    have all : (rows.map fun _ => ([] : List α)).filter (fun vs => d.null ∉ vs) =
        rows.map fun _ => [] :=
      List.filter_eq_self.2 fun vs mem => by
        obtain ⟨_, -, rfl⟩ := List.mem_map.1 mem
        simp
    have none (s : Scope α) : d.argumentValues [] s [.wildcard] = [] := by
      rw [argumentValues, argumentValues]
    simp only [value, none]
    rw [aggregated, if_pos rfl, all]
    simp
  rw [CountForm.rowCount, rows, scopes, d.selected_together rfl]
  have everything : ((d.rows query).map fun record => Scope.mk CountForm.derivedAlias record).filter
      (d.keeps none) = (d.rows query).map fun record => ⟨CountForm.derivedAlias, record⟩ :=
    List.filter_eq_self.2 fun s _ => rfl
  rw [everything]
  change [[(label, d.value _ _ _)]] = _
  rw [number, List.length_map]

/-! ## Counting statements -/

/-- The counting statement of a statement of whole rows gives one row, with the number of identities
among the rows that the statement selects without its page. Where the number has to be found by the
name of its column, it has this name. -/
theorem rows_of_countForm (casing : ResultCasing) {identity : Identity}
    (some : identity.columns ≠ [])
    (present : ∀ record ∈ d.table t.schema t.name, ∀ c ∈ identity.columns,
      d.column record c ≠ d.null) :
    let s := Sql.Select.wholeRows t filter order limit offset
    let f := CountForm.ofSelect casing identity s
    ∃ label, d.rows f.native.select =
        [[(label, d.count (d.identities identity.columns (d.rows (s.paginated none none))).card)]] ∧
      ∀ column, f.scalarColumn? = Option.some column → column = label := by
  intro s f
  have whole : d.identities identity.columns (d.rows (s.paginated none none)) =
      d.identities identity.columns ((d.kept t filter).map (·.record)) :=
    d.identities_of_perm (d.rows_of_whole order) identity.columns
  cases identity with
  | single column =>
      obtain ⟨label, rows⟩ : ∃ label, d.rows (CountForm.distinctCount [column] s) =
          [[(label, d.count
            (d.identities [column] ((d.kept t filter).map (·.record))).card)]] :=
        d.rows_of_distinctCount order limit offset fun record mem =>
          present record mem column (List.mem_singleton_self column)
      refine ⟨label, ?_, ?_⟩
      · rw [whole]
        exact rows
      · rintro _ ⟨⟩
  | composite columns =>
      refine ⟨casing.apply CountForm.countAlias, ?_, ?_⟩
      · have length : (d.rows (CountForm.identities columns s)).length =
            (d.identities (Identity.composite columns).columns
              ((d.kept t filter).map (·.record))).card :=
          d.length_rows_of_identities order limit offset some
        rw [whole, ← length]
        exact d.rows_of_rowCount _ _
      · rintro _ ⟨⟩
        rfl

end Database

namespace CountForm

/-- The counting statement does not depend on the order and the page of a statement of whole
rows. -/
theorem ofSelect_wholeRows (casing : ResultCasing) (identity : Identity)
    (t : TableName) (filter : Option Sql.Expr)
    (order order' : List Sql.OrderTerm) (limit offset limit' offset' : Option Nat) :
    ofSelect casing identity (.wholeRows t filter order limit offset) =
      ofSelect casing identity (.wholeRows t filter order' limit' offset') := by
  cases identity <;> rfl

/-- The counting statement has its own text, and no level of it has an order or a page. -/
theorem native_ofSelect (casing : ResultCasing) (identity : Identity)
    (t : TableName) (filter : Option Sql.Expr)
    (order : List Sql.OrderTerm) (limit offset : Option Nat) :
    let f := ofSelect casing identity (.wholeRows t filter order limit offset)
    f.native.sql = f.native.select.text ∧ f.native.select.isUnpaged := by
  cases identity <;> exact ⟨rfl, rfl⟩

end CountForm

namespace Persister

variable {p : Persister}

/-- An entity that has an identity has columns in it. -/
theorem columns_of_identity {identity : Identity} (h : p.identity.fresh = .ok identity) :
    identity.columns ≠ [] := by
  rw [fresh_identity] at h
  obtain ⟨columns, found, rfl⟩ := map_eq_ok.1 h
  rw [Identity.columns_ofColumns]
  rintro rfl
  unfold identityColumns at found
  split at found
  · cases found
  · cases found
  · next fields given known =>
      rw [fresh_mapM settled_identityColumn, mapM_eq_ok, List.forall₂_nil_right_iff] at found
      exact given found

/-- The filter and the table of a statement depend on the condition alone. -/
theorem select_of_condition {c c' : Clauses} {s : Sql.Select} (made : p.select c = .ok s)
    (same : c'.condition = c.condition) :
    ∃ filter t, p.catalog.table? p.entity = some t ∧
      s = .wholeRows t filter (Lowering.order (c.order.getD [])) c.limit c.offset ∧
      p.select c' =
        .ok (.wholeRows t filter (Lowering.order (c'.order.getD [])) c'.limit c'.offset) := by
  obtain ⟨filter, t, lowered, known, rfl⟩ := select_eq_ok.1 made
  have lowered' : c'.filter = .ok filter := by
    rw [Clauses.filter, same]
    exact lowered
  exact ⟨filter, t, known, rfl, select_eq_ok.2 ⟨filter, t, lowered', known, rfl⟩⟩

end Persister

/-- Whatever a persister has been asked before, a query that can be lowered is counted if the
identity of the entity is known. Queries with the same condition are counted by the same statement,
of which no level has an order or a page. Over every database in whose table no identifier is null,
this statement gives one row, with the number of identities among the rows that the statement of the
query selects without its page. -/
theorem Query.countForm_counts {p : Persister} {memo : Memo} (h : p.Remembers memo)
    {identity : Identity} (known : (p.identity.perform memo).1 = .ok identity) {q : Query}
    (bound : q.persister? = some p) {n : NativeQuery} (lowers : p.lower q.clauses = .ok n) :
    ∃ f : CountForm, (q.countForm.perform memo).1 = .ok f ∧
      (∀ memo' (q' : Query), p.Remembers memo' → q'.persister? = some p →
        q'.clauses.condition = q.clauses.condition → (q'.countForm.perform memo').1 = .ok f) ∧
      f.native.sql = f.native.select.text ∧ f.native.select.isUnpaged ∧
      ∀ (α : Type) [DecidableEq α] (d : Database α),
        (∀ t, p.catalog.table? p.entity = some t → ∀ record ∈ d.table t.schema t.name,
          ∀ c ∈ identity.columns, d.column record c ≠ d.null) →
        ∃ label, d.rows f.native.select = [[(label, d.count
            (d.identities identity.columns (d.rows (n.select.paginated none none))).card)]] ∧
          ∀ column, f.scalarColumn? = some column → column = label := by
  have found : p.identity.fresh = .ok identity := (h.perform_eq p.settled_identity).symm.trans known
  rw [Persister.lower] at lowers
  obtain ⟨s, made, rfl⟩ := map_eq_ok.1 lowers
  have counted (memo' : Memo) (q' : Query) (h' : p.Remembers memo')
      (bound' : q'.persister? = some p) (same : q'.clauses.condition = q.clauses.condition) :
      (q'.countForm.perform memo').1 = .ok (.ofSelect p.casing identity s) := by
    obtain ⟨filter, t, -, rfl, made'⟩ := p.select_of_condition made same
    rw [Query.countForm, bound']
    dsimp only
    rw [h'.perform_eq (Persister.settled_countForm _), Persister.fresh_countForm, found, made']
    exact congrArg Except.ok (CountForm.ofSelect_wholeRows ..)
  obtain ⟨filter, t, root, rfl, -⟩ := p.select_of_condition made rfl
  obtain ⟨text, unpaged⟩ := CountForm.native_ofSelect p.casing identity t filter
    (Lowering.order (q.clauses.order.getD [])) q.clauses.limit q.clauses.offset
  refine ⟨_, counted memo q h bound rfl, counted, text, unpaged, ?_⟩
  intro α _ d present
  exact d.rows_of_countForm _ _ _ p.casing (Persister.columns_of_identity found) (present t root)

/-- A persister of the memberships of users in groups. -/
def memberships : Persister where
  handle := 1
  catalog := ⟨[⟨"Membership", "memberships", none, ["group_id", "user_id"],
    [⟨"role", none, .identity⟩]⟩]⟩
  entity := "Membership"
  casing := .lower

/-- The first membership of rank one, in the order of groups. -/
def firstMembership : Query where
  clauses :=
    .ofParts (.comparison "role" .eq (.integer 1)) [⟨"group_id", .asc⟩] (some 1) none
  stage := .bound
  persister? := some memberships

/-- A database of natural numbers, with four memberships, of which one is there twice and one has
another rank. -/
def someMemberships : Database (Option Nat) where
  null := none
  boolean b := some b.toNat
  count := some
  literal
    | .integer i => some i.toInt.toNat
    | _ => none
  compare _ v w := v = w
  sorted v w := v.getD 0 ≤ w.getD 0
  fragment _ _ := none
  aggregate _ _ _ := none
  label _ := "count"
  table _ _ :=
    [[("group_id", some 7), ("user_id", some 1), ("role", some 1)],
      [("group_id", some 5), ("user_id", some 1), ("role", some 1)],
      [("group_id", some 5), ("user_id", some 2), ("role", some 0)],
      [("group_id", some 7), ("user_id", some 1), ("role", some 1)]]

/-- The memberships of rank one are counted by this statement, also if only the first one is asked
for, and there are two of them. -/
theorem firstMembership_counts :
    ∃ f, (firstMembership.countForm.perform {}).1 = .ok f ∧
      f.native.sql = "SELECT COUNT(*) AS dctrn_count FROM (SELECT DISTINCT " ++
        "e.group_id, e.user_id FROM memberships e WHERE e.role = 1) dctrn_result" ∧
      someMemberships.rows f.native.select = [[("dctrn_count", some 2)]] := by
  have known : (memberships.identity.perform {}).1 = .ok (.composite ["group_id", "user_id"]) := by
    decide
  let filter := Sql.Expr.binary (rootColumn "role") .eq (.literal (.integer 1))
  let s := Sql.Select.wholeRows ⟨none, "memberships"⟩ (some filter)
    (Lowering.order [⟨"group_id", .asc⟩]) (some 1) none
  have lowers : memberships.lower firstMembership.clauses = .ok { select := s } := rfl
  obtain ⟨f, counted, -, text, -, rows⟩ :=
    Query.countForm_counts .nothing known (q := firstMembership) rfl lowers
  have made : (firstMembership.countForm.perform {}).1 =
      .ok (.ofSelect .lower (.composite ["group_id", "user_id"]) s) := rfl
  obtain rfl := Except.ok.inj (counted.symm.trans made)
  refine ⟨_, counted, ?_, ?_⟩
  · rw [text]
    decide
  · obtain ⟨label, number, named⟩ := rows (Option Nat) someMemberships (by
      rintro _ ⟨⟩
      decide)
    have found : (someMemberships.identities ["group_id", "user_id"]
        (someMemberships.rows (s.paginated none none))).card = 2 := by
      decide
    rw [number, ← named _ rfl]
    exact congrArg (fun n => [[("dctrn_count", some n)]]) found

end EntityQuery
