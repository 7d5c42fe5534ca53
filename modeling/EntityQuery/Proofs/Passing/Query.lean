import EntityQuery.Proofs.Passing.Operation

/-!
# Clauses and queries

The readings of clauses, tables, selections and whole queries keep the contract of `Passes`, and so
does every level of nesting: an expression or a query that is read has its places from the tokens it
was read from, however deep they are nested.
-/

namespace EntityQuery.ConditionText

-- An instance for a reading holds one for each of its parts.
set_option synthInstance.maxSize 2048

namespace Parse

variable {K : Known} {inner : Level} [inner.IsSound]

/-! ## Clauses -/

instance passes_tuple (single : Bool) : Passes K (tuple inner single) := by
  unfold tuple
  infer_instance

instance passes_emptyTuple : Passes K emptyTuple := by
  refine .of_suffix (fun _ => rfl) fun read => ?_
  unfold emptyTuple at read
  split at read <;> cases read
  · exact List.suffix_append [_, _] _
  · exact List.suffix_rfl

instance passes_groupKey : Passes K (groupKey inner) := by
  unfold groupKey
  refine .bind inferInstance fun _ => ?_
  repeat' first | refine .bind inferInstance fun _ => ?_ | split | infer_instance

instance passes_groupClause? : Passes K (groupClause? inner) := by
  unfold groupClause?
  infer_instance

instance passes_exprsAfter? (keys : List String) : Passes K (exprsAfter? inner keys) := by
  unfold exprsAfter?
  infer_instance

instance passes_namedWindow : Passes K (namedWindow inner) := by
  unfold namedWindow
  infer_instance

instance passes_windows? : Passes K (windows? inner) := by
  unfold windows?
  infer_instance

instance passes_selectTail : Passes K (selectTail inner) := by
  unfold selectTail
  dsimp only
  infer_instance

instance passes_limitClause (known : Option Expr) [K.Has known] :
    Passes K (limitClause inner known) := by
  unfold limitClause
  split <;> infer_instance

instance passes_offsetClause (known : Option (Expr × String)) [K.Has known] :
    Passes K (offsetClause inner known) := by
  unfold offsetClause
  split <;> infer_instance

instance passes_fetchClause : Passes K fetchClause := by
  unfold fetchClause
  dsimp only
  repeat' first | refine .bind inferInstance fun _ => ?_ | split | infer_instance

instance passes_elementName : Passes K elementName := by
  unfold elementName
  infer_instance

instance passes_formatOption (words : List String) : Passes K (formatOption words) := by
  unfold formatOption
  refine passes_afterSymbol? "," (h := .bind inferInstance fun _ => ?_)
  split <;> infer_instance

instance passes_formatOptions (words : List String) : Passes K (formatOptions words) := by
  unfold formatOptions
  infer_instance

instance passes_forClause : Passes K forClause := by
  unfold forClause
  dsimp only
  repeat' first | refine .bind inferInstance fun _ => ?_ | split | infer_instance

instance passes_forClauses (n : Nat) : Passes K (forClauses n) := by
  induction n generalizing K with
  | zero => exact passes_pure
  | succ n ih =>
      unfold forClauses
      repeat' first | refine .bind inferInstance fun _ => ?_ | split | infer_instance

instance passes_queryTail : Passes K (queryTail inner) := by
  unfold queryTail
  dsimp only
  infer_instance

instance passes_alias? (reserved : List String) : Passes K (alias? reserved) := by
  unfold alias?
  dsimp only
  repeat' first | refine .bind inferInstance fun _ => ?_ | split | infer_instance

/-! ## Tables -/

instance passes_callOf (key : String) : Passes K (callOf key) := by
  refine .of_suffix (fun _ => rfl) fun read => ?_
  unfold callOf at read
  split at read
  · split at read <;> cases read
    · exact List.suffix_append [_, _] _
    · exact List.suffix_rfl
  · cases read
    exact List.suffix_rfl

instance passes_typedColumn : Passes K typedColumn := by
  unfold typedColumn
  infer_instance

instance passes_typedColumns? : Passes K typedColumns? := by
  unfold typedColumns?
  infer_instance

instance passes_tableAlias : Passes K tableAlias := by
  unfold tableAlias
  refine .bind inferInstance fun _ => ?_
  split <;> infer_instance

instance passes_withName (e : Fragment) [K.Has e] : Passes K (withName e) := by
  unfold withName
  infer_instance

instance passes_pivotedAggregate : Passes K (pivotedAggregate inner) := by
  unfold pivotedAggregate
  refine .bind inferInstance fun _ => ?_
  split <;> infer_instance

instance passes_pivotedValues : Passes K (pivotedValues inner) := by
  unfold pivotedValues
  infer_instance

instance passes_pivot (table : Fragment) [K.Has table] : Passes K (pivot inner table) := by
  unfold pivot
  infer_instance

instance passes_unpivot (table : Fragment) [K.Has table] : Passes K (unpivot table) := by
  unfold unpivot
  infer_instance

instance passes_pivots (n : Nat) (table : Fragment) [K.Has table] :
    Passes K (pivots inner n table) := by
  induction n generalizing K table with
  | zero => exact passes_pure
  | succ n ih =>
      unfold pivots
      refine .bind inferInstance fun _ => ?_
      split <;> infer_instance

instance passes_jsonFallback? : Passes K jsonFallback? := by
  unfold jsonFallback?
  dsimp only
  repeat' first | refine .bind inferInstance fun _ => ?_ | split | infer_instance

instance passes_jsonColumn (n : Nat) : Passes K (jsonColumn n) := by
  induction n generalizing K with
  | zero => exact passes_expected _
  | succ n ih =>
      unfold jsonColumn
      infer_instance

instance passes_jsonTable : Passes K (jsonTable inner) := by
  unfold jsonTable
  infer_instance

instance passes_openedColumn : Passes K openedColumn := by
  unfold openedColumn
  dsimp only
  repeat' first | refine .bind inferInstance fun _ => ?_ | split | infer_instance

instance passes_openedJson : Passes K (openedJson inner) := by
  unfold openedJson
  infer_instance

instance passes_ordinality : Passes K ordinality := by
  unfold ordinality
  infer_instance

instance passes_positionColumn : Passes K positionColumn := by
  unfold positionColumn
  infer_instance

instance passes_unnested : Passes K (unnested inner) := by
  unfold unnested
  infer_instance

instance passes_tableArguments : Passes K (tableArguments inner) := by
  unfold tableArguments
  infer_instance

instance passes_tableHints : Passes K (tableHints inner) := by
  unfold tableHints
  infer_instance

instance passes_namedTable : Passes K (namedTable inner) := by
  unfold namedTable
  dsimp only
  infer_instance

instance passes_derivedTable : Passes K (derivedTable inner) := by
  unfold derivedTable
  infer_instance

instance passes_lateralTable : Passes K (lateralTable inner) := by
  unfold lateralTable
  infer_instance

instance passes_functionTable : Passes K (functionTable inner) := by
  unfold functionTable
  infer_instance

instance passes_joinConstraint (natural : Bool) : Passes K (joinConstraint inner natural) := by
  unfold joinConstraint
  infer_instance

instance passes_joinWords? (natural : Bool) : Passes K (joinWords? natural) := by
  unfold joinWords?
  refine .bind inferInstance fun _ => ?_
  repeat' first | refine .bind inferInstance fun _ => ?_ | split | infer_instance

instance passes_join? (table : Parse Relation) [h : ∀ {K}, Passes K table] :
    Passes K (join? inner table) := by
  unfold join?
  dsimp only
  repeat' first | refine .bind inferInstance fun _ => ?_ | split | infer_instance

instance passes_joins (table : Parse Relation) [h : ∀ {K}, Passes K table] :
    Passes K (joins inner table) := by
  unfold joins
  infer_instance

instance passes_tableWithin (n : Nat) : Passes K (tableWithin inner n) := by
  induction n generalizing K with
  | zero => exact passes_expected _
  | succ n ih =>
      unfold tableWithin
      repeat' first | refine .bind inferInstance fun _ => ?_ | split | infer_instance

instance passes_table : Passes K (table inner) :=
  ⟨fun before ls => (passes_tableWithin (ls.length + 1)).passes before ls⟩

instance passes_tables : Passes K (tables inner) := by
  unfold tables
  infer_instance

/-! ## Selections -/

instance passes_selectItem : Passes K (selectItem inner) := by
  unfold selectItem
  refine .bind inferInstance fun _ => ?_
  repeat' first | refine .bind inferInstance fun _ => ?_ | split | infer_instance

instance passes_selectItems : Passes K (selectItems inner) := by
  unfold selectItems
  infer_instance

instance passes_distinctClause : Passes K (distinctClause inner) := by
  unfold distinctClause
  infer_instance

instance passes_topClause : Passes K (topClause inner) := by
  unfold topClause
  dsimp only
  infer_instance

instance passes_intoClause : Passes K intoClause := by
  unfold intoClause
  infer_instance

instance passes_lateralView? : Passes K (lateralView? inner) := by
  unfold lateralView?
  infer_instance

instance passes_selection : Passes K (selection inner) := by
  unfold selection
  infer_instance

instance passes_valueRows : Passes K (valueRows inner) := by
  unfold valueRows
  infer_instance

instance passes_wholeTable : Passes K wholeTable := by
  constructor
  intro before ls f rest known read
  have moved : rest = ls.drop 3 ∧ f.span = none := by
    unfold wholeTable at read
    dsimp only at read
    split at read
    · obtain ⟨schema, -, read⟩ := EntityQuery.bind_eq_ok.1 read
      obtain ⟨table, -, read⟩ := EntityQuery.bind_eq_ok.1 read
      cases read
      exact ⟨rfl, rfl⟩
    · obtain ⟨name, -, read⟩ := EntityQuery.bind_eq_ok.1 read
      cases read
      exact ⟨rfl, rfl⟩
  refine ⟨ls.take 3, moved.1 ▸ (List.take_append_drop 3 ls).symm, fun s mem => ?_⟩
  obtain rfl : s = none := moved.2 ▸ List.mem_singleton.1 mem
  exact .none _

instance passes_simpleQuery : Passes K (simpleQuery inner) := by
  unfold simpleQuery
  refine .bind inferInstance fun _ => ?_
  split <;> infer_instance

instance passes_setQuantifier : Passes K setQuantifier := by
  unfold setQuantifier
  infer_instance

instance passes_combinations (body : Nat → Parse Fragment) [h : ∀ {K} rank, Passes K (body rank)]
    (rank n : Nat) (left : Fragment) [K.Has left] :
    Passes K (combinations body rank n left) := by
  induction n generalizing K left with
  | zero => exact passes_pure
  | succ n ih =>
      refine .of_results fun {ls _ _} read => ?_
      unfold combinations at read
      dsimp only at read
      split at read
      · exact ⟨pure (left, false), inferInstance, read⟩
      · split at read
        · exact ⟨pure (left, false), inferInstance, read⟩
        · exact ⟨skipAny >>= fun _ => _, inferInstance, (bind_of_ok rfl).trans read⟩

instance passes_queryBody (n rank : Nat) : Passes K (queryBody inner n rank) := by
  induction n generalizing K rank with
  | zero => exact passes_expected _
  | succ n ih =>
      unfold queryBody
      infer_instance

/-! ## Changes of rows -/

instance passes_fileFormat : Passes K fileFormat := by
  unfold fileFormat
  refine .bind inferInstance fun _ => ?_
  split <;> infer_instance

instance passes_assignment : Passes K (assignment inner) := by
  unfold assignment
  dsimp only
  infer_instance

instance passes_assignments : Passes K (assignments inner) := by
  unfold assignments
  infer_instance

instance passes_conflictClause : Passes K conflictClause := by
  unfold conflictClause
  dsimp only
  infer_instance

instance passes_returningClause : Passes K (returningClause inner) := by
  unfold returningClause
  infer_instance

instance passes_conflictTarget : Passes K conflictTarget := by
  unfold conflictTarget
  infer_instance

instance passes_onConflict : Passes K (onConflict inner) := by
  unfold onConflict
  infer_instance

instance passes_nextIsSelection : Passes K nextIsSelection := by
  refine .of_unmoved fun read => ?_
  unfold nextIsSelection at read
  split at read <;> cases read <;> exact ⟨rfl, inferInstance⟩

instance passes_insertedColumns : Passes K (insertedColumns inner) := by
  unfold insertedColumns
  dsimp only
  infer_instance

instance passes_insertedRows : Passes K (insertedRows inner) := by
  unfold insertedRows
  dsimp only
  infer_instance

instance passes_insertion : Passes K (insertion inner) := by
  unfold insertion
  dsimp only
  infer_instance

instance passes_update : Passes K (update inner) := by
  unfold update
  infer_instance

/-! ## Queries -/

instance passes_namedQuery : Passes K (namedQuery inner) := by
  unfold namedQuery
  dsimp only
  repeat' first
    | refine passes_asked fun _ _ => ?_
    | refine .bind inferInstance fun _ => ?_
    | refine .ite ?_ ?_
    | infer_instance

instance passes_namedQueries : Passes K (namedQueries inner) := by
  unfold namedQueries
  refine .bind inferInstance fun _ => ?_
  split <;> infer_instance

instance passes_query : Passes K (query inner) := by
  unfold query
  infer_instance

end Parse

/-! ## Levels of nesting -/

instance level_isSound (n : Nat) : (level n).IsSound := by
  induction n with
  | zero => exact ⟨fun _ _ => Parse.passes_fail _, fun _ => Parse.passes_fail _⟩
  | succ n ih => exact ⟨fun _ _ => Parse.passes_expression _, fun _ => Parse.passes_query⟩

end EntityQuery.ConditionText
