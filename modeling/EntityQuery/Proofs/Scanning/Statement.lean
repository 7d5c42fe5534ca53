import EntityQuery.Proofs.Scanning.Expression

/-!
# The tokens of statements

A statement of whole rows is split clause by clause. Only the tokens behind `WHERE` are those of
expressions with literals in them; what stands in front of them depends on the table alone, and what
stands behind them on the order and the page.
-/

namespace EntityQuery

open Scanner

/-- Whether the names of a table need no quotes. -/
def TableName.isPlain (t : TableName) : Bool :=
  t.schema.all (isName ·.toList) && isName t.name.toList

/-- The tokens of a table. -/
def TableName.tokens (t : TableName) : List Token :=
  (t.schema.elim [] fun schema => [.name schema, .symbol "."]) ++ [.name t.name]

/-- The tokens of a column to sort by. -/
def SortKey.tokens (k : SortKey) : List Token :=
  [.name rootAlias, .symbol ".", .name k.column,
    .name (if k.direction == .asc then "ASC" else "DESC")]

namespace Sql.Select

/-- The tokens in front of the filter of a statement of whole rows. -/
def frontTokens (t : TableName) : List (List Token) :=
  [[.name "SELECT", .name rootAlias, .symbol ".", .symbol "*"],
    .name "FROM" :: (t.tokens ++ [.name rootAlias])]

/-- The tokens of the filter, if there is one. -/
def filterTokens (filter : Option Expr) : List (List Token) :=
  (filter.map fun e => .name "WHERE" :: e.tokens).toList

/-- The tokens behind the filter. -/
def tailTokens (keys : SortOrder) (limit offset : Option Nat) : List (List Token) :=
  (if keys.isEmpty then []
    else [.name "ORDER" :: .name "BY" :: separated (keys.map SortKey.tokens)]) ++
    (limit.map fun n => [.name "LIMIT", .number (toString n)]).toList ++
    (offset.map fun n => [.name "OFFSET", .number (toString n)]).toList

/-- The tokens of a statement of whole rows. -/
def rowTokens (t : TableName) (filter : Option Expr) (keys : SortOrder)
    (limit offset : Option Nat) : List Token :=
  (frontTokens t ++ filterTokens filter ++ tailTokens keys limit offset).flatten

end Sql.Select

namespace Scanner

/-! ## Clauses -/

/-- A word and a blank in front of a text. -/
theorem Complete.word {word text : String} {ts : List Token} (plain : isName word.toList)
    (h : Complete text ts) : Complete (word ++ " " ++ text) (.name word :: ts) := by
  intro after ends
  have spelled : (word ++ " " ++ text).toList = word.toList ++ ' ' :: text.toList := by simp
  rw [spelled]
  exact Sql.scanned_word plain (h after ends)

theorem Clause.word {word text : String} {ts : List Token} (plain : isName word.toList)
    (h : Complete text ts) : Clause (word ++ " " ++ text) (.name word :: ts) := by
  obtain ⟨c, rest, spelled, start⟩ := exists_cons_of_isName plain
  exact ⟨⟨c, rest ++ (" ".toList ++ text.toList), by simp [spelled], start⟩, h.word plain⟩

/-- A clause that there may be. -/
theorem Clause.optional {α : Type} (word : String) {text : α → String} {ts : α → List Token}
    (plain : isName word.toList) (o : Option α) (h : ∀ a ∈ o, Complete (text a) (ts a)) :
    List.Forall₂ Clause (Sql.clause word (o.map text))
      (o.map fun a => .name word :: ts a).toList := by
  cases o with
  | none => exact .nil
  | some a => exact .cons (.word plain (h a rfl)) .nil

end Scanner

/-! ## Parts of a statement -/

/-- The number of a page. -/
theorem complete_natural (n : Nat) : Complete (toString n) [.number (toString n)] := by
  intro after ends
  have scanned := scanned_number (ConditionText.isPlainNumber_toString n) ends.breaks
  rwa [String.ofList_toList] at scanned

theorem complete_table {t : TableName} (plain : t.isPlain) :
    Complete (Sql.tableText t.schema t.name (some rootAlias)) (t.tokens ++ [.name rootAlias]) := by
  intro after ends
  obtain ⟨schema, name⟩ := t
  rw [TableName.isPlain, Bool.and_eq_true] at plain
  have labelled : Scanned (' ' :: rootAlias.toList) [.name rootAlias] after :=
    (scanned_name (by decide) ends.endsName).blank
  cases schema with
  | none =>
      have spelled : (Sql.tableText none name (some rootAlias)).toList =
          name.toList ++ ' ' :: rootAlias.toList := by
        simp [Sql.tableText]
      rw [spelled]
      exact (scanned_name plain.2 (endsName_blank _)).append labelled
  | some schema =>
      have spelled : (Sql.tableText (some schema) name (some rootAlias)).toList =
          (schema.toList ++ '.' :: name.toList) ++ ' ' :: rootAlias.toList := by
        simp [Sql.tableText]
      rw [spelled]
      exact (Sql.scanned_qualified plain.1 plain.2 (endsName_blank _)).append labelled

theorem complete_sortKey {k : SortKey} (plain : isName k.column.toList) :
    Complete (Sql.OrderTerm.text ⟨rootColumn k.column, some (k.direction == .asc)⟩) k.tokens := by
  intro after ends
  let word := if k.direction == .asc then "ASC" else "DESC"
  have directed : Scanned (' ' :: word.toList) [.name word] after := by
    refine (scanned_name ?_ ends.endsName).blank
    unfold word
    split <;> decide
  have spelled : (Sql.OrderTerm.text ⟨rootColumn k.column, some (k.direction == .asc)⟩).toList =
      (rootAlias.toList ++ '.' :: k.column.toList) ++ ' ' :: word.toList := by
    have other : (Direction.desc == .asc) = false := rfl
    unfold word
    cases k.direction <;> simp [Sql.OrderTerm.text, rootColumn, Sql.Expr.text, other]
  rw [spelled]
  have root : isName rootAlias.toList := by decide
  exact (Sql.scanned_qualified root plain (endsName_blank _)).append directed

namespace Sql.Select

theorem clause_front : Clause "SELECT e.*"
    [.name "SELECT", .name rootAlias, .symbol ".", .symbol "*"] := by
  have everything : Complete "e.*" [.name rootAlias, .symbol ".", .symbol "*"] := by
    intro after ends
    have root : Scanned rootAlias.toList [.name rootAlias] ('.' :: '*' :: after) :=
      scanned_name (by decide) (by rintro _ ⟨⟩; decide)
    have point : Scanned ['.'] [.symbol "."] ('*' :: after) :=
      scanned_point (by rintro _ ⟨⟩; decide)
    exact root.append (point.append (scanned_everything ends))
  have first : Clause ("SELECT" ++ " " ++ "e.*") _ := .word (by decide) everything
  exact first

theorem clauses_order {keys : SortOrder} (plain : ∀ k ∈ keys, isName k.column.toList) :
    List.Forall₂ Clause (clause "ORDER BY" (orderText (Lowering.order keys)))
      (if keys.isEmpty then []
        else [.name "ORDER" :: .name "BY" :: separated (keys.map SortKey.tokens)]) := by
  cases keys with
  | nil => exact .nil
  | cons k rest =>
      let listed := ", ".intercalate ((Lowering.order (k :: rest)).map OrderTerm.text)
      have terms : Complete listed (separated ((k :: rest).map SortKey.tokens)) := by
        refine .separated ?_
        rw [Lowering.order, List.map_map, List.forall₂_map_left_iff, List.forall₂_map_right_iff,
          List.forall₂_same]
        exact fun k mem => complete_sortKey (plain k mem)
      have spelled : "ORDER BY" ++ " " ++ listed = "ORDER" ++ " " ++ ("BY" ++ " " ++ listed) := by
        simp [← String.toList_inj]
      have words : Clause ("ORDER BY" ++ " " ++ listed)
          (.name "ORDER" :: .name "BY" :: separated ((k :: rest).map SortKey.tokens)) := by
        rw [spelled]
        exact .word (by decide) (terms.word (by decide))
      exact .cons words .nil

/-- The tokens of a statement of whole rows are those of its clauses, if its names need no quotes
and its filter is split on its own. -/
theorem tokens_wholeRows {t : TableName} {filter : Option Expr} {keys : SortOrder}
    (table : t.isPlain) (complete : ∀ e ∈ filter, Complete e.text e.tokens)
    (columns : ∀ k ∈ keys, isName k.column.toList) (limit offset : Option Nat) :
    Scanner.tokens (wholeRows t filter (Lowering.order keys) limit offset).text.toList =
      some (rowTokens t filter keys limit offset) := by
  have front : List.Forall₂ Clause ["SELECT e.*",
      "FROM" ++ " " ++ tableText t.schema t.name (some rootAlias)] (frontTokens t) :=
    .cons clause_front (.cons (.word (by decide) (complete_table table)) .nil)
  have filtered := Clause.optional "WHERE" (by decide) filter complete
  have limited := Clause.optional "LIMIT" (by decide) limit fun n _ => complete_natural n
  have shifted := Clause.optional "OFFSET" (by decide) offset fun n _ =>
    complete_natural n
  have clauses := List.rel_append (List.rel_append (List.rel_append (List.rel_append front
    filtered) (clauses_order columns)) limited) shifted
  have whole := Scanned.tokens_eq (Complete.joined clauses [] .nothing)
  rw [rowTokens, tailTokens, wholeRows, Select.text, Source.text, assemble, projectionText]
  simp only [List.append_assoc] at whole ⊢
  exact whole

end Sql.Select

end EntityQuery
