import EntityQuery.Proofs.Repository.Statement
import EntityQuery.Proofs.Texts.Criteria
import EntityQuery.Proofs.Texts.Tokens

/-!
# Texts in requests

No text of a caller gets out of its quotes. Two requests that differ only in the contents of texts
send statements that the server splits into the same tokens but for text tokens, and each text
token denotes what the caller gave, after the transform of its field if there is a parser, and as it
is otherwise.
-/

namespace EntityQuery

open Lookup
open Scanner (Token isName)

/-! ## Conditions with query text -/

namespace Composer

variable {c : Composer} {criteria criteria' : Criteria}

theorem mapTexts_merge (f : String → String) (base : Option Condition) (condition : Condition) :
    (merge base condition).mapTexts f =
      merge (base.map (Condition.mapTexts f)) (condition.mapTexts f) := by
  cases base with
  | none => rfl
  | some base =>
      rw [merge, Option.map_some, merge, extend, extend, condition.isTrivial_mapTexts]
      split
      · rfl
      · exact Condition.mapTexts_conj f [base, condition]

theorem comparisons_merge (base : Option Condition) (condition : Condition) :
    (merge base condition).comparisons =
      base.elim [] Condition.comparisons ++ condition.comparisons := by
  cases base with
  | none => rfl
  | some base =>
      rw [merge, extend, Option.elim_some]
      split
      · next trivial =>
          rw [Condition.isTrivial_iff.1 trivial, Condition.always, Condition.comparisons,
            Condition.allComparisons, List.append_nil]
      · rw [Condition.comparisons_conj, List.flatMap_cons, List.flatMap_singleton]

theorem texts_merge (base : Option Condition) (condition : Condition) :
    (merge base condition).texts = base.elim [] Condition.texts ++ condition.texts := by
  rw [Condition.texts, comparisons_merge, List.flatMap_append]
  cases base <;> rfl

/-- Criteria with one outline have the same query text. -/
theorem base?_eq_of_outline
    (alike : criteria.outline c.persister (some c.reservedKey) =
      criteria'.outline c.persister (some c.reservedKey)) :
    c.base? criteria = c.base? criteria' := by
  have text (criteria : Criteria) : (criteria.outline c.persister (some c.reservedKey)).lookup
      c.reservedKey = criteria.lookup c.reservedKey := by
    rw [Criteria.outline, lookup_mapFields]
    simp
  rw [base?, base?, ← text criteria, alike, text criteria']

end Composer

/-! ## Plain criteria -/

namespace PlainCriteria

variable {p : Persister} {field : String} {v v' : Json} {e e' : Sql.Expr}
  {criteria criteria' : Criteria} {es es' : List Sql.Expr}

/-- What an entry consists of. -/
theorem parts_of_entry (read : (entry p field v).fresh = .ok e) :
    ∃ m value, p.catalog.mapping? p.entity field = some m ∧ Value.ofJson? v = some value ∧
      e = comparison m.column value := by
  rw [fresh_entry] at read
  obtain ⟨m, known, read⟩ := bind_eq_ok.1 read
  split at read
  · next value scalars =>
      cases read
      exact ⟨m, value, Persister.mapping_eq_ok.1 known, scalars, rfl⟩
  · cases read

theorem ofJson?_mapOperand (f : String → String) (j : Json) :
    Value.ofJson? (Criteria.mapOperand f j) = (Value.ofJson? j).map (Value.mapTexts f) := by
  unfold Criteria.mapOperand
  split
  · rfl
  · exact Value.ofJson?_mapTexts f _

/-- Entries with one outline come to the same expression but for its texts. -/
theorem mapTexts_entry (alike : p.outline field v = p.outline field v')
    (read : (entry p field v).fresh = .ok e) (read' : (entry p field v').fresh = .ok e') :
    e.mapTexts blankText = e'.mapTexts blankText := by
  obtain ⟨m, value, known, scalars, rfl⟩ := parts_of_entry read
  obtain ⟨m', value', known', scalars', rfl⟩ := parts_of_entry read'
  cases known.symm.trans known'
  rw [Persister.outline, Persister.outline, known, Option.bind_some] at alike
  cases changes : m.transform.textMap? with
  | none =>
      rw [changes] at alike
      cases alike
      cases scalars.symm.trans scalars'
      rfl
  | some g =>
      rw [changes] at alike
      have outlined := congrArg Value.ofJson? alike
      rw [ofJson?_mapOperand, ofJson?_mapOperand, scalars, scalars'] at outlined
      rw [← comparison_mapTexts, ← comparison_mapTexts, Option.some.inj outlined]

/-- The texts of an entry are those of its value. -/
theorem contents_entry (read : (entry p field v).fresh = .ok e) :
    e.contents = Criteria.operandTexts v := by
  obtain ⟨m, value, -, scalars, rfl⟩ := parts_of_entry read
  rw [Sql.Expr.contents_collects.plainComparison (Value.isFlat_of_ofJson? scalars),
    Value.texts_of_ofJson? scalars]
  cases v with
  | object fields => cases scalars
  | _ => rfl

theorem mapTexts_entries (alike : criteria.outline p none = criteria'.outline p none)
    (read : List.Forall₂ (fun x e => (entry p x.1 x.2).fresh = .ok e) criteria es)
    (read' : List.Forall₂ (fun x e => (entry p x.1 x.2).fresh = .ok e) criteria' es') :
    es.map (Sql.Expr.mapTexts blankText) = es'.map (Sql.Expr.mapTexts blankText) := by
  refine Criteria.map_eq_of_mapFields (g := p.outline) ?_ alike read read'
  exact fun field v v' e e' same made made' => mapTexts_entry same made made'

theorem contents_entries
    (read : List.Forall₂ (fun x e => (entry p x.1 x.2).fresh = .ok e) criteria es) :
    es.flatMap Sql.Expr.contents = criteria.flatMap fun x => Criteria.operandTexts x.2 := by
  induction read with
  | nil => rfl
  | cons first further ih => rw [List.flatMap_cons, List.flatMap_cons, contents_entry first, ih]

end PlainCriteria

/-! ## Statements -/

/-- The names of the entity's table and of its columns need no quotes. -/
structure Persister.HasPlainNames (p : Persister) : Prop where
  table : ∀ t, p.catalog.table? p.entity = some t → t.isPlain
  columns : ∀ field m, p.catalog.mapping? p.entity field = some m → isName m.column.toList

/-- It is enough that they need none in the definition of the entity. -/
theorem Persister.HasPlainNames.of_definition {p : Persister} {e : EntityDefinition}
    (known : p.catalog.find? p.entity = some e) (table : e.tableName.isPlain)
    (fields : ∀ f ∈ e.fields, isName (f.column.getD f.name).toList)
    (identifier : ∀ field ∈ e.identifier, isName field.toList) : p.HasPlainNames where
  table := by
    intro t mapped
    rw [Catalog.table?, known] at mapped
    cases mapped
    exact table
  columns := by
    intro field m mapped
    obtain ⟨f, mem, -, rfl⟩ | ⟨listed, rfl⟩ := Catalog.mapping?_cases known mapped
    · exact fields f mem
    · exact identifier field listed

/-- A grounded statement of whole rows is split clause by clause. -/
theorem Sql.Select.Grounded.tokens_eq {p : Persister} {fields : List String} {t : TableName}
    {filter : Option Sql.Expr} {keys : SortOrder} {limit offset : Option Nat}
    (h : (Sql.Select.wholeRows t filter (Lowering.order keys) limit offset).Grounded p fields)
    (plain : p.HasPlainNames) :
    Scanner.tokens
        (Sql.Select.wholeRows t filter (Lowering.order keys) limit offset).text.toList =
      some (Sql.Select.rowTokens t filter keys limit offset) := by
  have written : ∀ x ∈ (Sql.Select.wholeRows t filter (Lowering.order keys) limit offset).verbatim,
      x.isPlain := by
    intro x mem
    obtain ⟨field, -, m, known, rfl⟩ := h.verbatim x mem
    have column := plain.columns field m known
    have root : isName rootAlias.toList := by decide
    simp [Sql.Verbatim.isPlain, root, column]
  refine Sql.Select.tokens_wholeRows ?_ ?_ ?_ limit offset
  · obtain ⟨⟨schema, name⟩, known, source⟩ := h.source
    have table := plain.table _ known
    cases t
    cases source
    exact table
  · rintro e rfl
    exact Sql.complete_expr e fun x mem => written x (List.mem_append_left _ mem)
  · intro k listed
    have mem : Sql.Verbatim.column (some rootAlias) k.column ∈
        (Lowering.order keys).flatMap fun t => t.expr.verbatim := by
      rw [Lowering.order, List.flatMap_map, List.mem_flatMap]
      exact ⟨k, listed, by rw [rootColumn, Sql.Expr.verbatim]; exact List.mem_singleton_self _⟩
    have names := written _ (List.mem_append_right _ mem)
    rw [Sql.Verbatim.isPlain, Bool.and_eq_true] at names
    exact names.2

/-- Two statements of whole rows with filters that are the same but for texts. Both filters start
with the same texts, and each of them goes on with texts of its own. -/
def Sql.Select.AlikeBut (own own' : List String) (s s' : Sql.Select) : Prop :=
  ∃ t filter filter' keys limit offset common,
    s = .wholeRows t filter (Lowering.order keys) limit offset ∧
    s' = .wholeRows t filter' (Lowering.order keys) limit offset ∧
    filter.map (Sql.Expr.mapTexts blankText) = filter'.map (Sql.Expr.mapTexts blankText) ∧
    filter.elim [] Sql.Expr.contents = common ++ own ∧
    filter'.elim [] Sql.Expr.contents = common ++ own'

namespace Repository

variable {r : Repository} {c : Composer} {criteria criteria' : Criteria} {request : SortRequest}
  {limit offset : Option Nat} {s s' : Sql.Select}

/-- The texts that criteria are sent with: with a parser as the fields transform them, and as they
are otherwise. -/
def sentTexts (r : Repository) (criteria : Criteria) : List String :=
  match r.parserKey with
  | some key => (criteria.filter (·.1 != key)).flatMap fun x => r.persister.sentTexts x.1 x.2
  | none => criteria.flatMap fun x => Criteria.operandTexts x.2

/-- What a statement consists of that is made with a parser. -/
theorem parts_of_composer (installed : r.composer? = some c)
    (made : r.statement criteria request limit offset = .ok s) :
    ∃ condition keys base filter t,
      (Criteria.condition r.persister c.reservedKey criteria).fresh = .ok condition ∧
      (Criteria.order r.persister request).fresh = .ok keys ∧
      (c.base? criteria).fresh = .ok base ∧
      Lowering.filter (Composer.merge base condition) = .ok filter ∧
      r.persister.catalog.table? r.persister.entity = some t ∧
      s = .wholeRows t filter (Lowering.order keys) limit offset := by
  rw [statement_of_composer installed] at made
  obtain ⟨condition, read, made⟩ := bind_eq_ok.1 made
  obtain ⟨keys, ordered, made⟩ := bind_eq_ok.1 made
  obtain ⟨base, found, made⟩ := bind_eq_ok.1 made
  obtain ⟨filter, lowered, made⟩ := bind_eq_ok.1 made
  obtain ⟨table, root, made⟩ := bind_eq_ok.1 made
  obtain ⟨t, known, rfl⟩ := Persister.rootTable_eq_ok.1 root
  cases made
  exact ⟨condition, keys, base, filter, t, read, ordered, found, lowered, known, rfl⟩

/-- With a parser, the texts of the query text come first and are the same. -/
theorem alikeBut_of_composer (installed : r.composer? = some c)
    (alike : criteria.outline r.persister r.parserKey = criteria'.outline r.persister r.parserKey)
    (made : r.statement criteria request limit offset = .ok s)
    (made' : r.statement criteria' request limit offset = .ok s') :
    s.AlikeBut (r.sentTexts criteria) (r.sentTexts criteria') s' := by
  have key : r.parserKey = some c.reservedKey := by
    obtain ⟨key, known, rfl⟩ := Option.map_eq_some_iff.1 installed
    exact known
  rw [key] at alike
  obtain ⟨condition, keys, base, filter, t, read, ordered, found, lowered, known, rfl⟩ :=
    parts_of_composer installed made
  obtain ⟨condition', keys', base', filter', t', read', ordered', found', lowered', known', rfl⟩ :=
    parts_of_composer installed made'
  have text : c.base? criteria = c.base? criteria' := by
    refine Composer.base?_eq_of_outline ?_
    rw [persister_of_composer? installed]
    exact alike
  cases known.symm.trans known'
  cases ordered.symm.trans ordered'
  rw [text] at found
  cases found.symm.trans found'
  have conditions := Criteria.mapTexts_condition alike read read'
  -- The conditions are joined with one query text, so they are lowered alike but for texts.
  have filters : filter.map (Sql.Expr.mapTexts blankText) =
      filter'.map (Sql.Expr.mapTexts blankText) := by
    have merged := congrArg Lowering.filter
      (congrArg (Composer.merge (base.map (Condition.mapTexts blankText))) conditions)
    rw [← Composer.mapTexts_merge, ← Composer.mapTexts_merge, Lowering.filter_mapTexts,
      Lowering.filter_mapTexts, lowered, lowered'] at merged
    exact Except.ok.inj merged
  refine ⟨t, filter, filter', keys, limit, offset, base.elim [] Condition.texts, rfl, rfl, filters,
    ?_, ?_⟩
  · rw [Lowering.contents_filter lowered, Composer.texts_merge, Criteria.texts_condition read,
      sentTexts, key]
  · rw [Lowering.contents_filter lowered', Composer.texts_merge, Criteria.texts_condition read',
      sentTexts, key]

/-- What a statement consists of that is made without a parser. -/
theorem parts_of_plain (none : r.composer? = none)
    (made : r.statement criteria request limit offset = .ok s) :
    ∃ entries keys t,
      List.Forall₂ (fun x e => (PlainCriteria.entry r.persister x.1 x.2).fresh = .ok e) criteria
        entries ∧
      (Criteria.order r.persister request).fresh = .ok keys ∧
      r.persister.catalog.table? r.persister.entity = some t ∧
      s = .wholeRows t (PlainCriteria.filter entries) (Lowering.order keys) limit offset := by
  rw [statement_of_plain none] at made
  split at made
  · cases made
  · obtain ⟨entries, read, made⟩ := bind_eq_ok.1 made
    obtain ⟨keys, ordered, made⟩ := bind_eq_ok.1 made
    obtain ⟨table, root, made⟩ := bind_eq_ok.1 made
    obtain ⟨t, known, rfl⟩ := Persister.rootTable_eq_ok.1 root
    cases made
    exact ⟨entries, keys, t, mapM_eq_ok.1 read, ordered, known, rfl⟩

/-- Without a parser, there are no texts but those of the criteria. -/
theorem alikeBut_of_plain (none : r.composer? = none)
    (alike : criteria.outline r.persister r.parserKey = criteria'.outline r.persister r.parserKey)
    (made : r.statement criteria request limit offset = .ok s)
    (made' : r.statement criteria' request limit offset = .ok s') :
    s.AlikeBut (r.sentTexts criteria) (r.sentTexts criteria') s' := by
  have noKey : r.parserKey = Option.none := Option.map_eq_none_iff.1 none
  rw [noKey] at alike
  obtain ⟨es, keys, t, read, ordered, known, rfl⟩ := parts_of_plain none made
  obtain ⟨es', keys', t', read', ordered', known', rfl⟩ := parts_of_plain none made'
  cases known.symm.trans known'
  cases ordered.symm.trans ordered'
  refine ⟨t, _, _, keys, limit, offset, [], rfl, rfl, ?_, ?_, ?_⟩
  · rw [← PlainCriteria.filter_mapTexts, ← PlainCriteria.filter_mapTexts,
      PlainCriteria.mapTexts_entries alike read read']
  · rw [Sql.Expr.contents_collects.plainFilter, PlainCriteria.contents_entries read, sentTexts,
      noKey,
      List.nil_append]
  · rw [Sql.Expr.contents_collects.plainFilter, PlainCriteria.contents_entries read', sentTexts,
      noKey,
      List.nil_append]

theorem grounded_statement (made : r.statement criteria request limit offset = .ok s) :
    ∃ fields, s.Grounded r.persister fields := by
  rw [statement] at made
  split at made
  · next c installed =>
      obtain ⟨q, composed, made⟩ := bind_eq_ok.1 made
      have grounded := Composer.grounded_compose composed
      rw [persister_of_composer? installed] at grounded
      exact ⟨_, grounded.select made⟩
  · obtain ⟨n, composed, rfl⟩ := map_eq_ok.1 made
    exact ⟨_, PlainCriteria.grounded_select composed⟩

/-- What has been sent is the text of the statement. -/
theorem statement_of_sent {memo : Memo} {b : Backend} {sql : String}
    (h : r.persister.Remembers memo)
    (sent : (r.findBy b memo criteria request limit offset).calls = [.all sql]) :
    ∃ s, r.statement criteria request limit offset = .ok s ∧ sql = s.text := by
  obtain silent | ⟨s, made, calls⟩ := calls_of_answer (findBy_eq_answer b h)
  · rw [silent] at sent
    cases sent
  · rw [calls] at sent
    cases sent
    exact ⟨s, made, rfl⟩

/-- Requests whose criteria differ only in the contents of texts send statements that a server
splits into the same tokens but for text tokens. The texts among them are the same ones of the query
text, if there is one, and behind them what the criteria are sent with, from left to right. -/
theorem alike_findBy {memo memo' : Memo} {b b' : Backend} {sql sql' : String}
    (plain : r.persister.HasPlainNames) (h : r.persister.Remembers memo)
    (h' : r.persister.Remembers memo')
    (alike : criteria.outline r.persister r.parserKey = criteria'.outline r.persister r.parserKey)
    (sent : (r.findBy b memo criteria request limit offset).calls = [.all sql])
    (sent' : (r.findBy b' memo' criteria' request limit offset).calls = [.all sql']) :
    ∃ ts ts' common, Scanner.tokens sql.toList = some ts ∧ Scanner.tokens sql'.toList = some ts' ∧
      List.Forall₂ Token.Alike ts ts' ∧
      Token.texts ts = common ++ r.sentTexts criteria ∧
      Token.texts ts' = common ++ r.sentTexts criteria' := by
  obtain ⟨s, made, rfl⟩ := statement_of_sent h sent
  obtain ⟨s', made', rfl⟩ := statement_of_sent h' sent'
  obtain ⟨fields, grounded⟩ := grounded_statement made
  obtain ⟨fields', grounded'⟩ := grounded_statement made'
  have statements : s.AlikeBut (r.sentTexts criteria) (r.sentTexts criteria') s' := by
    cases installed : r.composer? with
    | none => exact alikeBut_of_plain installed alike made made'
    | some c => exact alikeBut_of_composer installed alike made made'
  obtain ⟨t, filter, filter', keys, limit, offset, common, rfl, rfl, filters, own, own'⟩ :=
    statements
  refine ⟨_, _, common, grounded.tokens_eq plain, grounded'.tokens_eq plain,
    Sql.Select.alike_rowTokens filters, ?_, ?_⟩
  · rw [Sql.Select.texts_rowTokens, own]
  · rw [Sql.Select.texts_rowTokens, own']

/-- A repository of contacts, whose addresses and codes are stored in one case. -/
def contacts : Repository where
  persister := {
    handle := 1
    catalog := ⟨[⟨"Contact", "contacts", some "app", ["id"],
      [⟨"mail", some "mail_address", .lowercase⟩, ⟨"code", none, .uppercase⟩,
        ⟨"name", none, .identity⟩]⟩]⟩
    entity := "Contact"
    casing := .lower }
  parserKey := some "query"

/-- Criteria with query text, with an address, two codes and a pattern to choose. -/
def contactCriteria (mail code code' pattern : String) : Criteria :=
  [("mail", .string mail),
    ("code", .object [("op", .string "in"), ("value", .array [.string code, .string code'])]),
    ("name", .object [("op", .string "like"), ("value", .string pattern)]),
    ("query", .string "id > 7 OR Contact.name = 'Ann''s'")]

/-- Texts that try to get out of their quotes do not change how the statement is split. -/
theorem quarrelsome_alike :
    let b := Backend.fixed [] 0 none
    let quiet := contactCriteria "a@b.c" "x1" "x2" "A%"
    let quarrelsome := contactCriteria "' OR 1 = 1 -- " "\\'; drop" "'\n''" "/* E'"
    let front := "SELECT e.* FROM app.contacts e WHERE (e.id > 7 OR e.name = 'Ann''s') AND "
    let sql := front ++
      "e.mail_address = 'a@b.c' AND e.code IN ('X1', 'X2') AND e.name LIKE 'A%' LIMIT 2"
    let sql' := front ++ "e.mail_address = ''' or 1 = 1 -- ' AND " ++
      "e.code IN ('\\''; DROP', '''\n''''') AND e.name LIKE '/* E''' LIMIT 2"
    (contacts.findBy b {} quiet [] (some 2) none).calls = [.all sql] ∧
      (contacts.findBy b {} quarrelsome [] (some 2) none).calls = [.all sql'] ∧
      ∃ ts ts' common, Scanner.tokens sql.toList = some ts ∧
        Scanner.tokens sql'.toList = some ts' ∧ List.Forall₂ Token.Alike ts ts' ∧
        Token.texts ts = common ++ ["a@b.c", "X1", "X2", "A%"] ∧
        Token.texts ts' = common ++ ["' or 1 = 1 -- ", "\\'; DROP", "'\n''", "/* E'"] := by
  intro b quiet quarrelsome front sql sql'
  have sent : (contacts.findBy b {} quiet [] (some 2) none).calls = [.all sql] := by
    decide +kernel
  have sent' : (contacts.findBy b {} quarrelsome [] (some 2) none).calls = [.all sql'] := by
    decide +kernel
  have plain : contacts.persister.HasPlainNames :=
    .of_definition rfl (by decide) (by decide) (by decide)
  have alike : quiet.outline contacts.persister contacts.parserKey =
      quarrelsome.outline contacts.persister contacts.parserKey := by
    rfl
  have own : contacts.sentTexts quiet = ["a@b.c", "X1", "X2", "A%"] := by
    decide +kernel
  have own' : contacts.sentTexts quarrelsome =
      ["' or 1 = 1 -- ", "\\'; DROP", "'\n''", "/* E'"] := by
    decide +kernel
  have texts := alike_findBy plain .nothing .nothing alike sent sent'
  rw [own, own'] at texts
  exact ⟨sent, sent', texts⟩

end Repository

end EntityQuery
