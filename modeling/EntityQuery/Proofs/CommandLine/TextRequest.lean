import EntityQuery.CommandLine.Program
import EntityQuery.Proofs.Repository.Statement

/-!
# Running query text

A command line may give query text in place of criteria, and it may ask for rows, for a single row
or for a count. Rows are those of the query in the text. A single row and a count are always taken
of the criteria; next to a text no criteria can be given, so they are the default ones, which keep
every row. The reader of the command line and the run of a command are taken apart here to show
this for all arguments, settings and servers.
-/

namespace EntityQuery

/-- The filter of the rows that a statement is about, also where it counts the rows of another
statement. -/
def Sql.Select.rowFilter : Sql.Select → Option Sql.Expr
  | ⟨_, _, some (.derived query _), none, _, _, _⟩ => query.rowFilter
  | ⟨_, _, _, filter, _, _, _⟩ => filter

@[simp] theorem Sql.Select.rowFilter_wholeRows (t : TableName) (filter : Option Sql.Expr)
    (order : List Sql.OrderTerm) (limit offset : Option Nat) :
    (Sql.Select.wholeRows t filter order limit offset).rowFilter = filter := by
  rw [wholeRows, rowFilter]
  rintro query label ⟨⟩

/-- Counting keeps the filter of the statement that is counted. -/
@[simp] theorem CountForm.rowFilter_ofSelect (casing : ResultCasing) (identity : Identity)
    (t : TableName) (filter : Option Sql.Expr) (order : List Sql.OrderTerm)
    (limit offset : Option Nat) :
    (CountForm.ofSelect casing identity
      (.wholeRows t filter order limit offset)).native.select.rowFilter = filter := by
  have counted (distinct : Bool) (projections : List Sql.Projection) :
      (Sql.Select.mk distinct projections (some (.table t.schema t.name (some rootAlias))) filter []
        none none).rowFilter = filter := by
    rw [Sql.Select.rowFilter]
    rintro query label ⟨⟩
  cases identity with
  | single column => exact counted _ _
  | composite columns =>
      change (CountForm.rowCount _ (.mk _ _ _ filter [] none none)).rowFilter = filter
      rw [CountForm.rowCount, Sql.Select.rowFilter]
      exact counted _ _

namespace Persister

variable {p : Persister}

theorem rowFilter_of_select {c : Clauses} {s : Sql.Select} (made : p.select c = .ok s) :
    c.filter = .ok s.rowFilter := by
  obtain ⟨filter, t, lowered, -, rfl⟩ := select_eq_ok.1 made
  rw [Sql.Select.rowFilter_wholeRows, lowered]

theorem rowFilter_of_countForm {c : Clauses} {f : CountForm}
    (made : (p.countForm c).fresh = .ok f) : c.filter = .ok f.native.select.rowFilter := by
  obtain ⟨identity, s, -, selected, rfl⟩ := countForm_eq_ok.1 made
  obtain ⟨filter, t, lowered, -, rfl⟩ := select_eq_ok.1 selected
  rw [CountForm.rowFilter_ofSelect, lowered]

/-- A counting statement is sent as its own text. -/
theorem sql_of_countForm {c : Clauses} {f : CountForm} (made : (p.countForm c).fresh = .ok f) :
    f.native.sql = f.native.select.text := by
  obtain ⟨identity, s, -, -, rfl⟩ := countForm_eq_ok.1 made
  cases identity <;> rfl

end Persister

/-- The query of no criteria has the condition that always holds. -/
theorem Composer.fresh_compose_nil (c : Composer) (request : SortRequest)
    (limit offset : Option Nat) :
    (c.compose [] request limit offset).fresh =
      (Criteria.order c.persister request).fresh.map fun keys =>
        .ofParts .always keys limit offset := by
  rw [fresh_compose]
  cases (Criteria.order c.persister request).fresh <;> rfl

namespace Repository

variable {r : Repository} {c : Composer}

theorem statement_of_no_criteria (installed : r.composer? = some c) (request : SortRequest)
    (limit offset : Option Nat) :
    r.statement [] request limit offset = (do
      let keys ← (Criteria.order r.persister request).fresh
      r.persister.select (.ofParts .always keys limit offset)) := by
  rw [statement, installed]
  dsimp only
  rw [Composer.fresh_compose_nil, persister_of_composer? installed]
  cases (Criteria.order r.persister request).fresh <;> rfl

theorem countForm_of_no_criteria (r : Repository) (c : Composer) :
    r.countForm c [] = (r.persister.countForm (.ofParts .always [] none none)).fresh := by
  rw [countForm, Composer.fresh_compose_nil]
  rfl

end Repository

namespace CommandLine

/-! ## The command line -/

namespace Argument

theorem values_eq_nil {name : String} {args : List Argument} (absent : count name args = 0) :
    values name args = [] := by
  rw [count, List.length_eq_zero_iff, List.filter_eq_nil_iff] at absent
  rw [values, List.filterMap_eq_nil_iff]
  intro a mem
  cases a with
  | plain text => rfl
  | option n value =>
      have other : n ≠ name := by simpa using absent _ mem
      cases value with
      | none => rfl
      | some v => simp [other]

end Argument

/-- Next to a query text, no criteria are given. -/
theorem criteria_of_queryText? {args : List Argument} {a : CriteriaArguments} {text : String}
    (given : queryText? args = some (some text)) (read : criteriaArguments? args = some a) :
    a.criteria = "\x7b\x7d" := by
  have absent : Argument.value? "criteria" args = some none := by
    obtain ⟨value, -, given⟩ := Option.bind_eq_some_iff.1 given
    split at given
    · cases given
    · next alone =>
        cases given
        have none : Argument.count "criteria" args = 0 := by simpa using alone
        rw [Argument.value?, Argument.values_eq_nil none]
  obtain ⟨entity, -, read⟩ := Option.bind_eq_some_iff.1 read
  obtain ⟨criteria, known, read⟩ := Option.bind_eq_some_iff.1 read
  cases known.symm.trans absent
  obtain ⟨limit, -, read⟩ := Option.bind_eq_some_iff.1 read
  obtain ⟨offset, -, read⟩ := Option.bind_eq_some_iff.1 read
  cases read
  rfl

namespace Invocation

variable {args : List String} {config : Option String} {a : CriteriaArguments}
  {text : Option String} {wanted : Wanted}

theorem command_of_withoutPlain? {forms : List OptionForm}
    {command? : List Argument → Option Command} {i : Invocation}
    (read : withoutPlain? forms command? args = some i) :
    ∃ options, command? options = some i.command := by
  obtain ⟨options, -, read⟩ := Option.bind_eq_some_iff.1 read
  obtain ⟨command, known, read⟩ := Option.bind_eq_some_iff.1 read
  split at read
  · obtain ⟨config, -, read⟩ := Option.bind_eq_some_iff.1 read
    cases read
    exact ⟨options, known⟩
  · cases read

/-- The options of a run are read to criteria, to query text and to what is wanted. -/
theorem options_of_ofCommand? {name : String}
    (read : ofCommand? name args = some ⟨config, .run a text wanted⟩) :
    ∃ options, criteriaArguments? options = some a ∧ queryText? options = some text ∧
      wanted? options = some wanted := by
  unfold ofCommand? at read
  split at read
  · obtain ⟨options, known⟩ := command_of_withoutPlain? read
    obtain ⟨_, -, ⟨⟩⟩ := Option.map_eq_some_iff.1 known
  · obtain ⟨options, known⟩ := command_of_withoutPlain? read
    obtain ⟨_, -, ⟨⟩⟩ := Option.map_eq_some_iff.1 known
  · obtain ⟨options, -, read⟩ := Option.bind_eq_some_iff.1 read
    obtain ⟨entity, -, read⟩ := Option.bind_eq_some_iff.1 read
    split at read
    · obtain ⟨config, -, ⟨⟩⟩ := Option.bind_eq_some_iff.1 read
    · cases read
  · obtain ⟨options, known⟩ := command_of_withoutPlain? read
    obtain ⟨criteria, first, known⟩ := Option.bind_eq_some_iff.1 known
    obtain ⟨text, second, known⟩ := Option.bind_eq_some_iff.1 known
    obtain ⟨wanted, third, known⟩ := Option.bind_eq_some_iff.1 known
    cases known
    exact ⟨options, first, second, third⟩
  · cases read

theorem options_of_ofArguments? (read : ofArguments? args = some ⟨config, .run a text wanted⟩) :
    ∃ options, criteriaArguments? options = some a ∧ queryText? options = some text ∧
      wanted? options = some wanted := by
  obtain ⟨⟨leading, rest⟩, -, read⟩ := Option.bind_eq_some_iff.1 read
  obtain ⟨named, -, read⟩ := Option.bind_eq_some_iff.1 read
  cases rest with
  | nil => cases read
  | cons name args =>
      obtain ⟨⟨config', command⟩, known, read⟩ := Option.bind_eq_some_iff.1 read
      cases read
      exact options_of_ofCommand? known

end Invocation

/-! ## The run -/

/-- What is selected for query text. Rows are those of the query in the text; a single row and a
count are of every row of the entity, whatever the text is. -/
inductive TextSelection (p : Persister) (request : SortRequest) (text : String) :
    Wanted → Sql.Select → Prop
  | rows {q : Query} {s : Sql.Select} (read : (QueryText.query p text).fresh = .ok q)
      (made : p.select q.clauses = .ok s) : TextSelection p request text .rows s
  | one {keys : SortOrder} {s : Sql.Select} (ordered : (Criteria.order p request).fresh = .ok keys)
      (made : p.select (.ofParts .always keys (some 1) none) = .ok s) :
      TextSelection p request text .one s
  | count {f : CountForm} (made : (p.countForm (.ofParts .always [] none none)).fresh = .ok f) :
      TextSelection p request text .count f.native.select

namespace TextSelection

variable {p : Persister} {request : SortRequest} {text : String} {s : Sql.Select}

theorem rowFilter_of_rows (h : TextSelection p request text .rows s) :
    ∃ q, (QueryText.query p text).fresh = .ok q ∧ q.clauses.filter = .ok s.rowFilter := by
  cases h with
  | rows read made => exact ⟨_, read, Persister.rowFilter_of_select made⟩

theorem rowFilter_eq_none {wanted : Wanted} (h : TextSelection p request text wanted s)
    (other : wanted ≠ .rows) : s.rowFilter = none := by
  cases h with
  | rows read made => exact absurd rfl other
  | one ordered made => exact (Except.ok.inj (Persister.rowFilter_of_select made)).symm
  | count made => exact (Except.ok.inj (Persister.rowFilter_of_countForm made)).symm

end TextSelection

theorem readCriteria_default : readCriteria "\x7b\x7d" = .ok [] := by rfl

/-- A reply with a call for a statement, or with no call, is reported with this statement, or with
none. -/
theorem statements_ofReply {α : Type} {reply : Reply α} {selects : Sql.Select → Prop}
    (shown : α → Report)
    (sent : reply.calls = [] ∨ ∃ s call, selects s ∧ Call.sql call = s.text ∧
      reply.calls = [call]) :
    (ofReply reply shown).statements = [] ∨
      ∃ s, selects s ∧ (ofReply reply shown).statements = [s.text] := by
  have reported : (ofReply reply shown).statements =
      (reply.calls.map Call.sql).filter Postgres.isSendable := rfl
  rw [reported]
  obtain silent | ⟨s, call, selected, same, sent⟩ := sent
  · left
    rw [silent]
    rfl
  · rw [sent, List.map_singleton, same]
    cases sendable : Postgres.isSendable s.text with
    | true => exact .inr ⟨s, selected, by simp [sendable]⟩
    | false => exact .inl (by simp [sendable])

/-- Next to query text and without criteria, a repository sends what is selected for the text. -/
theorem statements_request {r : Repository} {c : Composer} {a : CriteriaArguments}
    (installed : r.composer? = some c) (unset : a.criteria = "\x7b\x7d") (b : Backend)
    (text : String) (wanted : Wanted) :
    let report := request r b a (some text) wanted
    report.statements = [] ∨
      ∃ s, TextSelection r.persister (a.order.map sortKey) text wanted s ∧
        report.statements = [s.text] := by
  intro report
  have read : report = match wanted with
      | .count => ofReply (r.countBy b {} []) fun n => .printed [toString n.toInt]
      | .one => ofReply (r.findOneBy b {} [] (a.order.map sortKey)) fun row =>
          .printed [row.toJson.indented 0]
      | .rows => ofReply (r.findByText b {} text) rowLines := by
    simp only [report, request, unset, readCriteria_default, Report.ofStep]
    cases wanted <;> rfl
  rw [read]
  cases wanted with
  | rows =>
      refine statements_ofReply _ ?_
      obtain silent | ⟨s, made, sent⟩ := Repository.calls_of_answer
        (Repository.findByText_eq_answer b .nothing installed text)
      · exact .inl silent
      · obtain ⟨q, read, made⟩ := bind_eq_ok.1 made
        exact .inr ⟨s, _, .rows read made, rfl, sent⟩
  | one =>
      refine statements_ofReply _ ?_
      obtain silent | ⟨s, made, sent⟩ := Repository.calls_of_answer
        (Repository.findOneBy_eq_answer b .nothing)
      · exact .inl silent
      · rw [Repository.statement_of_no_criteria installed] at made
        obtain ⟨keys, ordered, made⟩ := bind_eq_ok.1 made
        exact .inr ⟨s, _, .one ordered made, rfl, sent⟩
  | count =>
      refine statements_ofReply _ ?_
      have counted := congrArg Prod.fst (Repository.countBy_eq b .nothing installed [])
      rw [Repository.countForm_of_no_criteria] at counted
      cases made : (r.persister.countForm (.ofParts .always [] none none)).fresh with
      | error e =>
          rw [made] at counted
          exact .inl counted
      | ok f =>
          rw [made] at counted
          exact .inr ⟨_, Persister.scalarCall f, .count made, Persister.sql_of_countForm made, counted⟩

/-- A run sends nothing, or what the repository of the entity sends over the connection. -/
theorem statements_runQuery (s : Settings) (around : Surroundings) (a : CriteriaArguments)
    (text : Option String) (wanted : Wanted) :
    let report := runQuery s around a text wanted
    report.statements = [] ∨ ∃ p login server, persister s a.entity = .ok p ∧
      connect s.connection around = .ok (login, server) ∧
      report.statements =
        (request (({ persister := p } : Repository).install (s.composer p)) server.backend a text
          wanted).statements := by
  intro report
  simp only [report, runQuery]
  cases made : persister s a.entity with
  | error message => exact .inl rfl
  | ok p =>
      cases connected : connect s.connection around with
      | error message => exact .inl rfl
      | ok x => exact .inr ⟨p, x.1, x.2, rfl, rfl, rfl⟩

/-- A run with query text sends at most one statement. Rows have the filter of the query in the
text; a single row and a count have no filter, so the text is not looked at. -/
theorem run_text_selects {args : List String} {config : Option String} {a : CriteriaArguments}
    {text : String} {wanted : Wanted}
    (admitted : Invocation.ofArguments? args = some ⟨config, .run a (some text) wanted⟩)
    (s : Settings) (around : Surroundings) :
    let report := run s around (.run a (some text) wanted)
    report.statements = [] ∨ ∃ p select, persister s a.entity = .ok p ∧
      report.statements = [select.text] ∧
      TextSelection p (a.order.map sortKey) text wanted select ∧
      (wanted = .rows → ∃ q, (QueryText.query p text).fresh = .ok q ∧
        q.clauses.filter = .ok select.rowFilter) ∧
      (wanted ≠ .rows → select.rowFilter = none) := by
  intro report
  obtain ⟨options, criteria, given, -⟩ := Invocation.options_of_ofArguments? admitted
  have unset : a.criteria = "\x7b\x7d" := criteria_of_queryText? given criteria
  obtain silent | ⟨p, login, server, made, -, same⟩ :=
    statements_runQuery s around a (some text) wanted
  · exact .inl silent
  · let r := ({ persister := p } : Repository).install (s.composer p)
    have installed : r.composer? = some (s.composer p) := rfl
    obtain silent | ⟨select, selection, sent⟩ :=
      statements_request installed unset server.backend text wanted
    · exact .inl (same.trans silent)
    · refine .inr ⟨p, select, made, same.trans sent, selection, ?_, selection.rowFilter_eq_none⟩
      rintro rfl
      exact selection.rowFilter_of_rows

/-- Settings with users of an age. -/
def userSettings : Settings where
  entities := [⟨"users", "users", none, ["id"], [⟨"age", none, .identity⟩]⟩]
  connection := { password := "secret" }

/-- A server that answers every statement with the number three. -/
def threeServer : Surroundings where
  listener := some ⟨⟨fun _ => .rows [⟨"count", .int8⟩] [[some [0, 0, 0, 0, 0, 0, 0, 3]]]⟩, false⟩

/-- A command to run the text that asks for adults. -/
def runAdults (wanted : Wanted) : Command :=
  .run ⟨"users", "\x7b\x7d", [], none, none⟩ (some "age > 17") wanted

/-- The rows for a text are selected by its filter. -/
theorem runAdults_selects :
    let sql := "SELECT e.* FROM users e WHERE e.age > 17"
    Invocation.ofArguments? ["run", "-e", "users", "--text", "age > 17"] =
        some ⟨none, runAdults .rows⟩ ∧
      (run userSettings threeServer (runAdults .rows)).statements = [sql] ∧
      ∃ p, ∃ select : Sql.Select, persister userSettings "users" = .ok p ∧ sql = select.text ∧
        ∃ q, (QueryText.query p "age > 17").fresh = .ok q ∧
          q.clauses.filter = .ok select.rowFilter := by
  intro sql
  have admitted : Invocation.ofArguments? ["run", "-e", "users", "--text", "age > 17"] =
      some ⟨none, runAdults .rows⟩ := by
    decide +kernel
  have sent : (run userSettings threeServer (runAdults .rows)).statements = [sql] := by
    decide +kernel
  refine ⟨admitted, sent, ?_⟩
  obtain silent | ⟨p, select, made, same, -, filtered, -⟩ :=
    run_text_selects admitted userSettings threeServer
  · cases silent.symm.trans sent
  · exact ⟨p, select, made, List.singleton_inj.1 (sent.symm.trans same), filtered rfl⟩

/-- A count and a single row are asked for without the filter of the text, which the counting
statement of the text would have. -/
theorem runAdults_unfiltered :
    Invocation.ofArguments? ["run", "-e", "users", "--text", "age > 17", "--count"] =
        some ⟨none, runAdults .count⟩ ∧
      (run userSettings threeServer (runAdults .count)).statements =
        ["SELECT COUNT(DISTINCT e.id) FROM users e"] ∧
      Invocation.ofArguments? ["run", "-e", "users", "--text", "age > 17", "--one"] =
        some ⟨none, runAdults .one⟩ ∧
      (run userSettings threeServer (runAdults .one)).statements =
        ["SELECT e.* FROM users e LIMIT 1"] ∧
      (do
        let p ← persister userSettings "users"
        let q ← outcome (QueryText.query p "age > 17")
        let f ← outcome (p.countForm q.clauses)
        .ok f.native.sql) =
          (.ok "SELECT COUNT(DISTINCT e.id) FROM users e WHERE e.age > 17" :
            Except String String) := by
  decide +kernel

end CommandLine

end EntityQuery
