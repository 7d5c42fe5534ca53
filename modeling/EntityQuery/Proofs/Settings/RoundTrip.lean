import EntityQuery.Proofs.Settings.Description
import EntityQuery.Proofs.Toml.Assembly
import EntityQuery.Proofs.Toml.Line
import EntityQuery.Settings.Printer

/-!
# Settings are read back

The lines that settings are written as make up the object that describes them, whether a list in
them is written as items with a header each or, if it is empty, as an entry. So a file holds
everything but the password, which is the only part that is not written.
-/

namespace EntityQuery

open Toml

/-! ## Parts of a table -/

theorem map_statement_optionalLine (key : String) (value : Option String) :
    (optionalLine key value).map Line.statement = entriesOf (optionalField key value) := by
  cases value <;> rfl

theorem isReadable_optionalLine {key : String} (bare : IsBare key) (value : Option String) :
    ∀ line ∈ optionalLine key value, line.IsReadable := by
  cases value with
  | none => exact fun line mem => absurd mem List.not_mem_nil
  | some s => exact List.forall_mem_singleton.2 ⟨bare, trivial⟩

theorem entriesOf_append (front back : List (String × Json)) :
    entriesOf (front ++ back) = entriesOf front ++ entriesOf back := List.map_append

section

variable {α : Type} {path : List String} {key : String} {lines : α → List Line}
  {body : α → List Statement} {content : α → List (String × Json)} {xs : List α}

/-- The lines of a list of tables, which is an entry if the list is empty. -/
def listLines (key : String) (lines : α → List Line) (xs : List α) : List Line :=
  if xs.isEmpty then [.entry key (.texts [])] else xs.flatMap lines

/-- The pieces of a list of tables. -/
def listPieces (path : List String) (key : String) (body : α → List Statement) (xs : List α) :
    List Statement :=
  if xs.isEmpty then entriesOf [(key, .array [])]
  else xs.flatMap fun x => .item path key :: body x

theorem map_statement_listLines
    (each : ∀ x, (lines x).map Line.statement = .item path key :: body x) (xs : List α) :
    (listLines key lines xs).map Line.statement = listPieces path key body xs := by
  rw [listLines, listPieces]
  by_cases empty : xs.isEmpty = true
  · rw [if_pos empty, if_pos empty]
    rfl
  · rw [if_neg empty, if_neg empty, List.map_flatMap]
    exact List.flatMap_congr fun x _ => each x

theorem isReadable_listLines (bare : IsBare key)
    (each : ∀ x, ∀ line ∈ lines x, line.IsReadable) :
    ∀ line ∈ listLines key lines xs, line.IsReadable := by
  intro line mem
  rw [listLines] at mem
  split at mem
  · rw [List.mem_singleton.1 mem]
    exact ⟨bare, trivial⟩
  · obtain ⟨x, -, mem⟩ := List.mem_flatMap.1 mem
    exact each x line mem

/-- Entries and a list of tables behind them fill a table, also if the list is empty. -/
theorem fills_listPieces {own : List (String × Json)}
    (different : (own.map Prod.fst ++ [key]).Nodup)
    (each : ∀ x, Fills (path ++ [key]) (body x) (content x)) :
    Fills path (entriesOf own ++ listPieces path key body xs)
      (own ++ [(key, .array ((xs.map content).map .object))]) := by
  rw [listPieces]
  by_cases empty : xs.isEmpty = true
  · rw [if_pos empty, List.isEmpty_iff.1 empty, ← entriesOf_append]
    refine fills_entriesOf ?_
    rw [List.map_append]
    exact different
  · rw [if_neg empty]
    rw [List.nodup_append] at different
    refine Fills.append (fills_entriesOf different.1) (writes_items ?_ fun x _ => each x) ?_
    · rintro rfl
      exact empty rfl
    · rintro k (_ | ⟨_, ⟨⟩⟩) mem
      exact different.2.2 _ mem _ List.mem_cons_self rfl

end

/-! ## Parts of settings -/

namespace FieldDefinition

theorem map_statement_lines (f : FieldDefinition) :
    f.lines.map Line.statement = .item ["entity"] "fields" :: entriesOf f.content := by
  rw [lines, List.map_append, List.map_append, map_statement_optionalLine, content,
    entriesOf_append, entriesOf_append]
  rfl

theorem isReadable_lines (f : FieldDefinition) : ∀ line ∈ f.lines, line.IsReadable := by
  have bare : IsBare "entity" ∧ IsBare "fields" ∧ IsBare "name" ∧ IsBare "column" ∧
      IsBare "transform" := by decide
  have column := isReadable_optionalLine bare.2.2.2.1 f.column
  simpa [lines, Line.IsReadable, Setting.Fits, maxKeys, bare, or_imp, forall_and] using column

end FieldDefinition

namespace EntityDefinition

/-- The pieces below the header of an entity. -/
def body (e : EntityDefinition) : List Statement :=
  entriesOf e.ownContent ++
    listPieces ["entity"] "fields" (fun f : FieldDefinition => entriesOf f.content) e.fields

theorem map_statement_lines (e : EntityDefinition) :
    e.lines.map Line.statement = .item [] "entity" :: e.body := by
  have fields := map_statement_listLines FieldDefinition.map_statement_lines e.fields
  rw [listLines] at fields
  rw [lines, List.map_append, List.map_append, List.map_append, fields,
    map_statement_optionalLine, body, ownContent, entriesOf_append, entriesOf_append]
  rfl

theorem fills_body (e : EntityDefinition) : Fills ["entity"] e.body e.content :=
  fills_listPieces e.nodup_ownContent fun f => fills_entriesOf f.nodup_content

theorem isReadable_lines (e : EntityDefinition) : ∀ line ∈ e.lines, line.IsReadable := by
  have bare : IsBare "entity" ∧ IsBare "name" ∧ IsBare "table" ∧ IsBare "schema" ∧
      IsBare "identifier" ∧ IsBare "fields" := by decide
  have schema := isReadable_optionalLine bare.2.2.2.1 e.schema
  rw [lines, List.forall_mem_append]
  refine ⟨?_, isReadable_listLines bare.2.2.2.2.2 FieldDefinition.isReadable_lines⟩
  simpa [Line.IsReadable, Setting.Fits, maxKeys, bare, or_imp, forall_and] using schema

end EntityDefinition

namespace Connection

theorem map_statement_lines (c : Connection) :
    c.lines.map Line.statement = .table [] "connection" :: entriesOf c.content := by
  rw [lines, List.map_append, List.map_append, map_statement_optionalLine, content,
    entriesOf_append, entriesOf_append]
  rfl

theorem isReadable_lines {c : Connection} (fits : c.connectTimeout.toNat < 2 ^ 63) :
    ∀ line ∈ c.lines, line.IsReadable := by
  have bare : IsBare "connection" ∧ IsBare "host" ∧ IsBare "port" ∧ IsBare "database" ∧
      IsBare "username" ∧ IsBare "ssl_mode" ∧ IsBare "accept_invalid_certs" ∧
      IsBare "ca_cert_path" ∧ IsBare "connect_timeout" := by decide
  have port : c.port.toNat < 2 ^ 63 := Nat.lt_trans c.port.toNat_lt (by decide)
  have certificate := isReadable_optionalLine bare.2.2.2.2.2.2.2.1 c.caCertPath
  rw [lines, List.forall_mem_append, List.forall_mem_append]
  refine ⟨⟨?_, certificate⟩, ?_⟩
  · simp only [List.forall_mem_cons, Line.IsReadable, Setting.Fits, bare, port]
    simp [maxKeys]
  · exact List.forall_mem_singleton.2 ⟨bare.2.2.2.2.2.2.2.2, fits⟩

end Connection

namespace Settings

/-- The lines of settings make up the object that describes them. -/
theorem fills_content (s : Settings) : Fills [] (s.lines.map Line.statement) s.content := by
  have own : Fills [] (entriesOf s.ownContent ++
      listPieces [] "entity" EntityDefinition.body s.entities) _ :=
    fills_listPieces (show ["reserved_key", "result_casing", "entity"].Nodup by decide)
      EntityDefinition.fills_body
  have connection : Writes [] (s.connection.lines.map Line.statement)
      [("connection", .object s.connection.content)] := by
    rw [Connection.map_statement_lines]
    exact writes_table (fills_entriesOf s.connection.nodup_content)
  have entities := map_statement_listLines EntityDefinition.map_statement_lines s.entities
  rw [listLines] at entities
  rw [lines, List.map_append, List.map_append, entities]
  exact own.append connection (show ∀ key ∈ ["connection"],
    key ∉ ["reserved_key", "result_casing", "entity"] by decide)

theorem isReadable_lines {s : Settings} (fits : s.connection.connectTimeout.toNat < 2 ^ 63) :
    ∀ line ∈ s.lines, line.IsReadable := by
  have bare : IsBare "reserved_key" ∧ IsBare "result_casing" ∧ IsBare "entity" := by
    decide
  rw [lines, List.forall_mem_append, List.forall_mem_append]
  refine ⟨⟨?_, isReadable_listLines bare.2.2 EntityDefinition.isReadable_lines⟩,
    Connection.isReadable_lines fits⟩
  simp [Line.IsReadable, Setting.Fits, bare]

/-- Settings are read back from their text as they are, apart from the password, which is empty, if
the seconds to wait for the connection are a signed number of sixty-four bits; and the text tells
nothing of the password. -/
theorem text_readBack (s : Settings) (fits : s.connection.connectTimeout.toNat < 2 ^ 63) :
    ofText? s.text = some { s with connection := { s.connection with password := "" } } ∧
      ∀ password, text { s with connection := { s.connection with password } } = s.text := by
  refine ⟨?_, fun password => s.text_password password⟩
  rw [ofText?, text, ofText?_lines (isReadable_lines fits), ofStatements?_of_fills s.fills_content,
    Option.bind_some]
  exact s.ofJson?_content

/-- Settings with texts that need each kind of quotes, parts that are left out, an entity without
fields, names that occur twice, the longest time to wait and a password. -/
def crowded : Settings where
  reservedKey := "\u2603 it's \"first\"\nand\\second"
  resultCasing := .preserve
  entities :=
    [⟨"", "a b", none, [], []⟩,
     ⟨"users", "line\r\n", some "\x07'''\"\"\"", ["id", "[x]", "id"],
      [⟨"name", none, .lowercase⟩, ⟨"name", some "a\\b", .identity⟩, ⟨"'\"", some "", .text⟩]⟩,
     ⟨"users", "\n", some "", ["#"], []⟩]
  connection :=
    { password := "secret", sslMode := .verifyCa, caCertPath := some "C:\\ca.pem",
      connectTimeout := 9223372036854775807 }

theorem text_readBack_crowded :
    crowded.connection.connectTimeout.toNat < 2 ^ 63 ∧
    ofText? crowded.text =
      some { crowded with connection := { crowded.connection with password := "" } } ∧
    text { crowded with connection := { crowded.connection with password := "other" } } =
      crowded.text :=
  have fits : crowded.connection.connectTimeout.toNat < 2 ^ 63 := by decide
  ⟨fits, (text_readBack crowded fits).1, (text_readBack crowded fits).2 "other"⟩

end Settings

end EntityQuery
