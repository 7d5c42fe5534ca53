import EntityQuery.Postgres.Server
import EntityQuery.Proofs.Calendar
import EntityQuery.Proofs.Result

/-!
# What the rows of a server are decoded to

A cell that a server sends can be read if its bytes have the length and the form of the type of its
column, and if what they stand for can be shown. Rows keep every column in the order of the server.
An entry is null where the server sent no bytes, and also where it sent bytes that cannot be read:
neither all rows nor a single row fail because of a cell, so such a cell cannot be told from an
absent one.
-/

namespace EntityQuery.Postgres

/-! ## Cells -/

/-- Whether bytes are a text in its encoding. -/
def Spells (bytes : Bytes) (s : String) : Prop := s.toByteArray.data.toList = bytes

theorem text?_eq_some {bytes : Bytes} {s : String} : text? bytes = some s ↔ Spells bytes s := by
  have same : Spells bytes s ↔ s.toByteArray = ⟨bytes.toArray⟩ := by
    rw [Spells, ByteArray.ext_iff, ← Array.toList_inj]
  rw [same, text?, String.fromUTF8?]
  constructor
  · intro read
    split at read
    · cases read
      rfl
    · cases read
  · intro spelled
    have valid : (⟨bytes.toArray⟩ : ByteArray).IsValidUTF8 := spelled ▸ s.isValidUTF8
    rw [dif_pos valid, Option.some_inj, ← String.toByteArray_inj]
    exact spelled.symm

theorem isSome_text? {bytes : Bytes} : (text? bytes).isSome ↔ ∃ s, Spells bytes s := by
  simp only [Option.isSome_iff_exists, text?_eq_some]

/-- Whether bytes are a JSON text. -/
def IsJson (bytes : Bytes) : Prop := ∃ s, Spells bytes s ∧ (Json.ofText? s).isSome

theorem isSome_json? {bytes : Bytes} : (json? bytes).isSome ↔ IsJson bytes := by
  simp only [json?, Option.isSome_map, Option.isSome_bind, IsJson, ← text?_eq_some]
  cases text? bytes <;> simp

theorem versionedBody?_eq_some {bytes body : Bytes} :
    versionedBody? bytes = some body ↔ bytes = 1 :: body := by
  unfold versionedBody?
  split
  · simp
  · next other =>
      constructor
      · rintro ⟨⟩
      · rintro rfl
        exact absurd rfl (other body)

/-- Something is read behind a version number if the number is one and the rest can be read. -/
theorem isSome_versionedBody? {α : Type} {bytes : Bytes} {read? : Bytes → Option α} :
    ((versionedBody? bytes).bind read?).isSome ↔
      ∃ body, bytes = 1 :: body ∧ (read? body).isSome := by
  simp only [Option.isSome_bind, ← versionedBody?_eq_some]
  cases versionedBody? bytes <;> simp

theorem isSome_natural? {width : Nat} {bytes : Bytes} :
    (natural? width bytes).isSome ↔ bytes.length = width := by
  simp [natural?, Option.isSome_ite]

theorem isSome_signed? {width : Nat} {bytes : Bytes} :
    (signed? width bytes).isSome ↔ bytes.length = width := by
  rw [← isSome_natural?, signed?]
  cases natural? width bytes <;> rfl

/-- Whether the bytes of a cell of a type stand for a value that can be shown. Days and moments are
shown between the first and the last day of the calendar; the bytes for infinity stand for days
outside of it. -/
def ColumnType.IsReadable : ColumnType → Bytes → Prop
  | .bool, bytes => bytes.length = 1
  | .int2, bytes => bytes.length = 2
  | .int4, bytes | .float4, bytes => bytes.length = 4
  | .int8, bytes | .float8, bytes | .time, bytes => bytes.length = 8
  | .text, bytes => ∃ s, Spells bytes s
  | .versionedText, bytes => ∃ body, bytes = 1 :: body ∧ ∃ s, Spells body s
  | .json, bytes => IsJson bytes
  | .jsonb, bytes => ∃ body, bytes = 1 :: body ∧ IsJson body
  | .date, bytes =>
    ∃ days, signed? 4 bytes = some days ∧ Date.firstDay ≤ days ∧ days ≤ Date.lastDay
  | .timestamp, bytes | .timestamptz, bytes =>
    ∃ micros, signed? 8 bytes = some micros ∧
      Date.firstDay * TimeOfDay.dayLength ≤ micros ∧
      micros < (Date.lastDay + 1) * TimeOfDay.dayLength
  | .other, _ => False

theorem isSome_dateAndTime? {micros : Int} : (dateAndTime? micros).isSome ↔
    Date.firstDay * TimeOfDay.dayLength ≤ micros ∧
      micros < (Date.lastDay + 1) * TimeOfDay.dayLength := by
  rw [dateAndTime?, Option.isSome_map, Date.isSome_ofDays?]
  simp only [TimeOfDay.dayLength]
  omega

/-- Exactly the readable bytes are decoded. -/
theorem isSome_decode? {type : ColumnType} {bytes : Bytes} :
    (decode? type bytes).isSome ↔ type.IsReadable bytes := by
  cases type with
  | bool | float4 | float8 =>
      simp only [decode?, Option.isSome_map, ColumnType.IsReadable, isSome_natural?]
  | int2 | int4 | int8 | time =>
      simp only [decode?, Option.isSome_map, ColumnType.IsReadable, isSome_signed?]
  | text => simp only [decode?, Option.isSome_map, ColumnType.IsReadable, isSome_text?]
  | versionedText =>
      simp only [decode?, Option.isSome_map, ColumnType.IsReadable, isSome_versionedBody?,
        isSome_text?]
  | json => simp only [decode?, Option.isSome_map, ColumnType.IsReadable, isSome_json?]
  | jsonb =>
      simp only [decode?, Option.isSome_map, ColumnType.IsReadable, isSome_versionedBody?,
        isSome_json?]
  | date =>
      simp only [decode?, Option.isSome_map, Option.isSome_bind, ColumnType.IsReadable]
      cases signed? 4 bytes <;> simp [Date.isSome_ofDays?]
  | timestamp | timestamptz =>
      simp only [decode?, Option.isSome_map, Option.isSome_bind, ColumnType.IsReadable]
      cases signed? 8 bytes <;> simp [isSome_dateAndTime?]
  | other => simp [decode?, ColumnType.IsReadable]

/-- No bytes are decoded to null. -/
theorem ne_null_of_decode? {type : ColumnType} {bytes : Bytes} {v : Value}
    (h : decode? type bytes = some v) : v ≠ .null := by
  rintro rfl
  cases type <;> simp [decode?, Option.bind_eq_some_iff] at h

/-- How a cell is shown: as null exactly where it is absent or its bytes cannot be read, and as the
value of its bytes otherwise. -/
structure Shows (type : ColumnType) (cell : Option Bytes) (v : Value) : Prop where
  null_iff : v = .null ↔ ∀ bytes, cell = some bytes → ¬ type.IsReadable bytes
  read : ∀ bytes, cell = some bytes → type.IsReadable bytes → decode? type bytes = some v

theorem shows_cellValue (type : ColumnType) (cell : Option Bytes) :
    Shows type cell (cellValue type cell) := by
  cases cell with
  | none => constructor <;> simp
  | some bytes =>
      have readable : (decode? type bytes).isSome ↔ type.IsReadable bytes := isSome_decode?
      cases decoded : decode? type bytes with
      | none =>
          have lost : cellValue type (some bytes) = .null := by simp [cellValue, decoded]
          have unreadable : ¬ type.IsReadable bytes := by simpa [decoded] using readable
          rw [lost]
          constructor <;> simp [unreadable]
      | some v =>
          have form : type.IsReadable bytes := by simpa [decoded] using readable
          rw [cellValue_of_decode? decoded]
          constructor <;> simp [form, decoded, ne_null_of_decode? decoded]

/-! ## Rows -/

/-- What the cells of a row are decoded to: an entry for each column, in order, under the name of
the column. -/
structure Decoded (columns : List Column) (cells : List (Option Bytes)) (r : Row) : Prop where
  names : r.columns = columns.map (·.name)
  values : List.Forall₂ (fun x entry => Shows x.1.type x.2 entry.2) (columns.zip cells) r.cells

theorem decoded_row {columns : List Column} {cells : List (Option Bytes)}
    (complete : cells.length = columns.length) : Decoded columns cells (row columns cells) := by
  have entries : (row columns cells).cells =
      (columns.zip cells).map fun x => (x.1.name, cellValue x.1.type x.2) := by
    rw [List.map_zip_eq_zipWith]
    rfl
  constructor
  · have front : (columns.zip cells).map Prod.fst = columns :=
      List.map_fst_zip (Nat.le_of_eq complete.symm)
    rw [Row.columns, entries, List.map_map]
    conv_rhs => rw [← front, List.map_map]
    rfl
  · rw [entries, List.forall₂_map_right_iff, List.forall₂_same]
    exact fun x _ => shows_cellValue x.1.type x.2

/-! ## Servers -/

namespace Server

variable {s : Server} {sql : String} {columns : List Column}
  {rows : List (List (Option Bytes))}

/-- Whether every row that a server sends has a cell for each column. -/
def IsComplete (s : Server) : Prop :=
  ∀ sql columns rows, s.reply sql = .rows columns rows →
    ∀ cells ∈ rows, cells.length = columns.length

theorem query_eq_ok : s.query sql = .ok (columns, rows) ↔
    isSendable sql = true ∧ s.reply sql = .rows columns rows := by
  rw [query]
  cases isSendable sql with
  | false => simp
  | true => cases s.reply sql <;> simp

theorem all_of_query (queried : s.query sql = .ok (columns, rows)) :
    s.backend.all sql = .ok (rows.map (row columns)) := by
  simp only [backend, queried]
  rfl

theorem one_of_query (queried : s.query sql = .ok (columns, rows)) :
    s.backend.one sql = exactlyOne (rows.map (row columns)) := by
  simp only [backend, queried]
  rfl

end Server

theorem exactlyOne_eq_ok {α : Type} {as : List α} {a : α} : exactlyOne as = .ok a ↔ as = [a] := by
  match as with
  | [] => simp [exactlyOne]
  | [b] => simp [exactlyOne]
  | b :: c :: as => simp [exactlyOne]

/-- The rows and the single row that a server's backend gives are decoded column by column from the
ones that the server sends, so an entry is null exactly where the cell is absent or cannot be read.
Whatever the cells are, rows that are sent are given: no cell is reported as a failure. -/
theorem Server.backend_decodes {s : Server} (complete : s.IsComplete) (sql : String) :
    (∀ given, s.backend.all sql = .ok given → ∃ columns rows,
      s.reply sql = .rows columns rows ∧ List.Forall₂ (Decoded columns) rows given) ∧
    (∀ given, s.backend.one sql = .ok given → ∃ columns cells,
      s.reply sql = .rows columns [cells] ∧ Decoded columns cells given) ∧
    (isSendable sql = true → ∀ columns rows, s.reply sql = .rows columns rows →
      (∃ given, s.backend.all sql = .ok given) ∧
        ∀ cells, rows = [cells] → ∃ given, s.backend.one sql = .ok given) := by
  refine ⟨?_, ?_, ?_⟩
  · intro given all
    obtain ⟨⟨columns, rows⟩, queried, -⟩ := bind_eq_ok.1 all
    cases (all_of_query queried).symm.trans all
    have sent := (query_eq_ok.1 queried).2
    refine ⟨columns, rows, sent, ?_⟩
    rw [List.forall₂_map_right_iff, List.forall₂_same]
    exact fun cells mem => decoded_row (complete sql columns rows sent cells mem)
  · intro given one
    obtain ⟨⟨columns, rows⟩, queried, -⟩ := bind_eq_ok.1 one
    have single := exactlyOne_eq_ok.1 ((one_of_query queried).symm.trans one)
    obtain ⟨cells, rfl, rfl⟩ := List.map_eq_singleton_iff.1 single
    have sent := (query_eq_ok.1 queried).2
    exact ⟨columns, cells, sent,
      decoded_row (complete sql columns [cells] sent cells List.mem_cons_self)⟩
  · intro sendable columns rows sent
    have queried := query_eq_ok.2 ⟨sendable, sent⟩
    refine ⟨⟨_, all_of_query queried⟩, ?_⟩
    rintro cells rfl
    exact ⟨_, one_of_query queried⟩

/-- A server that answers every statement with a bill: whether it is paid, a day and an amount. -/
def billServer (paid day amount : Option Bytes) : Server :=
  ⟨fun _ => .rows [⟨"paid", .bool⟩, ⟨"due", .date⟩, ⟨"total", .ofName "numeric"⟩]
    [[paid, day, amount]]⟩

/-- A bill that is due on the second day of 2000, without an amount, is given as it is. -/
theorem bill_decoded :
    let bills := billServer (some [0]) (some [0, 0, 0, 1]) none
    let given : Row := ⟨[("paid", .bool false), ("due", .text "2000-01-02"), ("total", .null)]⟩
    bills.IsComplete ∧ bills.backend.all "SELECT * FROM bills" = .ok [given] ∧
      ∃ columns rows, bills.reply "SELECT * FROM bills" = .rows columns rows ∧
        List.Forall₂ (Decoded columns) rows [given] := by
  intro bills given
  have complete : bills.IsComplete := by
    rintro sql columns rows ⟨⟩
    simp
  have all : bills.backend.all "SELECT * FROM bills" = .ok [given] := by rfl
  exact ⟨complete, all, (Server.backend_decodes complete _).1 [given] all⟩

/-- A bill that is never due and has an amount is given as if it had neither: the server sends a
cell for each column, and two of them come out as null. -/
theorem bill_lost :
    let bills := billServer (some [0]) (some [0x7f, 0xff, 0xff, 0xff])
      (some [0, 1, 0, 0, 0, 0, 0, 0, 0, 42])
    let given : Row := ⟨[("paid", .bool false), ("due", .null), ("total", .null)]⟩
    (∃ columns cells, bills.reply "SELECT * FROM bills" = .rows columns [cells] ∧
        none ∉ cells) ∧
      bills.backend.all "SELECT * FROM bills" = .ok [given] ∧
      bills.backend.one "SELECT * FROM bills" = .ok given := by
  exact ⟨⟨_, _, rfl, by decide⟩, by rfl, by rfl⟩

end EntityQuery.Postgres
