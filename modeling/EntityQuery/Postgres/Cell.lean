import EntityQuery.Calendar
import EntityQuery.Json.Printer
import EntityQuery.Json.Reader
import EntityQuery.Row

/-!
# Cells of a result

A PostgreSQL server sends every cell as bytes whose meaning depends on the type of the column, or no
bytes for an absent value. Only a cell of the right length and form has a value, and only the types
listed here have values at all: every other cell is null.
-/

namespace EntityQuery.Postgres

/-- The bytes of a cell. -/
abbrev Bytes : Type := List UInt8

/-- What the type of a column means for its cells. -/
inductive ColumnType where
  | bool | int2 | int4 | int8 | float4 | float8
  /-- Any type whose cells are texts. -/
  | text
  /-- Any type whose cells are texts behind a version number. -/
  | versionedText
  | json | jsonb | date | time | timestamp | timestamptz
  /-- Any type whose cells have no value here. -/
  | other
  deriving DecidableEq, Repr

/-- A column of a result. -/
structure Column where
  name : String
  type : ColumnType
  deriving DecidableEq, Repr

namespace ColumnType

/-- The type of a name. -/
def ofName : String → ColumnType
  | "bool" => bool
  | "int2" => int2
  | "int4" => int4
  | "int8" => int8
  | "float4" => float4
  | "float8" => float8
  | "text" | "varchar" | "bpchar" | "name" | "unknown" | "citext" => text
  | "ltree" | "lquery" | "ltxtquery" => versionedText
  | "json" => json
  | "jsonb" => jsonb
  | "date" => date
  | "time" => time
  | "timestamp" => timestamp
  | "timestamptz" => timestamptz
  | _ => other

end ColumnType

/-- The natural number that bytes spell, the highest byte first. -/
def natural (bytes : Bytes) : Nat := bytes.foldl (fun n b => 256 * n + b.toNat) 0

/-- The natural number of exactly so many bytes. -/
def natural? (width : Nat) (bytes : Bytes) : Option Nat :=
  if bytes.length = width then some (natural bytes) else none

/-- The signed number of exactly so many bytes, in two's complement. -/
def signed? (width : Nat) (bytes : Bytes) : Option Int :=
  (natural? width bytes).map fun n => (n : Int).bmod (Nat.pow 256 width)

/-- The text that bytes encode. -/
def text? (bytes : Bytes) : Option String := String.fromUTF8? ⟨bytes.toArray⟩

/-- The text of the JSON value that bytes encode, written anew without blanks. -/
def json? (bytes : Bytes) : Option String := ((text? bytes).bind Json.ofText?).map Json.compact

/-- What follows a version number, which must be one. -/
def versionedBody? : Bytes → Option Bytes
  | 1 :: rest => some rest
  | _ => none

/-- The text of a date and a time of day. -/
def momentText (separator : String) (m : Date × TimeOfDay) : String :=
  m.1.text ++ separator ++ m.2.text

/-- The value of the bytes of a cell. -/
def decode? (type : ColumnType) (bytes : Bytes) : Option Value :=
  match type with
  | .bool => (natural? 1 bytes).map fun n => .bool (n != 0)
  | .int2 => (signed? 2 bytes).map fun i => .integer (.ofInt i)
  | .int4 => (signed? 4 bytes).map fun i => .integer (.ofInt i)
  | .int8 => (signed? 8 bytes).map fun i => .integer (.ofInt i)
  | .float4 => (natural? 4 bytes).map fun n => .float (Double.ofSingleBits (.ofNat n))
  | .float8 => (natural? 8 bytes).map fun n => .float ⟨.ofNat n⟩
  | .text => (text? bytes).map .text
  | .versionedText => ((versionedBody? bytes).bind text?).map .text
  | .json => (json? bytes).map .text
  | .jsonb => ((versionedBody? bytes).bind json?).map .text
  | .date => ((signed? 4 bytes).bind Date.ofDays?).map fun d => .text d.text
  | .time => (signed? 8 bytes).map fun i => .text (TimeOfDay.ofMicros i).text
  | .timestamp => ((signed? 8 bytes).bind dateAndTime?).map fun m => .text (momentText " " m)
  | .timestamptz =>
    ((signed? 8 bytes).bind dateAndTime?).map fun m => .text (momentText "T" m ++ "+00:00")
  | .other => none

/-- The value of a cell. -/
def cellValue (type : ColumnType) (cell : Option Bytes) : Value :=
  (cell.bind (decode? type)).getD .null

/-- The row of some cells. -/
def row (columns : List Column) (cells : List (Option Bytes)) : Row :=
  ⟨columns.zipWith (fun c cell => (c.name, cellValue c.type cell)) cells⟩

@[simp] theorem cellValue_none (type : ColumnType) : cellValue type none = .null := rfl

theorem cellValue_of_decode? {type : ColumnType} {bytes : Bytes} {v : Value}
    (h : decode? type bytes = some v) : cellValue type (some bytes) = v := by
  simp [cellValue, h]

end EntityQuery.Postgres
