import EntityQuery.Json

/-!
# Tables of settings files

Tables are written piece by piece: entries with dotted keys, headers of tables, and headers that
begin the next item of a list of tables. How a table came to be decides what may still be added to
it: a table with a header of its own takes entries below its header only, a table made by dotted
keys only from dotted keys, and one that is known from a longer header may still get its own.
-/

namespace EntityQuery.Toml

/-- How a table came to be. -/
inductive Origin where
  /-- By a header of its own. -/
  | header
  /-- By the header of a table inside it. -/
  | implied
  /-- By a dotted key. -/
  | dotted
  deriving DecidableEq, Repr

/-- What a key of a table holds. -/
inductive Node where
  | value (v : Json)
  | table (origin : Origin) (entries : List (String × Node))
  /-- A list of tables: the last one, and the ones before it, latest first. -/
  | tables (latest : List (String × Node)) (earlier : List (List (String × Node)))

/-- The entries of a table, in order. -/
abbrev Entries : Type := List (String × Node)

namespace Entries

/-- Changes what a key holds; a new key comes last. -/
def alter? (key : String) (change : Option Node → Option Node) : Entries → Option Entries
  | [] => (change none).map fun n => [(key, n)]
  | (k, n) :: rest =>
    if k = key then (change (some n)).map fun n => (k, n) :: rest
    else (alter? key change rest).map ((k, n) :: ·)

end Entries

namespace Node

/-- Changes the table that a key holds; in a list of tables this is the last one. A key that holds
nothing yet gets a table. -/
def inside (change : Entries → Option Entries) : Option Node → Option Node
  | none => (change []).map (table .implied)
  | some (value _) => none
  | some (table origin entries) => (change entries).map (table origin)
  | some (tables latest earlier) => (change latest).map (tables · earlier)

/-- A value where nothing is yet. -/
def fresh (v : Json) : Option Node → Option Node
  | none => some (value v)
  | some _ => none

/-- A table that gets its header. -/
def opened : Option Node → Option Node
  | none => some (table .header [])
  | some (table .implied entries) => some (table .header entries)
  | some _ => none

/-- The next item of a list of tables. -/
def extended : Option Node → Option Node
  | none => some (tables [] [])
  | some (tables latest earlier) => some (tables [] (latest :: earlier))
  | some _ => none

mutual

/-- What a key holds, as a value. -/
def toJson : Node → Json
  | value v => v
  | table _ entries => .object (fields entries)
  | tables latest earlier => .array (items earlier [.object (fields latest)])

/-- The entries of a table as fields. -/
def fields : List (String × Node) → List (String × Json)
  | [] => []
  | (key, n) :: rest => (key, toJson n) :: fields rest

/-- The tables of a list, latest first, in front of the ones after them. -/
def items : List (List (String × Node)) → List Json → List Json
  | [], later => later
  | entries :: earlier, later => items earlier (.object (fields entries) :: later)

end

end Node

namespace Entries

/-- Changes the table at the end of a path. -/
def within? (change : Entries → Option Entries) : List String → Entries → Option Entries
  | [], entries => change entries
  | key :: path, entries => entries.alter? key (Node.inside (within? change path))

/-- Writes a value at the end of a path of dotted keys. -/
def put? (key : String) (v : Json) : List String → Entries → Option Entries
  | [], entries => entries.alter? key (Node.fresh v)
  | k :: path, entries =>
    entries.alter? k fun
      | none => (put? key v path []).map (.table .dotted)
      | some (.value _) | some (.table .header _) => none
      | some (.table .dotted inner) => (put? key v path inner).map (.table .dotted)
      | some (.table .implied inner) =>
        if path.isEmpty then none else (put? key v path inner).map (.table .implied)
      | some (.tables latest earlier) =>
        if path.isEmpty then none else (put? key v path latest).map (.tables · earlier)

/-- Entries as an object. -/
def toJson (entries : Entries) : Json := .object (Node.fields entries)

@[simp] theorem within?_nil (change : Entries → Option Entries) (entries : Entries) :
    entries.within? change [] = change entries := rfl

end Entries

/-- An entry: its dotted keys, the last one apart, and its value. -/
structure Entry where
  path : List String
  key : String
  value : Json

/-- A piece of a settings file. -/
inductive Statement where
  | entry (e : Entry)
  /-- The header of a table. -/
  | table (path : List String) (key : String)
  /-- The header of the next item of a list of tables. -/
  | item (path : List String) (key : String)

/-- The table of some entries. -/
def tableOf? (entries : List Entry) : Option Json :=
  (entries.foldlM (fun (t : Entries) e => t.put? e.key e.value e.path) []).map Entries.toJson

/-- A file as far as it has been put together: everything, and the path to the table whose entries
come next. -/
structure Assembly where
  root : Entries := []
  current : List String := []

namespace Assembly

/-- Adds a piece. -/
def add? (a : Assembly) : Statement → Option Assembly
  | .entry e =>
    (a.root.within? (Entries.put? e.key e.value e.path) a.current).map ({ a with root := · })
  | .table path key =>
    (a.root.within? (Entries.alter? key Node.opened) path).map (⟨·, path ++ [key]⟩)
  | .item path key =>
    (a.root.within? (Entries.alter? key Node.extended) path).map (⟨·, path ++ [key]⟩)

/-- The file that some pieces make up. -/
def ofStatements? (statements : List Statement) : Option Json :=
  (statements.foldlM add? {}).map (·.root.toJson)

end Assembly

end EntityQuery.Toml
