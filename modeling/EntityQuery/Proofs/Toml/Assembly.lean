import EntityQuery.Toml.Table

/-!
# Pieces of a file put together

Where a table stands in a file does not matter to the entries below its header: with a frame around
it, a file changes as the table inside changes. Pieces that write fields to a table are therefore
told apart from the file they stand in, and larger pieces are made of smaller ones: entries, tables
with a header, and lists of tables with a header for each item.
-/

namespace EntityQuery.Toml

namespace Entries

variable {key : String} {entries : Entries} {n : Node}

theorem alter?_new (fresh : key ∉ entries.map Prod.fst) (change : Option Node → Option Node) :
    entries.alter? key change = (change none).map fun n => entries ++ [(key, n)] := by
  induction entries with
  | nil => rfl
  | cons e rest ih =>
      rw [List.map_cons, List.mem_cons, not_or] at fresh
      rw [alter?, if_neg (Ne.symm fresh.1), ih fresh.2, Option.map_map]
      rfl

theorem alter?_last (fresh : key ∉ entries.map Prod.fst) (change : Option Node → Option Node) :
    alter? key change (entries ++ [(key, n)]) =
      (change (some n)).map fun n => entries ++ [(key, n)] := by
  induction entries with
  | nil => exact if_pos rfl
  | cons e rest ih =>
      rw [List.map_cons, List.mem_cons, not_or] at fresh
      rw [List.cons_append, alter?, if_neg (Ne.symm fresh.1), ih fresh.2, Option.map_map]
      rfl

theorem within?_append (change : Entries → Option Entries) (front back : List String) :
    within? change (front ++ back) = within? (within? change back) front := by
  induction front with
  | nil => rfl
  | cons key front ih =>
      funext entries
      rw [List.cons_append, within?, within?, ih]

end Entries

namespace Node

theorem fields_append (front back : Entries) :
    fields (front ++ back) = fields front ++ fields back := by
  induction front with
  | nil => rfl
  | cons e front ih => rw [List.cons_append, fields, fields, ih, List.cons_append]

theorem map_fst_fields (entries : Entries) :
    (fields entries).map Prod.fst = entries.map Prod.fst := by
  induction entries with
  | nil => rfl
  | cons e entries ih => rw [fields, List.map_cons, List.map_cons, ih]

theorem items_eq (earlier : List Entries) (later : List Json) :
    items earlier later = earlier.reverse.map (fun e => .object (fields e)) ++ later := by
  induction earlier generalizing later with
  | nil => rfl
  | cons e earlier ih => rw [items, ih, List.reverse_cons, List.map_append, List.append_assoc]; rfl

end Node

/-! ## Frames -/

/-- A file around the table at a path: what changes the table at the path changes the one inside. -/
structure Frame (path : List String) where
  around : Entries → Entries
  within?_around (change : Entries → Option Entries) (inner : Entries) :
    (around inner).within? change path = (change inner).map around

/-- The tables of a list under a key, latest first; no table is no key. -/
def slot (key : String) : List Entries → Entries
  | [] => []
  | latest :: earlier => [(key, .tables latest earlier)]

namespace Frame

variable {path : List String} {key : String} {before : Entries}

/-- The file itself. -/
def root : Frame [] where
  around := id
  within?_around change inner := by simp

/-- The frame around a table inside the table. -/
def inside (frame : Frame path) (key : String) (around : Entries → Entries)
    (held : ∀ change inner, (around inner).alter? key (Node.inside change) =
      (change inner).map around) : Frame (path ++ [key]) where
  around inner := frame.around (around inner)
  within?_around change inner := by
    rw [Entries.within?_append, frame.within?_around]
    have single : Entries.within? change [key] (around inner) = (change inner).map around :=
      held change inner
    rw [single, Option.map_map]
    rfl

/-- The frame around the table that the last key holds. -/
def table (frame : Frame path) (fresh : key ∉ before.map Prod.fst) (origin : Origin) :
    Frame (path ++ [key]) :=
  frame.inside key (fun inner => before ++ [(key, .table origin inner)]) fun change inner => by
    rw [Entries.alter?_last fresh, Node.inside, Option.map_map]
    rfl

/-- The frame around the latest of the tables that the last key holds. -/
def tables (frame : Frame path) (fresh : key ∉ before.map Prod.fst) (earlier : List Entries) :
    Frame (path ++ [key]) :=
  frame.inside key (fun inner => before ++ slot key (inner :: earlier)) fun change inner => by
    rw [slot, Entries.alter?_last fresh, Node.inside, Option.map_map]
    rfl

end Frame

/-! ## Pieces that write fields -/

/-- Pieces after the header of one path that turn the table at another path into a further one,
wherever it stands. -/
def Turns (path start : List String) (pieces : List Statement) (before after : Entries) : Prop :=
  ∀ frame : Frame path, ∃ last,
    pieces.foldlM Assembly.add? ⟨frame.around before, start⟩ = some ⟨frame.around after, last⟩

/-- Pieces below the header of a table that write fields to it: if it has no such keys, they add
entries with these values. -/
def Fills (path : List String) (pieces : List Statement) (fields : List (String × Json)) : Prop :=
  ∀ before : Entries, (∀ key ∈ fields.map Prod.fst, key ∉ before.map Prod.fst) →
    ∃ added : Entries, Node.fields added = fields ∧ Turns path path pieces before (before ++ added)

/-- Pieces with headers of their own that write fields to a table, after any header. -/
def Writes (path : List String) (pieces : List Statement) (fields : List (String × Json)) : Prop :=
  ∀ before : Entries, (∀ key ∈ fields.map Prod.fst, key ∉ before.map Prod.fst) →
    ∃ added : Entries, Node.fields added = fields ∧
      ∀ start, Turns path start pieces before (before ++ added)

/-- An entry for each of some fields. -/
def entriesOf (fields : List (String × Json)) : List Statement :=
  fields.map fun (key, v) => .entry ⟨[], key, v⟩

section

variable {path start : List String} {key : String} {pieces body others : List Statement}
  {fields more : List (String × Json)}

theorem Turns.append {before between after : Entries} (h : Turns path start pieces before between)
    (other : ∀ start, Turns path start others between after) :
    Turns path start (pieces ++ others) before after := by
  intro frame
  obtain ⟨middle, run⟩ := h frame
  obtain ⟨last, further⟩ := other middle frame
  exact ⟨last, by rw [List.foldlM_append, run]; exact further⟩

/-- Entries with different keys write their fields to the table of the header above. -/
theorem fills_entriesOf (different : (fields.map Prod.fst).Nodup) :
    Fills path (entriesOf fields) fields := by
  induction fields with
  | nil => exact fun before _ => ⟨[], rfl, fun frame => ⟨path, by rw [List.append_nil]; rfl⟩⟩
  | cons field fields ih =>
      obtain ⟨key, v⟩ := field
      rw [List.map_cons, List.nodup_cons] at different
      intro before fresh
      have first : key ∉ before.map Prod.fst := fresh key List.mem_cons_self
      have others : ∀ k ∈ fields.map Prod.fst, k ∉ (before ++ [(key, Node.value v)]).map Prod.fst := by
        intro k mem
        rw [List.map_append, List.mem_append, not_or]
        refine ⟨fresh k (List.mem_cons_of_mem key mem), ?_⟩
        rintro (_ | ⟨_, ⟨⟩⟩)
        exact different.1 mem
      obtain ⟨added, same, run⟩ := ih different.2 _ others
      refine ⟨(key, .value v) :: added, by rw [Node.fields, same, Node.toJson], fun frame => ?_⟩
      obtain ⟨last, run⟩ := run frame
      have step : Assembly.add? ⟨frame.around before, path⟩ (.entry ⟨[], key, v⟩) =
          some ⟨frame.around (before ++ [(key, .value v)]), path⟩ := by
        rw [Assembly.add?, frame.within?_around, Entries.put?, Entries.alter?_new first]
        rfl
      refine ⟨last, ?_⟩
      rw [entriesOf, List.map_cons, List.foldlM_cons, step]
      exact run.trans (by rw [List.append_assoc, List.singleton_append])

/-- Pieces fill a table with what their parts write, if these write different keys. -/
theorem Fills.append (h : Fills path pieces fields) (other : Writes path others more)
    (different : ∀ key ∈ more.map Prod.fst, key ∉ fields.map Prod.fst) :
    Fills path (pieces ++ others) (fields ++ more) := by
  intro before fresh
  rw [List.map_append] at fresh
  obtain ⟨added, same, run⟩ := h before fun k mem => fresh k (List.mem_append_left _ mem)
  obtain ⟨last, sameLast, further⟩ := other (before ++ added) (by
    intro k mem
    rw [List.map_append, List.mem_append, not_or, ← Node.map_fst_fields added, same]
    exact ⟨fresh k (List.mem_append_right _ mem), different k mem⟩)
  refine ⟨added ++ last, by rw [Node.fields_append, same, sameLast], ?_⟩
  rw [← List.append_assoc]
  exact run.append further

/-- The header of a table and what it holds write the table. -/
theorem writes_table (h : Fills (path ++ [key]) body fields) :
    Writes path (.table path key :: body) [(key, .object fields)] := by
  intro before fresh
  have first : key ∉ before.map Prod.fst := fresh key List.mem_cons_self
  obtain ⟨inner, same, run⟩ := h [] fun k _ => List.not_mem_nil
  refine ⟨[(key, .table .header inner)], ?_, fun start frame => ?_⟩
  · rw [Node.fields, Node.toJson, same]
    rfl
  · obtain ⟨last, run⟩ := run (frame.table first .header)
    have opened : Assembly.add? ⟨frame.around before, start⟩ (.table path key) =
        some ⟨frame.around (before ++ [(key, .table .header [])]), path ++ [key]⟩ := by
      rw [Assembly.add?, frame.within?_around, Entries.alter?_new first]
      rfl
    refine ⟨last, ?_⟩
    rw [List.foldlM_cons, opened]
    exact run

theorem fields_slot (tables : List Entries) (some : tables ≠ []) :
    Node.fields (slot key tables) =
      [(key, .array ((tables.reverse.map Node.fields).map .object))] := by
  cases tables with
  | nil => exact absurd rfl some
  | cons latest earlier =>
      rw [slot, Node.fields, Node.toJson, Node.items_eq, List.reverse_cons, List.map_append,
        List.map_append, List.map_map]
      rfl

/-- The header of an item begins the next table of a list. -/
theorem add?_item {before : Entries} (fresh : key ∉ before.map Prod.fst) (frame : Frame path)
    (tables : List Entries) :
    Assembly.add? ⟨frame.around (before ++ slot key tables), start⟩ (.item path key) =
      some ⟨frame.around (before ++ slot key ([] :: tables)), path ++ [key]⟩ := by
  rw [Assembly.add?, frame.within?_around]
  cases tables with
  | nil =>
      rw [slot, List.append_nil, Entries.alter?_new fresh]
      rfl
  | cons latest earlier =>
      rw [slot, Entries.alter?_last fresh]
      rfl

section

variable {α : Type} {body : α → List Statement} {content : α → List (String × Json)} {xs : List α}

/-- Items with a header each go on with a list of tables. -/
theorem turns_items (h : ∀ x ∈ xs, Fills (path ++ [key]) (body x) (content x)) {before : Entries}
    (fresh : key ∉ before.map Prod.fst) :
    ∃ added : List Entries, added.map Node.fields = xs.map content ∧ ∀ done start,
      Turns path start (xs.flatMap fun x => .item path key :: body x) (before ++ slot key done)
        (before ++ slot key (added.reverse ++ done)) := by
  induction xs with
  | nil => exact ⟨[], rfl, fun done start frame => ⟨start, rfl⟩⟩
  | cons x xs ih =>
      obtain ⟨added, same, further⟩ := ih fun y mem => h y (List.mem_cons_of_mem x mem)
      obtain ⟨inner, sameInner, run⟩ := h x List.mem_cons_self [] fun k _ => List.not_mem_nil
      refine ⟨inner :: added, by rw [List.map_cons, List.map_cons, same, sameInner], ?_⟩
      intro done start
      rw [List.flatMap_cons, List.reverse_cons, List.append_assoc, List.singleton_append]
      refine Turns.append (fun frame => ?_) (further (inner :: done))
      obtain ⟨last, run⟩ := run (frame.tables fresh done)
      refine ⟨last, ?_⟩
      rw [List.foldlM_cons, add?_item fresh frame done]
      exact run

/-- Items with a header each write a list of tables, if there is one. -/
theorem writes_items (some : xs ≠ [])
    (h : ∀ x ∈ xs, Fills (path ++ [key]) (body x) (content x)) :
    Writes path (xs.flatMap fun x => .item path key :: body x)
      [(key, .array ((xs.map content).map .object))] := by
  intro before fresh
  obtain ⟨added, same, run⟩ := turns_items h (fresh key List.mem_cons_self)
  have nonempty : added.reverse ≠ [] := by
    intro empty
    rw [List.reverse_eq_nil_iff.1 empty] at same
    exact some (List.map_eq_nil_iff.1 same.symm)
  refine ⟨slot key added.reverse, ?_, fun start => ?_⟩
  · rw [fields_slot _ nonempty, List.reverse_reverse, same]
  · have whole := run [] start
    rw [List.append_nil, slot, List.append_nil] at whole
    exact whole

end

/-- A file whose pieces fill it with fields is the object of these fields. -/
theorem ofStatements?_of_fills (h : Fills [] pieces fields) :
    Assembly.ofStatements? pieces = some (.object fields) := by
  obtain ⟨added, same, run⟩ := h [] fun k _ => List.not_mem_nil
  obtain ⟨last, run⟩ := run Frame.root
  have whole : pieces.foldlM Assembly.add? {} = some ⟨added, last⟩ := run
  rw [Assembly.ofStatements?, whole, ← same]
  rfl

end

end EntityQuery.Toml
