import EntityQuery.Proofs.Toml.Value

/-!
# Lines of settings are read back

A line is read as the piece that it was written for, if its keys need no quotes and its value fits.
No piece runs on into the next line, so the lines of a file are read one after the other, and the
file is what their pieces make up.
-/

namespace EntityQuery.Toml

open TextReader

/-! ## Keys -/

/-- A key that stands without quotes. -/
def IsBare (key : String) : Prop := key ≠ "" ∧ key.toList.all isKeyChar = true

instance (key : String) : Decidable (IsBare key) := inferInstanceAs (Decidable (_ ∧ _))

/-- Text behind which a key ends, and no further key follows it. -/
structure EndsKey (rest : List Char) : Prop where
  noKeyChar : ∀ c ∈ rest.head?, isKeyChar c = false
  noPoint : (skipBlanks rest).head? ≠ some '.'

/-- A key begins with a character of a key. -/
theorem IsBare.exists_front {key : String} (bare : IsBare key) :
    ∃ c cs, key.toList = c :: cs ∧ isKeyChar c = true ∧ cs.all isKeyChar = true := by
  obtain ⟨nonempty, all⟩ := bare
  cases spelled : key.toList with
  | nil => exact absurd (String.toList_eq_nil_iff.1 spelled) nonempty
  | cons c cs =>
      rw [spelled, List.all_cons, Bool.and_eq_true] at all
      exact ⟨c, cs, rfl, all.1, all.2⟩

section

variable {key : String} {rest : List Char}

theorem simpleKey?_bare (bare : IsBare key) (ends : ∀ c ∈ rest.head?, isKeyChar c = false) :
    simpleKey? (key.toList ++ rest) = some (key, rest) := by
  obtain ⟨c, cs, spelled, front, all⟩ := bare.exists_front
  have stop : rest.takeWhile isKeyChar = [] ∧ rest.dropWhile isKeyChar = rest := by
    cases rest with
    | nil => exact ⟨rfl, rfl⟩
    | cons d rest =>
        have last : isKeyChar d = false := ends d rfl
        simp [last]
  have each : ∀ d ∈ cs, isKeyChar d = true := List.all_eq_true.1 all
  rw [spelled, List.cons_append, simpleKey?, if_pos front, List.takeWhile_append_of_pos each,
    List.dropWhile_append_of_pos each, stop.1, stop.2, List.append_nil, ← spelled,
    String.ofList_toList]

theorem skipBlanks_bare (bare : IsBare key) :
    skipBlanks (key.toList ++ rest) = key.toList ++ rest := by
  obtain ⟨c, cs, spelled, front, -⟩ := bare.exists_front
  rw [skipBlanks, spelled, List.cons_append, List.dropWhile_cons, isBlank_of_passed front rfl rfl]
  rfl

theorem skipGap_bare (bare : IsBare key) :
    skipGap false (key.toList ++ rest) = key.toList ++ rest := by
  obtain ⟨c, cs, spelled, front, -⟩ := bare.exists_front
  rw [spelled, List.cons_append, skipGap, isBlank_of_passed front rfl rfl,
    if_neg (ne_of_passed front rfl)]
  · rfl
  · exact ne_of_passed front rfl
  · intro cs' same
    exact absurd same (ne_of_passed front rfl)

/-- Keys with points between them are read up to where the last one ends. -/
theorem dottedKey?_path {path : List String} {n : Nat} (some : path ≠ []) (few : path.length ≤ n)
    (bare : ∀ key ∈ path, IsBare key) (ends : EndsKey rest) :
    dottedKey? n ((".".intercalate path).toList ++ rest) =
      .some ((path.dropLast, path.getLast some), skipBlanks rest) := by
  rw [String.toList_intercalate]
  induction path generalizing n with
  | nil => exact absurd rfl some
  | cons key path ih =>
      obtain ⟨n, rfl⟩ := Nat.exists_eq_add_one_of_ne_zero (Nat.ne_zero_of_lt few)
      have first : IsBare key := bare key List.mem_cons_self
      cases path with
      | nil =>
          rw [List.map_singleton, List.intercalate_singleton, dottedKey?, skipBlanks_bare first,
            simpleKey?_bare first ends.noKeyChar]
          simp only [Option.bind_eq_bind, Option.bind_some]
          split
          · next rest' point =>
              have noPoint := ends.noPoint
              rw [point] at noPoint
              exact absurd rfl noPoint
          · rfl
      | cons next path =>
          have further : ∀ key ∈ next :: path, IsBare key := fun k mem =>
            bare k (List.mem_cons_of_mem key mem)
          have found := ih (List.cons_ne_nil next path) (Nat.le_of_succ_le_succ few) further
          have point (cs : List Char) : ∀ c ∈ (".".toList ++ cs).head?, isKeyChar c = false := by
            rintro c ⟨⟩
            rfl
          have passed (cs : List Char) : skipBlanks (".".toList ++ cs) = '.' :: cs := rfl
          rw [List.map_cons] at found
          rw [List.map_cons, List.map_cons, List.intercalate_cons_cons, List.append_assoc,
            List.append_assoc, dottedKey?, skipBlanks_bare first, simpleKey?_bare first (point _)]
          simp only [Option.bind_eq_bind, Option.bind_some, passed, found]
          rfl

end

/-! ## Lines -/

namespace Line

/-- What a line is read as. -/
def statement : Line → Statement
  | entry key value => .entry ⟨[], key, value.toJson⟩
  | table path => .table path.dropLast (path.getLastD "")
  | item path => .item path.dropLast (path.getLastD "")

/-- A line that can be read back: its keys need no quotes, and its value fits. -/
def IsReadable : Line → Prop
  | entry key value => IsBare key ∧ value.Fits
  | table path | item path => path ≠ [] ∧ path.length ≤ maxKeys ∧ ∀ key ∈ path, IsBare key

end Line

section

variable {path : List String} {key : String} {v : Setting}

/-- The keys of a header, up to its closing bracket. -/
theorem dottedKey?_header (readable : (Line.table path).IsReadable) (more : List Char) :
    dottedKey? maxKeys ((".".intercalate path).toList ++ ']' :: more) =
      some ((path.dropLast, path.getLastD ""), ']' :: more) := by
  obtain ⟨some, few, bare⟩ := readable
  have ends : EndsKey (']' :: more) := ⟨by rintro c ⟨⟩; rfl, by rintro ⟨⟩⟩
  rw [dottedKey?_path some few bare ends, List.getLastD_eq_getLast?, List.getLast?_eq_some_getLast some]
  rfl

/-- A path begins with a character of a key. -/
theorem exists_path (readable : (Line.table path).IsReadable) :
    ∃ c cs, (".".intercalate path).toList = c :: cs ∧ isKeyChar c = true := by
  obtain ⟨some, -, bare⟩ := readable
  cases path with
  | nil => exact absurd rfl some
  | cons key path =>
      obtain ⟨c, cs, spelled, front, -⟩ := (bare key List.mem_cons_self).exists_front
      rw [String.toList_intercalate, List.map_cons]
      cases path with
      | nil => exact ⟨c, cs, by rw [List.map_nil, List.intercalate_singleton, spelled], front⟩
      | cons next path =>
          rw [List.map_cons, List.intercalate_cons_cons, spelled]
          exact ⟨c, _, rfl, front⟩

theorem statement?_entry (readable : (Line.entry key v).IsReadable) (more : List Char) :
    statement? (key.toList ++ (" = ".toList ++ (v.render.toList ++ '\n' :: more))) =
      some (.entry ⟨[], key, v.toJson⟩, '\n' :: more) := by
  obtain ⟨bare, fits⟩ := readable
  have ends (cs : List Char) : EndsKey (" = ".toList ++ cs) :=
    ⟨by rintro c ⟨⟩; rfl, by rintro ⟨⟩⟩
  have keyRead (cs : List Char) : dottedKey? maxKeys (key.toList ++ (" = ".toList ++ cs)) =
      some (([], key), '=' :: ' ' :: cs) := by
    have read := dottedKey?_path (n := maxKeys) (List.cons_ne_nil key [])
      (show 1 ≤ maxKeys by decide) (by simpa using bare) (ends cs)
    rw [String.toList_intercalate, List.map_singleton, List.intercalate_singleton] at read
    exact read
  have valueRead : value? maxLevels (skipBlanks (' ' :: (v.render.toList ++ '\n' :: more))) =
      some (v.toJson, '\n' :: more) := by
    have passed : skipBlanks (' ' :: (v.render.toList ++ '\n' :: more)) =
        skipBlanks (v.render.toList ++ '\n' :: more) := rfl
    rw [passed, Setting.skipBlanks_render, Setting.value?_render fits]
  have lineRead := keyRead (v.render.toList ++ '\n' :: more)
  obtain ⟨c, cs, spelled, front, -⟩ := bare.exists_front
  rw [spelled, List.cons_append] at lineRead ⊢
  rw [statement?, entryLine?, lineRead]
  · simp only [Option.bind_eq_bind, Option.bind_some, valueRead, Option.map_some]
  · intro cs' same
    exact ne_of_passed front rfl (List.cons.inj same).1
  · intro cs' same
    exact ne_of_passed front rfl (List.cons.inj same).1

theorem statement?_table (readable : (Line.table path).IsReadable) (more : List Char) :
    statement? ('[' :: ((".".intercalate path).toList ++ ']' :: more)) =
      some ((Line.table path).statement, more) := by
  have read := dottedKey?_header readable more
  obtain ⟨c, cs, spelled, front⟩ := exists_path readable
  rw [spelled, List.cons_append] at read ⊢
  rw [statement?]
  · simp only [read, Option.bind_eq_bind, Option.bind_some]
    rfl
  · intro cs' same
    exact ne_of_passed front rfl (List.cons.inj same).1

theorem statement?_item (readable : (Line.item path).IsReadable) (more : List Char) :
    statement? ('[' :: '[' :: ((".".intercalate path).toList ++ ']' :: ']' :: more)) =
      some ((Line.item path).statement, more) := by
  rw [statement?, dottedKey?_header readable]
  rfl

end

theorem toList_entry (key : String) (v : Setting) (more : List Char) :
    (Line.entry key v).render.toList ++ more =
      key.toList ++ (" = ".toList ++ (v.render.toList ++ '\n' :: more)) := by
  rw [Line.render, String.toList_append, String.toList_append, String.toList_append,
    List.append_assoc, List.append_assoc, List.append_assoc]
  rfl

theorem toList_table (path : List String) (more : List Char) :
    (Line.table path).render.toList ++ more =
      '\n' :: '[' :: ((".".intercalate path).toList ++ ']' :: '\n' :: more) := by
  rw [Line.render, String.toList_append, String.toList_append, List.append_assoc,
    List.append_assoc]
  rfl

theorem toList_item (path : List String) (more : List Char) :
    (Line.item path).render.toList ++ more =
      '\n' :: '[' :: '[' :: ((".".intercalate path).toList ++ ']' :: ']' :: '\n' :: more) := by
  rw [Line.render, String.toList_append, String.toList_append, List.append_assoc,
    List.append_assoc]
  rfl

/-- After the gap in front of it, a line is read as its piece, up to its line break. -/
theorem statement?_line {line : Line} (readable : line.IsReadable) (more : List Char) :
    ∃ cs, skipGap false (line.render.toList ++ more) = cs ∧ cs ≠ [] ∧
      statement? cs = some (line.statement, '\n' :: more) := by
  cases line with
  | entry key v =>
      refine ⟨_, ?_, ?_, statement?_entry readable more⟩
      · rw [toList_entry, skipGap_bare readable.1]
      · obtain ⟨c, cs, spelled, -, -⟩ := readable.1.exists_front
        rw [spelled]
        exact List.cons_ne_nil c _
  | table path =>
      refine ⟨_, ?_, ?_, statement?_table readable _⟩
      · rw [toList_table]
        rfl
      · exact List.cons_ne_nil _ _
  | item path =>
      refine ⟨_, ?_, ?_, statement?_item readable _⟩
      · rw [toList_item]
        rfl
      · exact List.cons_ne_nil _ _

theorem toList_textOfLines_cons (line : Line) (lines : List Line) :
    (textOfLines (line :: lines)).toList = line.render.toList ++ (textOfLines lines).toList := by
  rw [textOfLines, textOfLines, List.map_cons, String.toList_join, String.toList_join,
    List.flatMap_cons]

section

variable {lines : List Line}

/-- The lines of a file are read one after the other. -/
theorem statements?_lines {n : Nat} (readable : ∀ line ∈ lines, line.IsReadable)
    (enough : lines.length < n) :
    statements? n (textOfLines lines).toList = some (lines.map Line.statement) := by
  induction lines generalizing n with
  | nil =>
      obtain ⟨n, rfl⟩ := Nat.exists_eq_add_one_of_ne_zero (Nat.ne_zero_of_lt enough)
      rfl
  | cons line lines ih =>
      obtain ⟨n, rfl⟩ := Nat.exists_eq_add_one_of_ne_zero (Nat.ne_zero_of_lt enough)
      obtain ⟨cs, skipped, some, read⟩ := statement?_line (readable line List.mem_cons_self)
        (textOfLines lines).toList
      have further := ih (fun l mem => readable l (List.mem_cons_of_mem line mem))
        (Nat.lt_of_succ_lt_succ enough)
      have lineEnd (cs : List Char) : lineEnd? ('\n' :: cs) = .some cs := rfl
      rw [toList_textOfLines_cons, statements?, skipped]
      split
      · next empty => exact absurd rfl some
      · simp only [read, Option.bind_eq_bind, Option.bind_some, lineEnd, further]
        rfl

/-- A line has at least one character, and its first one is no byte order mark. -/
theorem exists_render {line : Line} (readable : line.IsReadable) (more : List Char) :
    ∃ c cs, line.render.toList ++ more = c :: cs ∧ c ≠ '\uFEFF' := by
  cases line with
  | entry key v =>
      obtain ⟨c, cs, spelled, front, -⟩ := readable.1.exists_front
      rw [toList_entry, spelled]
      exact ⟨c, _, rfl, ne_of_passed front rfl⟩
  | table path => exact ⟨'\n', _, toList_table path more, by decide⟩
  | item path => exact ⟨'\n', _, toList_item path more, by decide⟩

/-- A file has at least as many characters as lines. -/
theorem length_le_text (readable : ∀ line ∈ lines, line.IsReadable) :
    lines.length ≤ (textOfLines lines).toList.length := by
  induction lines with
  | nil => exact Nat.zero_le _
  | cons line lines ih =>
      have further := ih fun l mem => readable l (List.mem_cons_of_mem line mem)
      obtain ⟨c, cs, begins, -⟩ := exists_render (readable line List.mem_cons_self) []
      rw [List.append_nil] at begins
      rw [toList_textOfLines_cons, begins, List.length_append, List.length_cons, List.length_cons]
      omega

/-- A file with lines that can be read is what their pieces make up. -/
theorem ofText?_lines (readable : ∀ line ∈ lines, line.IsReadable) :
    ofText? (textOfLines lines) = Assembly.ofStatements? (lines.map Line.statement) := by
  have read := statements?_lines readable (Nat.lt_succ_of_le (length_le_text readable))
  have unmarked : ∀ rest, (textOfLines lines).toList ≠ '\uFEFF' :: rest := by
    cases lines with
    | nil => exact fun rest => nofun
    | cons line lines =>
        obtain ⟨c, cs, begins, unmarked⟩ := exists_render (readable line List.mem_cons_self)
          (textOfLines lines).toList
        rw [toList_textOfLines_cons, begins]
        intro rest same
        exact unmarked (List.cons.inj same).1
  rw [ofText?]
  split
  · next rest marked => exact absurd marked (unmarked rest)
  · exact (congrArg (·.bind Assembly.ofStatements?) read).trans (Option.bind_some _ _)

end

end EntityQuery.Toml
