import EntityQuery.Connection
import EntityQuery.Proofs.Numeral

/-!
# Connection texts are read back

The grammar of connection texts as a reader that takes one character at a time. Parameters are
written `key=value` with blanks between them, and blanks may stand on both sides of the equals sign.
A value is bare, up to the next blank, or stands between single quotes, and in both a backslash
makes the next character a plain one. The reader knows no keys: whatever a value smuggled in would
show as a further parameter.

The text of a connection is read to its seven parameters. This rests on the quoted values: the
characters between the quotes lead the reader back into the same value with one more character of
it, so that nothing in a value ends it.
-/

namespace EntityQuery

namespace ConnectionText

/-- A key with its value. -/
abbrev Parameter : Type := String × String

/-- Whether a character is one of the blanks of the grammar. -/
def isBlank (c : Char) : Bool := [' ', '\t', '\n', '\x0b', '\x0c', '\r'].contains c

/-- Where a reader stands within a parameter, with the key and the part of the value it has read. -/
inductive Phase where
  | between
  | key (read : List Char)
  /-- The key is complete, and its equals sign must come. -/
  | afterKey (key : List Char)
  | afterEquals (key : List Char)
  | bare (key value : List Char)
  | bareEscape (key value : List Char)
  | quoted (key value : List Char)
  | quotedEscape (key value : List Char)
  deriving DecidableEq, Repr

/-- A reader of a connection text: the parameters it has read, and where it stands. -/
structure Reader where
  parameters : List Parameter := []
  phase : Phase := .between
  deriving DecidableEq, Repr

namespace Reader

/-- The reader behind the end of a value. -/
def close (r : Reader) (key value : List Char) : Reader :=
  ⟨r.parameters ++ [(String.ofList key, String.ofList value)], .between⟩

/-- The phase behind a character of a bare value. -/
def bareNext (key value : List Char) (c : Char) : Phase :=
  if c = '\\' then .bareEscape key value else .bare key (value ++ [c])

/-- The reader behind one more character, if the grammar has it there. -/
def step (r : Reader) (c : Char) : Option Reader :=
  match r.phase with
  | .between =>
    if isBlank c then some r
    else some { r with phase := if c = '=' then .afterEquals [] else .key [c] }
  | .key read =>
    some { r with
      phase :=
        if c = '=' then .afterEquals read
        else if isBlank c then .afterKey read else .key (read ++ [c]) }
  | .afterKey key =>
    if c = '=' then some { r with phase := .afterEquals key }
    else if isBlank c then some r else none
  | .afterEquals key =>
    if isBlank c then some r
    else some { r with phase := if c = '\'' then .quoted key [] else bareNext key [] c }
  | .bare key value =>
    if isBlank c then some (r.close key value)
    else some { r with phase := bareNext key value c }
  | .bareEscape key value => some { r with phase := .bare key (value ++ [c]) }
  | .quoted key value =>
    if c = '\'' then some (r.close key value)
    else some { r with
      phase := if c = '\\' then .quotedEscape key value else .quoted key (value ++ [c]) }
  | .quotedEscape key value => some { r with phase := .quoted key (value ++ [c]) }

/-- The reader behind some characters. -/
def run (r : Reader) (cs : List Char) : Option Reader := cs.foldlM step r

/-- The parameters of a text that ends here: a bare value may end with it, a quoted one may not. -/
def finish (r : Reader) : Option (List Parameter) :=
  match r.phase with
  | .between => some r.parameters
  | .afterEquals key => some (r.close key []).parameters
  | .bare key value | .bareEscape key value => some (r.close key value).parameters
  | .key _ | .afterKey _ | .quoted _ _ | .quotedEscape _ _ => none

end Reader

/-- The parameters of a connection text, in its order. -/
def parameters? (text : String) : Option (List Parameter) :=
  (Reader.run {} text.toList).bind Reader.finish

namespace Reader

variable {r : Reader} {ps : List Parameter} {key value word : List Char} {c : Char}

@[simp] theorem run_nil (r : Reader) : r.run [] = some r := rfl

theorem run_cons (r : Reader) (c : Char) (cs : List Char) :
    r.run (c :: cs) = (r.step c).bind fun s => s.run cs := rfl

theorem run_singleton (r : Reader) (c : Char) : r.run [c] = r.step c := Option.bind_fun_some _

theorem run_append (r : Reader) (cs ds : List Char) :
    r.run (cs ++ ds) = (r.run cs).bind fun s => s.run ds := List.foldlM_append

/-- The reader stands behind a parameter: the text may end, or a blank may lead to the next one. -/
structure Ends (r : Reader) (ps : List Parameter) : Prop where
  finish : r.finish = some ps
  blank : r.step ' ' = some ⟨ps, .between⟩

/-- A character that a key and a bare value can hold. -/
def isPlain (c : Char) : Bool := !isBlank c && c != '=' && c != '\'' && c != '\\'

/-- The step lemma of a whole text: where what is written for each character adds this character to
what has been read, what is written for all of them adds all of them. -/
theorem run_flatMap {phase : List Char → Phase} {write : Char → List Char}
    (each : ∀ c ∈ word, ∀ read, run ⟨ps, phase read⟩ (write c) = some ⟨ps, phase (read ++ [c])⟩)
    (read : List Char) :
    run ⟨ps, phase read⟩ (word.flatMap write) = some ⟨ps, phase (read ++ word)⟩ := by
  induction word generalizing read with
  | nil => rw [List.flatMap_nil, run_nil, List.append_nil]
  | cons c word ih =>
      obtain ⟨first, further⟩ := List.forall_mem_cons.1 each
      rw [List.flatMap_cons, run_append, first, Option.bind_some, ih further, List.append_assoc]
      rfl

/-- A word of plain characters is added in a phase that takes each of them as it is. -/
theorem run_plain {phase : List Char → Phase} (plain : ∀ c ∈ word, isPlain c)
    (each : ∀ c, isPlain c → ∀ read, step ⟨ps, phase read⟩ c = some ⟨ps, phase (read ++ [c])⟩)
    (read : List Char) : run ⟨ps, phase read⟩ word = some ⟨ps, phase (read ++ word)⟩ := by
  have single : ∀ c ∈ word, ∀ read, run ⟨ps, phase read⟩ [c] = some ⟨ps, phase (read ++ [c])⟩ := by
    intro c mem read
    rw [run_cons, each c (plain c mem)]
    rfl
  have whole : run ⟨ps, phase read⟩ (word.flatMap fun c => [c]) = some ⟨ps, phase (read ++ word)⟩ :=
    run_flatMap single read
  rwa [List.flatMap_singleton'] at whole

theorem isPlain_iff :
    isPlain c ↔ isBlank c = false ∧ c ≠ '=' ∧ c ≠ '\'' ∧ c ≠ '\\' := by
  simp [isPlain, and_assoc]

/-- Whether characters are a word that needs no quotes. -/
def isWord : List Char → Bool
  | [] => false
  | c :: cs => isPlain c && cs.all isPlain

theorem isWord_iff : isWord word ↔ word ≠ [] ∧ ∀ c ∈ word, isPlain c := by
  cases word <;> simp [isWord]

/-- A key with its equals sign. -/
theorem run_assignment (plain : isWord key) :
    run ⟨ps, .between⟩ (key ++ ['=']) = some ⟨ps, .afterEquals key⟩ := by
  cases key with
  | nil => cases plain
  | cons c key =>
      obtain ⟨first, further⟩ := List.forall_mem_cons.1 (isWord_iff.1 plain).2
      have begun : step ⟨ps, .between⟩ c = some ⟨ps, .key [c]⟩ := by
        simp [step, isPlain_iff.1 first]
      have read : run ⟨ps, .key [c]⟩ key = some ⟨ps, .key ([c] ++ key)⟩ :=
        run_plain further (fun d plain read => by simp [step, isPlain_iff.1 plain]) [c]
      rw [List.cons_append, run_cons, begun, Option.bind_some, run_append, read]
      rfl

/-! ## Values -/

/-- What is written behind an equals sign spells a value: the reader stands behind a parameter with
this value then, whatever it has read before. -/
def Spells (written value : List Char) : Prop :=
  ∀ ps key, ∃ r, run ⟨ps, .afterEquals key⟩ written = some r ∧
    r.Ends (ps ++ [(String.ofList key, String.ofList value)])

/-- A word of plain characters spells itself. -/
theorem spells_bare (plain : isWord word) : Spells word word := by
  intro ps key
  cases word with
  | nil => cases plain
  | cons c word =>
      obtain ⟨first, further⟩ := List.forall_mem_cons.1 (isWord_iff.1 plain).2
      have begun : step ⟨ps, .afterEquals key⟩ c = some ⟨ps, .bare key [c]⟩ := by
        simp [step, bareNext, isPlain_iff.1 first]
      have read : run ⟨ps, .bare key [c]⟩ word = some ⟨ps, .bare key ([c] ++ word)⟩ :=
        run_plain further (fun d plain read => by simp [step, bareNext, isPlain_iff.1 plain]) [c]
      refine ⟨⟨ps, .bare key (c :: word)⟩, ?_, rfl, rfl⟩
      rw [run_cons, begun, Option.bind_some, read]
      rfl

/-- What is written for a character between quotes adds this character to the value. A backslash
and a quote have a backslash in front; every other character is written as it is. -/
theorem run_escapeChar (c : Char) (value : List Char) :
    run ⟨ps, .quoted key value⟩ (Connection.escapeChar c) =
      some ⟨ps, .quoted key (value ++ [c])⟩ := by
  rw [Connection.escapeChar]
  split
  · rfl
  · next plain =>
      simp only [Bool.or_eq_true, decide_eq_true_eq, not_or] at plain
      simp [run_cons, step, plain]

/-- A quoted text spells this text, whatever it is. -/
theorem spells_quoteValue (text : String) :
    Spells (Connection.quoteValue text).toList text.toList := by
  intro ps key
  have opened (cs : List Char) :
      run ⟨ps, .afterEquals key⟩ ('\'' :: cs) = run ⟨ps, .quoted key []⟩ cs := rfl
  have inside : run ⟨ps, .quoted key []⟩ (text.toList.flatMap Connection.escapeChar) =
      some ⟨ps, .quoted key text.toList⟩ := run_flatMap (fun c _ => run_escapeChar c) []
  refine ⟨⟨ps ++ [(String.ofList key, String.ofList text.toList)], .between⟩, ?_, rfl, rfl⟩
  rw [Connection.quoteValue, String.toList_ofList, opened, run_append, inside]
  rfl

end Reader

/-! ## Whole texts -/

/-- A parameter together with what is written for its value. -/
structure Entry where
  key : String
  written : String
  value : String

namespace Entry

/-- The text of an entry. -/
def text (e : Entry) : String := e.key ++ "=" ++ e.written

/-- The parameter of an entry. -/
def parameter (e : Entry) : Parameter := (e.key, e.value)

/-- An entry with a text between quotes. -/
def quoted (key value : String) : Entry := ⟨key, Connection.quoteValue value, value⟩

/-- An entry with a value that is written as it is. -/
def bare (key value : String) : Entry := ⟨key, value, value⟩

/-- The key of an entry is a plain word, and what is written spells the value. -/
structure Sound (e : Entry) : Prop where
  key : Reader.isWord e.key.toList
  spells : Reader.Spells e.written.toList e.value.toList

theorem Sound.run {e : Entry} (h : e.Sound) (ps : List Parameter) :
    ∃ r, Reader.run ⟨ps, .between⟩ e.text.toList = some r ∧ r.Ends (ps ++ [e.parameter]) := by
  obtain ⟨r, read, ends⟩ := h.spells ps e.key.toList
  have assigned : Reader.run ⟨ps, .between⟩ (e.key.toList ++ "=".toList) =
      some ⟨ps, .afterEquals e.key.toList⟩ := Reader.run_assignment h.key
  refine ⟨r, ?_, by simpa [parameter] using ends⟩
  rw [text, String.toList_append, String.toList_append, Reader.run_append, assigned]
  exact read

end Entry

theorem run_entries {entries : List Entry} (nonempty : entries ≠ [])
    (sound : ∀ e ∈ entries, e.Sound) (ps : List Parameter) :
    ∃ r, Reader.run ⟨ps, .between⟩ (" ".intercalate (entries.map Entry.text)).toList = some r ∧
      r.Ends (ps ++ entries.map Entry.parameter) := by
  induction entries generalizing ps with
  | nil => exact absurd rfl nonempty
  | cons e rest ih =>
      obtain ⟨first, further⟩ := List.forall_mem_cons.1 sound
      obtain ⟨r, read, ends⟩ := first.run ps
      cases rest with
      | nil => exact ⟨r, by simpa using read, by simpa using ends⟩
      | cons next rest =>
          -- the blank between two entries ends the first one and leads in front of the second one
          obtain ⟨s, others, done⟩ := ih (by simp) further (ps ++ [e.parameter])
          have separated (cs : List Char) : r.run (" ".toList ++ cs) =
              Reader.run ⟨ps ++ [e.parameter], .between⟩ cs := by
            rw [Reader.run_append, show " ".toList = [' '] from rfl, Reader.run_singleton, ends.blank,
              Option.bind_some]
          refine ⟨s, ?_, by simpa using done⟩
          rw [List.map_cons, List.map_cons, String.intercalate_cons_cons, String.toList_append,
            String.toList_append, List.append_assoc, Reader.run_append, read, Option.bind_some,
            separated]
          exact others

/-- A text of sound entries with blanks between them is read to their parameters. -/
theorem parameters?_entries {entries : List Entry} (sound : ∀ e ∈ entries, e.Sound) :
    parameters? (" ".intercalate (entries.map Entry.text)) =
      some (entries.map Entry.parameter) := by
  cases entries with
  | nil => rfl
  | cons e rest =>
      obtain ⟨r, read, ends⟩ := run_entries (by simp) sound []
      exact (congrArg (·.bind Reader.finish) read).trans ends.finish

/-- Blanks around an equals sign are no part of a value, unlike one behind a backslash. -/
example : parameters? "user = a\\ b  password='it\\'s'dbname=" =
    some [("user", "a b"), ("password", "it's"), ("dbname", "")] := by decide

theorem Reader.isPlain_of_isDigit {c : Char} (digit : c.isDigit) : isPlain c := by
  rw [isPlain_iff]
  refine ⟨?_, ?_, ?_, ?_⟩
  · simp only [isBlank, List.contains_eq_mem, decide_eq_false_iff_not, List.mem_cons,
      List.not_mem_nil, or_false]
    rintro (rfl | rfl | rfl | rfl | rfl | rfl) <;> cases digit
  all_goals
    rintro rfl
    cases digit

theorem Entry.sound_quoted {key : String} (plain : Reader.isWord key.toList) (value : String) :
    (quoted key value).Sound :=
  ⟨plain, Reader.spells_quoteValue value⟩

theorem Entry.sound_bare {key value : String} (plain : Reader.isWord key.toList)
    (plainValue : Reader.isWord value.toList) : (bare key value).Sound :=
  ⟨plain, Reader.spells_bare plainValue⟩

/-- A number is written in its digits. -/
theorem Entry.sound_number {key : String} (plain : Reader.isWord key.toList) (n : Nat) :
    (bare key (toString n)).Sound := by
  refine sound_bare plain (Reader.isWord_iff.2 ?_)
  rw [Nat.toString_eq_ofList_toDigits, String.toList_ofList]
  refine ⟨Nat.toDigits_ne_nil, fun c mem => ?_⟩
  exact Reader.isPlain_of_isDigit (List.all_eq_true.1 (Numeral.toDigits_all_isDigit n) c mem)

end ConnectionText

namespace Connection

open ConnectionText

/-- The escapes between quotes can be made in two passes, if the backslashes come first: the second
pass leaves the backslashes of the first one alone. -/
theorem escapes_eq_passes (value : List Char) :
    value.flatMap escapeChar =
      (value.flatMap fun c => if c = '\\' then ['\\', '\\'] else [c]).flatMap fun c =>
        if c = '\'' then ['\\', '\''] else [c] := by
  rw [List.flatMap_assoc]
  refine congrArg value.flatMap (funext fun c => ?_)
  by_cases backslash : c = '\\'
  · rw [backslash]
    rfl
  · by_cases quote : c = '\'' <;> simp [escapeChar, backslash, quote]

/-- The parameters of a connection in the order of its text. -/
def entries (c : Connection) : List Entry :=
  [.quoted "host" c.host, .bare "port" (toString c.port.toNat), .quoted "dbname" c.database,
    .quoted "user" c.username, .quoted "password" c.password, .bare "sslmode" c.sslMode.name,
    .bare "connect_timeout" (toString c.connectTimeout.toNat)]

theorem text_eq (c : Connection) : c.text = " ".intercalate (c.entries.map Entry.text) := by
  simp only [entries, List.map_cons, List.map_nil, String.intercalate_cons_cons,
    String.intercalate_singleton, Entry.text, Entry.quoted, Entry.bare]
  unfold text
  generalize quoteValue c.host = host, toString c.port.toNat = port,
    quoteValue c.database = database, quoteValue c.username = user,
    quoteValue c.password = password, c.sslMode.name = mode,
    toString c.connectTimeout.toNat = timeout
  have keys : "host=" = "host" ++ "=" ∧ " port=" = " " ++ ("port" ++ "=") ∧
      " dbname=" = " " ++ ("dbname" ++ "=") ∧ " user=" = " " ++ ("user" ++ "=") ∧
      " password=" = " " ++ ("password" ++ "=") ∧ " sslmode=" = " " ++ ("sslmode" ++ "=") ∧
      " connect_timeout=" = " " ++ ("connect_timeout" ++ "=") := by decide
  simp only [keys, String.append_assoc]

theorem sound_entries (c : Connection) : ∀ e ∈ c.entries, e.Sound := by
  have mode : Reader.isWord c.sslMode.name.toList := by cases c.sslMode <;> decide
  simp only [entries, List.forall_mem_cons]
  exact ⟨Entry.sound_quoted (by decide) c.host,
    Entry.sound_number (by decide) c.port.toNat,
    Entry.sound_quoted (by decide) c.database,
    Entry.sound_quoted (by decide) c.username,
    Entry.sound_quoted (by decide) c.password,
    Entry.sound_bare (by decide) mode,
    Entry.sound_number (by decide) c.connectTimeout.toNat, List.forall_mem_nil _⟩

/-- The text of a connection is read to exactly its seven parameters, each once and in order, with
the texts that the connection holds; its numbers and its mode are told from their words. -/
theorem parameters?_text (c : Connection) :
    parameters? c.text = some
        [("host", c.host), ("port", toString c.port.toNat), ("dbname", c.database),
          ("user", c.username), ("password", c.password), ("sslmode", c.sslMode.name),
          ("connect_timeout", toString c.connectTimeout.toNat)] ∧
      Numeral.nat? (toString c.port.toNat).toList = some c.port.toNat ∧
      SslMode.ofName? c.sslMode.name = some c.sslMode ∧
      Numeral.nat? (toString c.connectTimeout.toNat).toList = some c.connectTimeout.toNat := by
  have number (n : Nat) : Numeral.nat? (toString n).toList = some n := by
    rw [Nat.toString_eq_ofList_toDigits, String.toList_ofList, Numeral.nat?_toDigits]
  refine ⟨?_, number _, SslMode.ofName?_name _, number _⟩
  rw [text_eq, parameters?_entries c.sound_entries]
  rfl

end Connection

end EntityQuery
