import Mathlib.Data.List.Forall2
import EntityQuery.Proofs.Reading.Phrase
import EntityQuery.Proofs.Reading.Spelling

/-!
# Written expressions

A text is a written expression if its tokens are read as one wherever the text stands and whatever
follows that breaks it off. The places of the tokens depend on where that is, so what is known of
the expression is a property and not the expression itself. One lemma for each notation says how
written expressions are put together; nothing below looks at single characters again.
-/

namespace EntityQuery.ConditionText

open Parse

/-- A text that is read as an expression with a property, whose operators bind at least as tight as
`floor`, at every level that has `need` levels inside. -/
def Written (need floor : Nat) (text : String) (P : Expr → Prop) : Prop :=
  ∀ l, ∃ ls e, (∀ after, Breaks after → Lexed l text.toList ls after) ∧ Reads need floor ls e ∧ P e

/-- A text that is read as an operand with a property. -/
def WrittenOperand (need : Nat) (text : String) (P : Expr → Prop) : Prop :=
  ∀ l, ∃ ls e, (∀ after, Breaks after → Lexed l text.toList ls after) ∧ ReadsOperand need ls e ∧ P e

/-! ## Pieces -/

section

variable {l : Location} {cs after : List Char} {ls : List Lexeme}

theorem breaks_blank : Breaks (' ' :: after) := by
  rintro _ ⟨⟩
  exact .inl rfl

theorem breaks_close : Breaks (')' :: after) := by
  rintro _ ⟨⟩
  exact .inr (.inl rfl)

theorem breaks_comma : Breaks (',' :: after) := by
  rintro _ ⟨⟩
  exact .inr (.inr rfl)

namespace Lexed

theorem blank_cons (h : Lexed (l.advanceAll [' ']) cs ls after) : Lexed l (' ' :: cs) ls after :=
  append (a := [' ']) (blank (by simp) (pieceAt_blank (cs ++ after))) h

theorem word {value : List Char} (plain : isPlainWord value) (ends : EndsWord after) :
    Lexed l value [⟨.bareWord (String.ofList value), ⟨l, l.advanceAll value⟩⟩] after :=
  token (by rintro rfl; cases plain) (pieceAt_word plain ends)

theorem keyword {key : String} (plain : isPlainWord key.toList) (capitals : Unicode.upper key = key)
    (ends : EndsWord after) :
    Lexed l key.toList [⟨.word key false key, ⟨l, l.advanceAll key.toList⟩⟩] after := by
  have read := word (l := l) plain ends
  rwa [String.ofList_toList, Token.bareWord, capitals] at read

theorem opening : Lexed l ['('] [⟨.symbol "(", ⟨l, l.advanceAll ['(']⟩⟩] after :=
  token (by simp) (pieceAt_open after)

theorem closing : Lexed l [')'] [⟨.symbol ")", ⟨l, l.advanceAll [')']⟩⟩] after :=
  token (by simp) (pieceAt_close after)

theorem comma : Lexed l [','] [⟨.symbol ",", ⟨l, l.advanceAll [',']⟩⟩] after :=
  token (by simp) (pieceAt_comma after)

end Lexed

end

theorem WrittenOperand.mono {need need' : Nat} {s : String} {P Q : Expr → Prop}
    (h : WrittenOperand need s P) (deeper : need ≤ need') (weaker : ∀ e, P e → Q e) :
    WrittenOperand need' s Q := by
  intro l
  obtain ⟨ls, e, lexed, reads, holds⟩ := h l
  exact ⟨ls, e, lexed, ⟨reads.opens, fun n rest enough => reads.reads n rest (by omega)⟩,
    weaker e holds⟩

/-! ## Operands -/

/-- The words that open something else than a name where an operand is read. -/
def reservedWords : List String :=
  ["ALL", "ANY", "ARRAY", "BIGDECIMAL", "BIGINT", "BIGNUMERIC", "BINARY", "BIT", "BLOB", "BOOL",
   "BOOLEAN", "BYTEA", "BYTES", "CASE", "CAST", "CEIL", "CHAR", "CHARACTER", "CLOB", "CONVERT",
   "CURRENT_CATALOG", "CURRENT_DATE", "CURRENT_TIME", "CURRENT_TIMESTAMP", "CURRENT_USER", "DATE",
   "DATE32", "DATETIME", "DATETIME64", "DEC", "DECIMAL", "DOUBLE", "ENUM", "ENUM16", "ENUM8",
   "EXISTS", "EXTRACT", "FALSE", "FIXEDSTRING", "FLOAT", "FLOAT32", "FLOAT4", "FLOAT64", "FLOAT8",
   "FLOOR", "INT", "INT128", "INT16", "INT2", "INT256", "INT32", "INT4", "INT64", "INT8", "INTEGER",
   "INTERVAL", "JSON", "JSONB", "LOCALTIME", "LOCALTIMESTAMP", "LONGBLOB", "LONGTEXT", "MEDIUMBLOB",
   "MEDIUMINT", "MEDIUMTEXT", "NOT", "NULL", "NUMERIC", "NVARCHAR", "OVERLAY", "POSITION", "REAL",
   "REGCLASS", "SAFE_CAST", "SELECT", "SESSION_USER", "SET", "SMALLINT", "SOME", "STRING",
   "SUBSTRING", "TEXT", "TIME", "TIMESTAMP", "TIMESTAMPTZ", "TIMETZ", "TINYBLOB", "TINYINT",
   "TINYTEXT", "TRIGGER", "TRIM", "TRUE", "TRY_CAST", "UINT128", "UINT16", "UINT256", "UINT32",
   "UINT64", "UINT8", "USER", "UUID", "VARBINARY", "VARCHAR", "WITH"]

/-- Every reserved word is a keyword; most keywords are not reserved. -/
theorem reservedWords_subset : reservedWords ⊆ allKeywords := by
  have sublist : reservedWords.isSublist allKeywords := by decide +kernel
  exact (List.isSublist_iff_sublist.1 sublist).subset

theorem not_opening_of_not_reserved {word : String} (free : word ∉ reservedWords) :
    word ∉ openingWords := by
  have within : openingWords ⊆ reservedWords := by decide +kernel
  exact fun mem => free (within mem)

theorem not_construct_of_not_reserved {word : String} (free : word ∉ reservedWords) :
    word ∉ dataTypeWords ++ constructWords := by
  have within : dataTypeWords ++ constructWords ⊆ reservedWords := by decide +kernel
  exact fun mem => free (within mem)

theorem ReadsOperand.dotted_of_free {x : Lexeme} {value capitals : String} {more : List Lexeme}
    {parts : List Ident} (word : x.token = .word value false capitals)
    (free : capitals ∉ reservedWords) (joined : Dotted (x :: more) parts) :
    ReadsOperand 0 (x :: more) (ofParts parts) := by
  have noOpening := not_opening_of_not_reserved free
  have noConstruct := not_construct_of_not_reserved free
  refine .dotted joined ⟨x, more, rfl, ?_⟩ ?_
  · simpa [word, Token.isOneOf] using noOpening
  · rintro _ ⟨⟩
    simpa [word, Token.isOneOf] using noConstruct

/-- A name, where it is no reserved word. -/
theorem WrittenOperand.name {name : String} (plain : isPlainWord name.toList)
    (free : Unicode.upper name ∉ reservedWords) :
    WrittenOperand 0 name fun e => ∃ extent, e = .ident ⟨name, none, extent⟩ := by
  intro l
  refine ⟨[⟨.bareWord name, ⟨l, l.advanceAll name.toList⟩⟩], _, fun after breaks => ?_,
    .dotted_of_free rfl free (.one rfl), _, rfl⟩
  simpa using Lexed.word (l := l) plain breaks.endsWord

/-- A column behind the name of its table. The column may have the name of a keyword. -/
theorem WrittenOperand.qualified {table column : String} (plain : isPlainWord table.toList)
    (free : Unicode.upper table ∉ reservedWords) (plain' : isPlainWord column.toList) :
    WrittenOperand 0 (table ++ "." ++ column) fun e =>
      ∃ extent extent', e = .compound [⟨table, none, extent⟩, ⟨column, none, extent'⟩] := by
  intro l
  let middle := l.advanceAll table.toList
  let last := middle.advanceAll ['.']
  refine ⟨[⟨.bareWord table, ⟨l, middle⟩⟩, ⟨.symbol ".", ⟨middle, last⟩⟩,
    ⟨.bareWord column, ⟨last, last.advanceAll column.toList⟩⟩], _, fun after breaks => ?_,
    .dotted_of_free rfl free (.more rfl rfl (.one rfl)), _, _, rfl⟩
  have whole : (table ++ "." ++ column).toList = table.toList ++ (['.'] ++ column.toList) := by
    simp
  have point : Lexed middle ['.'] [⟨.symbol ".", ⟨middle, last⟩⟩] (column.toList ++ after) := by
    refine .token (by simp) ?_
    obtain ⟨c, cs, same⟩ : ∃ c cs, column.toList = c :: cs := by
      refine List.exists_cons_of_ne_nil ?_
      rintro empty
      rw [empty] at plain'
      cases plain'
    rw [same] at plain' ⊢
    simp only [isPlainWord, Bool.and_eq_true] at plain'
    exact pieceAt_point plain'.1 (cs ++ after)
  have first : Lexed l table.toList [⟨.bareWord table, ⟨l, middle⟩⟩]
      (['.'] ++ column.toList ++ after) := by
    have ends : EndsWord (['.'] ++ column.toList ++ after) := by
      rintro _ ⟨⟩
      decide
    simpa using Lexed.word (l := l) plain ends
  rw [whole]
  exact .append first (.append point (by simpa using Lexed.word plain' breaks.endsWord))

/-- A number without a sign. -/
theorem WrittenOperand.number {digits : String} (plain : IsPlainNumber digits.toList) :
    WrittenOperand 0 digits (· = .constant (.number digits false)) := by
  intro l
  refine ⟨[⟨.number digits false, ⟨l, l.advanceAll digits.toList⟩⟩], _, fun after breaks => ?_,
    .literal (.number digits), rfl⟩
  have piece := pieceAt_number plain breaks
  rw [String.ofList_toList] at piece
  exact .token plain.ne_nil piece

/-- A number with a minus sign. -/
theorem WrittenOperand.negative {digits : String} (plain : IsPlainNumber digits.toList) :
    WrittenOperand 1 ("-" ++ digits) (· = .signed .minus (.constant (.number digits false))) := by
  intro l
  obtain ⟨ls, e, lexed, reads, rfl⟩ := number plain (l.advanceAll ['-'])
  refine ⟨⟨.symbol "-", ⟨l, l.advanceAll ['-']⟩⟩ :: ls, _, fun after breaks => ?_,
    reads.minus rfl, rfl⟩
  have whole : ("-" ++ digits).toList = ['-'] ++ digits.toList := by simp
  have sign : Lexed l ['-'] [⟨.symbol "-", ⟨l, l.advanceAll ['-']⟩⟩] (digits.toList ++ after) := by
    obtain ⟨c, cs, same, digit⟩ := plain.exists_cons
    rw [same]
    exact .token (by simp) (pieceAt_minus digit (cs ++ after))
  rw [whole]
  exact .append sign (lexed after breaks)

/-- A quoted text. -/
theorem WrittenOperand.text (s : String) :
    WrittenOperand 0 (Value.quoteText s) (· = .constant (.plainText s)) := by
  intro l
  refine ⟨[⟨.quotation .plain s, ⟨l, l.advanceAll (Value.quoteText s).toList⟩⟩], _,
    fun after breaks => ?_, .literal (.text s), rfl⟩
  exact .token (by simp [toList_quoteText]) (pieceAt_quoteText s breaks)

/-- A word that is a constant. -/
theorem WrittenOperand.word {word : String} {c : Constant} (literal : LiteralWord word c) :
    WrittenOperand 0 word (· = .constant c) := by
  intro l
  refine ⟨[⟨.word word false word, ⟨l, l.advanceAll word.toList⟩⟩], _, fun after breaks => ?_,
    .literalWord literal rfl, rfl⟩
  cases literal <;> exact .keyword (by decide) (by decide) breaks.endsWord

/-! ## Notations -/

variable {need need' floor floor' : Nat} {s t : String} {P Q R : Expr → Prop}

theorem Written.mono (h : Written need floor s P) (deeper : need ≤ need') (lower : floor' ≤ floor)
    (weaker : ∀ e, P e → Q e) : Written need' floor' s Q := by
  intro l
  obtain ⟨ls, e, lexed, reads, holds⟩ := h l
  exact ⟨ls, e, lexed, reads.mono deeper lower, weaker e holds⟩

theorem WrittenOperand.toWritten (h : WrittenOperand need s P) (floor : Nat) :
    Written need floor s P := by
  intro l
  obtain ⟨ls, e, lexed, reads, holds⟩ := h l
  exact ⟨ls, e, lexed, reads.toReads floor, holds⟩

/-- Two written parts with something between them that has a blank on either side. -/
theorem lexed_between {l : Location} {mid : String} {ls xs ms : List Lexeme}
    (front : ∀ after, Breaks after → Lexed l s.toList ls after)
    (middle : ∀ after,
      Lexed ((l.advanceAll s.toList).advanceAll [' ']) mid.toList xs (' ' :: after))
    (back : ∀ after, Breaks after →
      Lexed ((((l.advanceAll s.toList).advanceAll [' ']).advanceAll mid.toList).advanceAll [' '])
        t.toList ms after) (after : List Char) (breaks : Breaks after) :
    Lexed l (s ++ " " ++ mid ++ " " ++ t).toList (ls ++ (xs ++ ms)) after := by
  have whole : (s ++ " " ++ mid ++ " " ++ t).toList =
      s.toList ++ (' ' :: (mid.toList ++ (' ' :: t.toList))) := by
    simp
  rw [whole]
  exact .append (front _ breaks_blank)
    (.blank_cons (.append (middle _) (.blank_cons (back after breaks))))

/-- Where the part behind the middle one starts. -/
def behind (l : Location) (s mid : String) : Location :=
  (((l.advanceAll s.toList).advanceAll [' ']).advanceAll mid.toList).advanceAll [' ']

/-- A comparison: a blank stands on either side of its operator. -/
theorem WrittenOperand.comparison {op : String} {binary : BinaryOp}
    (symbol : ComparisonSymbol op binary) (left : WrittenOperand need s P)
    (right : Written need' floor t Q) (high : Strength.comparison.rank < floor)
    (holds : ∀ e e', P e → Q e' → R (.binary e binary e')) :
    Written (max need (need' + 1)) Strength.comparison.rank (s ++ " " ++ op ++ " " ++ t) R := by
  intro l
  obtain ⟨ls, e, front, reads, p⟩ := left l
  obtain ⟨ms, e', back, reads', q⟩ := right (behind l s op)
  have listed : op ∈ ["=", "<>", "<", "<=", ">", ">="] := by cases symbol <;> decide
  have middle (l : Location) (after : List Char) :
      Lexed l op.toList [⟨.symbol op, ⟨l, l.advanceAll op.toList⟩⟩] (' ' :: after) := by
    refine .token (by cases symbol <;> decide) ?_
    rw [pieceAt_operator listed, String.length_toList]
  exact ⟨_, _, lexed_between front (middle _) back,
    .comparison symbol rfl reads reads' high, holds e e' p q⟩

/-- A connective of two members. -/
theorem Written.connective {word : String} {op : BinaryOp} {rank : Nat}
    (connective : Connective word op rank) (left : Written need floor s P) (low : rank ≤ floor)
    (right : Written need' floor' t Q) (high : rank < floor')
    (holds : ∀ e e', P e → Q e' → R (.binary e op e')) :
    Written (max need (need' + 1)) rank (s ++ " " ++ word ++ " " ++ t) R := by
  intro l
  obtain ⟨ls, e, front, reads, p⟩ := left l
  obtain ⟨ms, e', back, reads', q⟩ := right (behind l s word)
  have middle (l : Location) (after : List Char) :
      Lexed l word.toList [⟨.word word false word, ⟨l, l.advanceAll word.toList⟩⟩]
        (' ' :: after) := by
    cases connective <;> exact .keyword (by decide) (by decide) breaks_blank.endsWord
  exact ⟨_, _, lexed_between front (middle _) back, reads.connective connective rfl low reads' high,
    holds e e' p q⟩

/-- A chain of a connective: each further member is combined with everything in front of it. What
is known of the members is a property of the whole list at the end. -/
theorem Written.chain {α : Type} {word : String} {op : BinaryOp} {rank : Nat}
    (connective : Connective word op rank) {text : α → String} {Q : α → Expr → Prop}
    {R : List α → Expr → Prop}
    (more : ∀ done a e e', R done e → Q a e' → R (done ++ [a]) (.binary e op e'))
    {done as : List α} (front : Written need rank s (R done)) (high : rank < floor)
    (items : ∀ a ∈ as, ∃ n, n < need ∧ Written n floor (text a) (Q a)) :
    Written need rank (as.foldl (fun s a => s ++ (" " ++ word ++ " ") ++ text a) s)
      (R (done ++ as)) := by
  induction as generalizing s done with
  | nil => simpa using front
  | cons a as ih =>
      obtain ⟨n, lower, written⟩ := items a List.mem_cons_self
      have longer : Written need rank (s ++ (" " ++ word ++ " ") ++ text a) (R (done ++ [a])) := by
        have step := front.connective connective (Nat.le_refl rank) written high (more done a)
        simp only [← String.append_assoc]
        exact step.mono (by omega) (Nat.le_refl rank) fun _ => id
      have whole := ih longer fun b mem => items b (List.mem_cons_of_mem a mem)
      rwa [List.append_assoc, List.singleton_append] at whole

theorem intercalate_cons_eq_foldl (separator first : String) (others : List String) :
    separator.intercalate (first :: others) =
      others.foldl (fun s t => s ++ separator ++ t) first := by
  induction others generalizing first with
  | nil => simp
  | cons t others ih =>
      rw [List.foldl_cons, ← ih, String.intercalate_cons_cons]
      cases others <;> simp [String.intercalate_cons_cons, String.append_assoc]

/-- The spellings of a word behind an operand. -/
inductive NegatableText (word : String) : String → Bool → Prop
  | plain : NegatableText word word false
  | negated : NegatableText word ("NOT" ++ " " ++ word) true

theorem lexed_negatable {word text : String} {negated : Bool}
    (words : NegatableText word text negated) (within : word ∈ ["IN", "LIKE", "NULL"])
    (l : Location) : ∃ ws, Negatable word ws negated ∧
      ∀ after, EndsWord after → Lexed l text.toList ws after := by
  have keyword (l : Location) (after : List Char) (ends : EndsWord after) : Lexed l word.toList
      [⟨.word word false word, ⟨l, l.advanceAll word.toList⟩⟩] after := by
    simp only [List.mem_cons, List.not_mem_nil, or_false] at within
    obtain rfl | rfl | rfl := within <;> exact .keyword (by decide) (by decide) ends
  cases words with
  | plain => exact ⟨_, .plain rfl, keyword l⟩
  | negated =>
      have whole : ("NOT" ++ " " ++ word).toList = "NOT".toList ++ (' ' :: word.toList) := by simp
      have negation (after : List Char) :
          Lexed l "NOT".toList [⟨.word "NOT" false "NOT", ⟨l, l.advanceAll "NOT".toList⟩⟩]
            (' ' :: (word.toList ++ after)) :=
        .keyword (by decide) (by decide) breaks_blank.endsWord
      rw [whole]
      exact ⟨_, .negated rfl rfl, fun after ends =>
        .append (negation after) (.blank_cons (keyword _ after ends))⟩

/-- A pattern test. -/
theorem WrittenOperand.pattern {text : String} {negated : Bool}
    (words : NegatableText "LIKE" text negated) (left : WrittenOperand need s P)
    (right : Written need' floor t Q) (high : Strength.membership.rank < floor)
    (holds : ∀ e e', P e → Q e' → R (.like negated false e e' none)) :
    Written (max need (need' + 1)) Strength.membership.rank (s ++ " " ++ text ++ " " ++ t) R := by
  intro l
  obtain ⟨ls, e, front, reads, p⟩ := left l
  obtain ⟨ms, e', back, reads', q⟩ := right (behind l s text)
  obtain ⟨ws, spelled, middle⟩ := lexed_negatable words (by decide)
    ((l.advanceAll s.toList).advanceAll [' '])
  exact ⟨_, _, lexed_between front (fun after => middle _ breaks_blank.endsWord) back,
    .pattern spelled reads reads' high, holds e e' p q⟩

/-- A test for being null. -/
theorem WrittenOperand.nullTest {text : String} {negated : Bool}
    (words : NegatableText "NULL" text negated) (operand : WrittenOperand need s P)
    (holds : ∀ e, P e → R (.isNull e negated)) :
    Written need Strength.test.rank (s ++ " " ++ "IS" ++ " " ++ text) R := by
  intro l
  obtain ⟨ls, e, front, reads, p⟩ := operand l
  obtain ⟨ws, spelled, back⟩ := lexed_negatable words (by decide) (behind l s "IS")
  have middle (l : Location) (after : List Char) :
      Lexed l "IS".toList [⟨.word "IS" false "IS", ⟨l, l.advanceAll "IS".toList⟩⟩] (' ' :: after) :=
    .keyword (by decide) (by decide) breaks_blank.endsWord
  refine ⟨_, _, lexed_between front (middle _) fun after breaks => back after breaks.endsWord,
    .nullTest ?_ reads, holds e p⟩
  cases spelled with
  | plain same => exact .isNull rfl same
  | negated first second => exact .isNotNull rfl first second

/-! ## Parentheses and lists -/

theorem lexed_parentheses {l : Location} {ls : List Lexeme}
    (contents : ∀ after, Lexed (l.advanceAll ['(']) s.toList ls (')' :: after)) :
    ∃ opening close, opening.token = .symbol "(" ∧ close.token = .symbol ")" ∧
      ∀ after, Lexed l ("(" ++ s ++ ")").toList (opening :: (ls ++ [close])) after := by
  have whole : ("(" ++ s ++ ")").toList = ['('] ++ (s.toList ++ [')']) := by simp
  rw [whole]
  refine ⟨⟨.symbol "(", ⟨l, l.advanceAll ['(']⟩⟩,
    ⟨.symbol ")", ⟨(l.advanceAll ['(']).advanceAll s.toList,
      ((l.advanceAll ['(']).advanceAll s.toList).advanceAll [')']⟩⟩, rfl, rfl, fun after => ?_⟩
  exact .append .opening (.append (contents after) .closing)

/-- A text that is read as an expression with a property in front of a closing parenthesis. -/
def Enclosed (need : Nat) (text : String) (P : Expr → Prop) : Prop :=
  ∀ l, ∃ ls e, Opens ls ∧ (∀ after, Lexed l text.toList ls (')' :: after)) ∧
    (∀ n close rest, need < n → close.token = .symbol ")" →
      (level n).expr (ls ++ close :: rest) = .ok (e, close :: rest)) ∧ P e

theorem Written.enclosed (h : Written need floor s P) (some : 0 < floor) : Enclosed need s P := by
  intro l
  obtain ⟨ls, e, lexed, reads, holds⟩ := h l
  refine ⟨ls, e, reads.opens, fun after => lexed _ breaks_close,
    fun n close rest enough closes => ?_, holds⟩
  exact reads.item some enough close rest (.inr closes)

/-- An expression in parentheses. -/
theorem Enclosed.parentheses (h : Enclosed need s P) (holds : ∀ e, P e → R (.nested e)) :
    WrittenOperand (need + 1) ("(" ++ s ++ ")") R := by
  intro l
  obtain ⟨ls, e, opens, contents, reads, p⟩ := h (l.advanceAll ['('])
  obtain ⟨opening, close, opening', closes, lexed⟩ :=
    lexed_parentheses fun rest => contents rest
  exact ⟨_, _, fun after _ => lexed after,
    .parentheses opening' closes opens fun n rest enough => reads n close rest enough closes,
    holds e p⟩

/-- Written expressions between commas, each with its own property. -/
theorem written_list {α : Type} {text : α → String} {P : α → Expr → Prop} {as : List α}
    (nonempty : as ≠ []) (some : 0 < floor) (h : ∀ a ∈ as, Written need floor (text a) (P a))
    (l : Location) : ∃ ls es,
      (∀ after, Breaks after → Lexed l (", ".intercalate (as.map text)).toList ls after) ∧
        Opens ls ∧ (∀ n, need < n → Listed (level n).expr ls es) ∧ List.Forall₂ P as es := by
  induction as generalizing l with
  | nil => exact absurd rfl nonempty
  | cons a as ih =>
      obtain ⟨ls, e, lexed, reads, p⟩ := h a List.mem_cons_self l
      cases as with
      | nil =>
          refine ⟨ls, [e], by simpa using lexed, reads.opens, fun n enough => ?_, .cons p .nil⟩
          exact .one (reads.item some enough)
      | cons b as =>
          have further := ih (by simp) fun a mem => h a (List.mem_cons_of_mem _ mem)
          obtain ⟨ms, es, lexed', -, listed, ps⟩ :=
            further (((l.advanceAll (text a).toList).advanceAll [',']).advanceAll [' '])
          let comma : Lexeme := ⟨.symbol ",", ⟨l.advanceAll (text a).toList,
            (l.advanceAll (text a).toList).advanceAll [',']⟩⟩
          refine ⟨ls ++ comma :: ms, e :: es, fun after breaks => ?_, reads.opens.append _,
            fun n enough => .more (reads.item some enough) rfl (listed n enough), .cons p ps⟩
          have whole : (", ".intercalate ((a :: b :: as).map text)).toList =
              (text a).toList ++
                ([','] ++ (' ' :: (", ".intercalate ((b :: as).map text)).toList)) := by
            simp [String.intercalate_cons_cons]
          rw [whole]
          exact .append (lexed _ breaks_comma) (.append .comma (.blank_cons (lexed' after breaks)))

/-- A membership test. -/
theorem WrittenOperand.membership {α : Type} {text : α → String} {Q : α → Expr → Prop}
    {as : List α} {words : String} {negated : Bool} (spelling : NegatableText "IN" words negated)
    (left : WrittenOperand need s P) (nonempty : as ≠ []) (some : 0 < floor)
    (items : ∀ a ∈ as, Written need' floor (text a) (Q a))
    (holds : ∀ e es, P e → List.Forall₂ Q as es → R (.inList e es negated)) :
    Written (max need (need' + 1)) Strength.membership.rank
      (s ++ " " ++ words ++ " " ++ ("(" ++ ", ".intercalate (as.map text) ++ ")")) R := by
  intro l
  obtain ⟨ls, e, front, reads, p⟩ := left l
  obtain ⟨ms, es, contents, opens, listed, qs⟩ :=
    written_list nonempty some items ((behind l s words).advanceAll ['('])
  obtain ⟨ws, spelled, middle⟩ := lexed_negatable spelling (by decide)
    ((l.advanceAll s.toList).advanceAll [' '])
  obtain ⟨opening, close, opens', closes, back⟩ :=
    lexed_parentheses fun after => contents _ breaks_close
  exact ⟨_, _, lexed_between front (fun after => middle _ breaks_blank.endsWord)
    fun after _ => back after, .membership spelled reads opens' closes opens listed,
    holds e es p qs⟩

end EntityQuery.ConditionText
