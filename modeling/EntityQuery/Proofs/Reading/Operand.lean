import EntityQuery.Proofs.Reading.Step

/-!
# Reading operands

Before an operand is read as what it is, it is tried as a text with its data type in front. Names,
literals and parentheses fail that trial without a trace, and are then read as themselves wherever
an operand ends behind them.
-/

namespace EntityQuery.ConditionText.Parse

/-- The words that start a data type. -/
def dataTypeWords : List String :=
  "ARRAY" :: (DataType.plain.map (·.1) ++ DataType.sized ++ DataType.exact ++ DataType.integers ++
    DataType.enumerations ++ typeWords)

/-- The words that start a construct. -/
def constructWords : List String :=
  ["TRUE", "FALSE", "NULL", "CURRENT_CATALOG", "CURRENT_USER", "SESSION_USER", "USER",
   "CURRENT_TIMESTAMP", "CURRENT_TIME", "CURRENT_DATE", "LOCALTIME", "LOCALTIMESTAMP", "CASE",
   "CONVERT", "CAST", "TRY_CAST", "SAFE_CAST", "EXISTS", "EXTRACT", "CEIL", "FLOOR", "POSITION",
   "SUBSTRING", "OVERLAY", "TRIM", "INTERVAL", "ARRAY", "NOT"]

variable {inner : Level} {amount : Parse Expr}

theorem construct?_of_not {name : Ident} {word : String} (h : constructWords.contains word = false)
    (ts : List Lexeme) : construct? inner amount name word ts = .ok (none, ts) := by
  unfold construct?
  split
  case h_29 => rfl
  all_goals exact absurd h (by decide)

/-- The names after points where no point comes next. -/
theorem moreParts_of_not {rest : List Lexeme} (h : symbol "." rest = .ok (false, rest))
    (n : Nat) : moreParts n rest = .ok ([], rest) := by
  cases n with
  | zero => rfl
  | succ n => simp [moreParts, h]

/-- A type has no brackets behind it where an operand ends. -/
theorem brackets_of_endsOperand {rest : List Lexeme} (h : EndsOperand rest) :
    whileSome brackets rest = .ok ([], rest) := by
  have none : symbol "[" rest = .ok (false, rest) := h.symbol rfl
  unfold whileSome
  cases rest with
  | nil => rfl
  | cons x more => simp [whileSomeAtMost, brackets, none]

/-! ## Names -/

/-- Words joined by points, and the names that they are. -/
inductive Dotted : List Lexeme → List Ident → Prop
  | one {x : Lexeme} {value capitals : String} (word : x.token = .word value false capitals) :
      Dotted [x] [⟨value, none, some x.extent⟩]
  | more {x point : Lexeme} {value capitals : String} {ls : List Lexeme} {parts : List Ident}
      (word : x.token = .word value false capitals) (dot : point.token = .symbol ".")
      (rest : Dotted ls parts) : Dotted (x :: point :: ls) (⟨value, none, some x.extent⟩ :: parts)

theorem Dotted.first_word {ls : List Lexeme} {parts : List Ident} (joined : Dotted ls parts) :
    ∃ x more value capitals, ls = x :: more ∧ x.token = .word value false capitals := by
  cases joined with
  | one word => exact ⟨_, _, _, _, rfl, word⟩
  | more word dot rest => exact ⟨_, _, _, _, rfl, word⟩

theorem ident_of_word {x : Lexeme} {value capitals : String} (rest : List Lexeme)
    (word : x.token = .word value false capitals) :
    ident (x :: rest) = .ok (⟨value, none, some x.extent⟩, rest) := by
  simp [ident, take?, word, Lexeme.ident?]

variable {ls rest : List Lexeme} {parts : List Ident}

theorem objectName_of_dotted (joined : Dotted ls parts) (ends : EndsOperand rest) :
    objectName (ls ++ rest) = .ok (parts, rest) ∧
      ∀ point : Lexeme, point.token = .symbol "." → ∀ n, ls.length ≤ n →
        moreParts n (point :: ls ++ rest) = .ok (parts, rest) := by
  have none : symbol "." rest = .ok (false, rest) := ends.symbol rfl
  induction joined with
  | one word =>
      refine ⟨?_, fun point dot n enough => ?_⟩
      · simp [objectName, ident_of_word _ word, moreParts_of_not none]
      · obtain ⟨n, rfl⟩ := Nat.exists_eq_add_of_le' enough
        simp [moreParts, symbol_of_symbol dot, ident_of_word _ word, moreParts_of_not none]
  | @more x point value capitals ls parts word dot _ ih =>
      obtain ⟨-, further⟩ := ih
      simp only [List.cons_append] at further
      refine ⟨?_, fun before first n enough => ?_⟩
      · have more := further _ dot (ls.length + rest.length + 1) (by omega)
        simp [objectName, ident_of_word _ word, more]
      · obtain ⟨n, rfl⟩ := Nat.exists_eq_add_of_le' enough
        have more := further _ dot (n + ls.length + 1) (by omega)
        change moreParts (n + ls.length + 1 + 1) _ = _
        rw [moreParts]
        simp [symbol_of_symbol first, ident_of_word _ word, more]

theorem partsAfter_of_dotted (joined : Dotted ls parts) (ends : EndsOperand rest) {point : Lexeme}
    (dot : point.token = .symbol ".") {n : Nat} (enough : ls.length ≤ n) (before : List Ident) :
    partsAfter n before (point :: ls ++ rest) = .ok ((before ++ parts, none), rest) := by
  have none : symbol "." rest = .ok (false, rest) := ends.symbol rfl
  have stop (n : Nat) (parts : List Ident) :
      partsAfter n parts rest = .ok ((parts, Option.none), rest) := by
    cases n with
    | zero => rfl
    | succ n => simp [partsAfter, none]
  induction joined generalizing point n before with
  | one word =>
      obtain ⟨n, rfl⟩ := Nat.exists_eq_add_of_le' enough
      change partsAfter (n + 1) _ _ = _
      rw [partsAfter]
      simp [symbol_of_symbol dot, take?, word, Lexeme.ident?, stop]
  | @more x next value capitals ls parts word dot' _ ih =>
      obtain ⟨n, rfl⟩ := Nat.exists_eq_add_of_le' enough
      have more := ih dot' (n := n + ls.length + 1) (by omega)
        (before ++ [⟨value, Option.none, some x.extent⟩])
      change partsAfter (n + ls.length + 1 + 1) _ _ = _
      rw [partsAfter]
      simp only [List.cons_append] at more
      simp [symbol_of_symbol dot, take?, word, Lexeme.ident?, more]

/-- A dotted name is no text with its data type in front, unless its first word starts a type. -/
theorem typedText_of_dotted (joined : Dotted ls parts)
    (notType : ∀ x ∈ ls.head?, x.token.isOneOf dataTypeWords = false) (ends : EndsOperand rest) :
    attempt (typedText amount) (ls ++ rest) = .ok (none, ls ++ rest) := by
  obtain ⟨name, -⟩ := objectName_of_dotted joined ends
  have noParenthesis : symbol "(" rest = .ok (false, rest) := ends.symbol rfl
  have named : namedType (ls ++ rest) = .ok (.named parts.head? (dotted parts), rest) := by
    simp [namedType, name, noParenthesis]
  obtain ⟨x, more, value, capitals, rfl, word⟩ := joined.first_word
  have other : dataTypeWords.contains capitals = false := by
    simpa only [word, Token.isOneOf] using notType x rfl
  have notStart : x.token.isOneOf dataTypeWords.tail = false := by
    simp only [dataTypeWords, List.contains_cons, Bool.or_eq_false_iff] at other
    simpa only [word, Token.isOneOf, dataTypeWords, List.tail_cons] using other.2
  have notArray : x.token.isKeyword "ARRAY" = false := by
    simp only [dataTypeWords, List.contains_cons, Bool.or_eq_false_iff] at other
    simpa only [word, Token.isKeyword] using other.1
  have simple : simpleType (x :: more ++ rest) = .ok (.named parts.head? (dotted parts), rest) := by
    have absent : oneOf? dataTypeWords.tail (x :: (more ++ rest)) =
        .ok (none, x :: (more ++ rest)) := by
      refine oneOf?_of_not ?_
      rintro _ ⟨⟩
      exact notStart
    simp only [dataTypeWords, List.tail_cons, List.append_assoc] at absent
    simp only [List.cons_append] at named
    simp [simpleType, absent, nextIs, word, named]
  simp only [List.cons_append] at simple
  simp [attempt, typedText, dataType, typeAndBracket, keyword, accept, notArray, simple,
    brackets_of_endsOperand ends, expected]

/-- The expression that joined names are. -/
def ofParts : List Ident → Expr
  | [name] => .ident name
  | parts => .compound parts

theorem collated_of_endsOperand (ends : EndsOperand rest) (e : Expr) :
    collated e rest = .ok (e, rest) := by
  have none : keyword "COLLATE" rest = .ok (false, rest) := ends.keyword rfl
  simp [collated, none]

theorem named_of_dotted {x : Lexeme} {value capitals : String}
    (joined : Dotted (x :: ls) parts) (word : x.token = .word value false capitals)
    (ends : EndsOperand rest) :
    named inner ⟨value, none, some x.extent⟩ (ls ++ rest) = .ok (ofParts parts, rest) := by
  have noParenthesis : ∀ x ∈ rest.head?, x.token.isSymbol "(" = false :=
    fun x first => Token.isSymbol_of_endsOperand (ends x first) (by decide)
  cases joined with
  | one word' =>
      rw [word] at word'
      cases word'
      have noCall :
          nextIs (fun t => t.isSymbol "(" || t.isSymbol ".") rest = .ok (false, rest) := by
        refine nextIs_of_not fun x first => ?_
        rw [noParenthesis x first, Token.isSymbol_of_endsOperand (ends x first) (by decide)]
        rfl
      rw [List.nil_append, named, bind_of_ok noCall, if_neg Bool.false_ne_true]
      split
      · refine (bind_of_ok (take?_of_not fun x first => ?_)).trans rfl
        have closing := ends x first
        cases same : x.token <;> simp_all [Token.endsOperand]
      · rfl
  | @more _ point _ _ ls parts word' dot further =>
      rw [word] at word'
      cases word'
      have call : nextIs (fun t => t.isSymbol "(" || t.isSymbol ".") (point :: ls ++ rest) =
          .ok (true, point :: ls ++ rest) := by
        simp [nextIs, dot, Token.isSymbol]
      have parts_eq := partsAfter_of_dotted further ends dot (n := (point :: ls ++ rest).length)
        (by simp; omega) [⟨value, none, some x.extent⟩]
      have nonempty : parts ≠ [] := by
        cases further <;> simp
      obtain ⟨second, parts, rfl⟩ := List.exists_cons_of_ne_nil nonempty
      rw [named, bind_of_ok call, if_pos rfl, bind_of_ok (get_apply _), bind_of_ok parts_eq]
      simp [nextIs_of_not noParenthesis, ofParts]

theorem isOneOf_append {t : Token} {keys more : List String}
    (h : t.isOneOf (keys ++ more) = false) : t.isOneOf keys = false ∧ t.isOneOf more = false := by
  rw [Bool.eq_false_iff] at h
  constructor <;> refine Bool.eq_false_iff.2 fun one => h (Token.isOneOf_mono ?_ one)
  · exact List.subset_append_left keys more
  · exact List.subset_append_right keys more

/-- An operand that is no text with its data type in front. -/
theorem operand_of_untyped {ts : List Lexeme}
    (h : ∀ amount, attempt (typedText amount) ts = .ok (none, ts)) {e : Expr}
    (untyped : ∀ amount, untypedOperand inner amount ts = .ok (e, rest)) :
    operand inner ts = .ok (e, rest) := by
  rw [operand, operandWithin, bind_of_ok (h _)]
  exact untyped _

/-- A dotted name is read as itself, unless its first word starts a type or a construct. -/
theorem operand_of_dotted (joined : Dotted ls parts)
    (name : ∀ x ∈ ls.head?, x.token.isOneOf (dataTypeWords ++ constructWords) = false)
    (ends : EndsOperand rest) : operand inner (ls ++ rest) = .ok (ofParts parts, rest) := by
  have noType : ∀ x ∈ ls.head?, x.token.isOneOf dataTypeWords = false :=
    fun x first => (isOneOf_append (name x first)).1
  refine operand_of_untyped (fun amount => typedText_of_dotted joined noType ends) fun amount => ?_
  obtain ⟨x, more, value, capitals, rfl, word⟩ := joined.first_word
  have noConstruct : constructWords.contains capitals = false := by
    simpa only [word, Token.isOneOf] using (isOneOf_append (name x rfl)).2
  have self : named inner ⟨value, none, some x.extent⟩ (more ++ rest) =
      .ok (ofParts parts, rest) := named_of_dotted joined word ends
  obtain ⟨token, extent⟩ := x
  obtain rfl : token = .word value false capitals := word
  rw [List.cons_append, untypedOperand]
  simp [take?, startsOperand, wordOperand, construct?_of_not noConstruct, self,
    collated_of_endsOperand ends]

/-! ## Literals -/

/-- What starts with no word is no text with its data type in front. -/
theorem typedText_of_not_word {x : Lexeme}
    (h : ∀ value quoted capitals, x.token ≠ .word value quoted capitals) (more : List Lexeme) :
    attempt (typedText amount) (x :: more) = .ok (none, x :: more) := by
  obtain ⟨token, extent⟩ := x
  cases token with
  | word value quoted capitals => exact absurd rfl (h value quoted capitals)
  | _ =>
      simp [attempt, typedText, dataType, typeAndBracket, keyword, accept, Token.isKeyword,
        simpleType, oneOf?, nextIs, expected]

/-- The tokens of literals that are no words. -/
inductive LiteralToken : Token → Constant → Prop
  | number (digits : String) : LiteralToken (.number digits false) (.number digits false)
  | text (s : String) : LiteralToken (.quotation .plain s) (.plainText s)

/-- The words of literals, in capitals. -/
inductive LiteralWord : String → Constant → Prop
  | null : LiteralWord "NULL" .null
  | true : LiteralWord "TRUE" (.boolean Bool.true)
  | false : LiteralWord "FALSE" (.boolean Bool.false)

theorem operand_of_literal {x : Lexeme} {c : Constant} (literal : LiteralToken x.token c)
    (ends : EndsOperand rest) : operand inner (x :: rest) = .ok (.constant c, rest) := by
  obtain ⟨token, extent⟩ := x
  change LiteralToken token c at literal
  refine operand_of_untyped (fun amount => typedText_of_not_word ?_ rest) fun amount => ?_
  · cases literal <;> simp
  · cases literal <;>
      simp [untypedOperand, take?, startsOperand, Token.constant?, collated_of_endsOperand ends]

theorem operand_of_literalWord {x : Lexeme} {value capitals : String} {c : Constant}
    (literal : LiteralWord capitals c) (word : x.token = .word value false capitals)
    (ends : EndsOperand rest) : operand inner (x :: rest) = .ok (.constant c, rest) := by
  have noType : ∀ y ∈ [x].head?, y.token.isOneOf dataTypeWords = false := by
    rintro _ ⟨⟩
    rw [word]
    change dataTypeWords.contains capitals = false
    cases literal <;> decide
  refine operand_of_untyped (fun amount => typedText_of_dotted (.one word) noType ends)
    fun amount => ?_
  obtain ⟨token, extent⟩ := x
  obtain rfl : token = .word value false capitals := word
  cases literal <;>
    simp [untypedOperand, take?, startsOperand, wordOperand, construct?,
      collated_of_endsOperand ends]

/-! ## Parentheses and signs -/

theorem operand_of_symbol {x : Lexeme} {text : String} (same : x.token = .symbol text)
    {ts more : List Lexeme} (starts : startsOperand (.symbol text)) {e : Expr}
    (h : symbolOperand inner text x.extent.first ts = .ok (e, more)) (ends : EndsOperand more) :
    operand inner (x :: ts) = .ok (e, more) := by
  obtain ⟨token, extent⟩ := x
  obtain rfl : token = .symbol text := same
  refine operand_of_untyped (fun amount => typedText_of_not_word (by simp) ts) fun amount => ?_
  have taken : take? startsOperand (⟨.symbol text, extent⟩ :: ts) =
      .ok (some ⟨.symbol text, extent⟩, ts) := by
    simp [take?, starts]
  rw [untypedOperand, bind_of_ok taken]
  exact (bind_of_ok h).trans (collated_of_endsOperand ends e)

/-- Whether a token ends an item of a list. -/
def Token.EndsItem (t : Token) : Prop := t = .symbol "," ∨ t = .symbol ")"

/-- One or more readings between commas, each of which stops where an item ends. -/
inductive Listed {α : Type} (p : Parse α) : List Lexeme → List α → Prop
  | one {ls : List Lexeme} {a : α}
      (item : ∀ x rest, Token.EndsItem x.token → p (ls ++ x :: rest) = .ok (a, x :: rest)) :
      Listed p ls [a]
  | more {ls ms : List Lexeme} {comma : Lexeme} {a : α} {as : List α}
      (item : ∀ x rest, Token.EndsItem x.token → p (ls ++ x :: rest) = .ok (a, x :: rest))
      (separator : comma.token = .symbol ",") (further : Listed p ms as) :
      Listed p (ls ++ comma :: ms) (a :: as)

theorem endsExpr_of_endsItem {x : Lexeme} (h : Token.EndsItem x.token) (rest : List Lexeme) :
    EndsExpr (x :: rest) ∧ nextRank (x :: rest) = 0 := by
  refine ⟨?_, ?_⟩
  · rintro _ ⟨⟩
    obtain same | same := h <;> rw [same] <;> rfl
  · obtain same | same := h <;> simp [nextRank, same, symbolStrength]

theorem separatedAtMost_of_listed {α : Type} {p : Parse α} {as : List α} (listed : Listed p ls as)
    {close : Lexeme} (closing : close.token = .symbol ")") {n : Nat} (enough : ls.length ≤ n) :
    separatedAtMost p n (ls ++ close :: rest) = .ok (as, close :: rest) := by
  have noComma : symbol "," (close :: rest) = .ok (false, close :: rest) := by
    refine symbol_of_not ?_
    rintro _ ⟨⟩
    simp [closing, Token.isSymbol]
  induction listed generalizing n with
  | one item =>
      have first := item close rest (.inr closing)
      cases n with
      | zero => simp [separatedAtMost, first]
      | succ n => simp [separatedAtMost, first, noComma]
  | @more ls ms comma a as item separator _ ih =>
      obtain ⟨n, rfl⟩ : ∃ m, n = m + 1 := ⟨n - 1, by simp at enough; omega⟩
      have first := item comma (ms ++ close :: rest) (.inl separator)
      have later := ih (n := n) (by simp at enough; omega)
      rw [List.append_assoc, List.cons_append, separatedAtMost, bind_of_ok first]
      simp [symbol_of_symbol separator, later]

/-- An expression in parentheses. -/
theorem operand_of_parentheses {opening close : Lexeme} (opens : opening.token = .symbol "(")
    (closes : close.token = .symbol ")") {e : Expr}
    (notQuery : ∀ x ∈ (ls ++ close :: rest).head?, x.token.isOneOf ["SELECT", "WITH"] = false)
    (contents : inner.expr (ls ++ close :: rest) = .ok (e, close :: rest))
    (ends : EndsOperand rest) :
    operand inner (opening :: (ls ++ close :: rest)) = .ok (.nested e, rest) := by
  have noComma : symbol "," (close :: rest) = .ok (false, close :: rest) := by
    refine symbol_of_not ?_
    rintro _ ⟨⟩
    simp [closes, Token.isSymbol]
  have noPoint : symbol "." rest = .ok (false, rest) := ends.symbol rfl
  have exprs : inner.exprs (ls ++ close :: rest) = .ok ([e], close :: rest) := by
    change separatedAtMost inner.expr (ls ++ close :: rest).length _ = _
    cases (ls ++ close :: rest).length with
    | zero => simp [separatedAtMost, contents]
    | succ n => simp [separatedAtMost, contents, noComma]
  have query : nextIsQuery (ls ++ close :: rest) = .ok (false, ls ++ close :: rest) :=
    nextIs_of_not notQuery
  refine operand_of_symbol opens rfl ?_ ends
  simp [symbolOperand, inParentheses, query, exprs, expectSymbol_of_symbol closes, noPoint]

/-- A negative number, or any other operand with a minus sign in front. -/
theorem operand_of_minus {sign : Lexeme} (minus : sign.token = .symbol "-") {ts : List Lexeme}
    {e : Expr} (contents : inner.tighter Strength.product.rank ts = .ok (e, rest))
    (ends : EndsOperand rest) : operand inner (sign :: ts) = .ok (.signed .minus e, rest) := by
  refine operand_of_symbol minus rfl ?_ ends
  simp [symbolOperand, contents]

end EntityQuery.ConditionText.Parse
