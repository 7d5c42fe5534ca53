import EntityQuery.ConditionText.FurtherStatement
import EntityQuery.Proofs.Reading.Operand

/-!
# Reading expressions

Tokens that are read as an expression are read so wherever an expression ends behind them, below
every rank that their operators bind tighter than, and from some level of nesting on. That is
`Reads`; it is closed under the operators, with the rank of an operator as the floor of what it
forms. Every operator takes what stands in front of it once that has been read, so a chain of equal
connectives groups to the left.
-/

namespace EntityQuery.ConditionText

open Parse

/-- The words that open something else than an expression: a query, or all rows of one. -/
def openingWords : List String := ["SELECT", "WITH", "ANY", "ALL", "SOME"]

/-- Tokens that an expression can start with. -/
def Opens (ls : List Lexeme) : Prop :=
  ∃ x more, ls = x :: more ∧ x.token.isOneOf openingWords = false

/-- Tokens that are read as an operand, at every level that has `need` levels inside. -/
structure ReadsOperand (need : Nat) (ls : List Lexeme) (e : Expr) : Prop where
  opens : Opens ls
  reads : ∀ n rest, need ≤ n → EndsOperand rest → operand (level n) (ls ++ rest) = .ok (e, rest)

/-- Tokens that are read as an expression whose operators bind at least as tight as `floor`, at
every level that has `need` levels inside. Below that rank reading may go on with operations that
do not bind tighter. -/
structure Reads (need floor : Nat) (ls : List Lexeme) (e : Expr) : Prop where
  opens : Opens ls
  reads : ∀ n rank rest, need ≤ n → rank < floor → EndsExpr rest → nextRank rest ≤ floor →
    ∃ fuel, rest.length ≤ fuel ∧
      expression (level n) rank (ls ++ rest) = operations (level n) rank fuel e rest

section

variable {need need' floor floor' : Nat} {ls ms : List Lexeme} {e e' : Expr} {rest : List Lexeme}

theorem Opens.append (h : Opens ls) (ms : List Lexeme) : Opens (ls ++ ms) := by
  obtain ⟨x, more, rfl, other⟩ := h
  exact ⟨x, more ++ ms, rfl, other⟩

theorem Opens.not_oneOf (h : Opens ls) {keys : List String} (within : keys ⊆ openingWords)
    (rest : List Lexeme) : ∀ x ∈ (ls ++ rest).head?, x.token.isOneOf keys = false := by
  obtain ⟨x, more, rfl, other⟩ := h
  rintro _ ⟨⟩
  exact Bool.eq_false_iff.2 fun one => Bool.eq_false_iff.1 other (Token.isOneOf_mono within one)

theorem Opens.not_keyword (h : Opens ls) {key : String} (within : key ∈ openingWords)
    (rest : List Lexeme) : ∀ x ∈ (ls ++ rest).head?, x.token.isKeyword key = false := by
  obtain ⟨x, more, rfl, other⟩ := h
  rintro _ ⟨⟩
  exact Bool.eq_false_iff.2 fun keyword =>
    Bool.eq_false_iff.1 other (Token.isOneOf_of_isKeyword keyword within)

theorem ReadsOperand.toReads (h : ReadsOperand need ls e) (floor : Nat) :
    Reads need floor ls e where
  opens := h.opens
  reads n _ rest enough _ ends _ :=
    ⟨rest.length, Nat.le_refl _, expression_of_operand (h.reads n rest enough ends.endsOperand)⟩

theorem Reads.mono (h : Reads need floor ls e) (deeper : need ≤ need') (lower : floor' ≤ floor) :
    Reads need' floor' ls e where
  opens := h.opens
  reads n rank rest enough below ends next :=
    h.reads n rank rest (Nat.le_trans deeper enough) (Nat.lt_of_lt_of_le below lower) ends
      (Nat.le_trans next lower)

/-- Read inside another expression, where nothing that follows binds tighter than the rank, the
expression is complete. -/
theorem Reads.tighter (h : Reads need floor ls e) {n rank : Nat} (enough : need < n)
    (below : rank < floor) (ends : EndsExpr rest) (stops : nextRank rest ≤ rank) :
    (level n).tighter rank (ls ++ rest) = .ok (e, rest) := by
  obtain ⟨n, rfl⟩ := Nat.exists_eq_add_of_lt enough
  obtain ⟨fuel, -, read⟩ := h.reads (need + n) rank rest (by omega) below ends
    (Nat.le_of_lt (Nat.lt_of_le_of_lt stops below))
  exact read.trans (operations_of_nextRank_le stops fuel e)

theorem EndsExpr.nextRank_le (h : EndsExpr rest) {rank : Nat} (high : 20 ≤ rank) :
    nextRank rest ≤ rank :=
  Nat.le_trans (nextRank_of_endsExpr h) high

/-! ## Comparisons -/

/-- An operand with one operation behind it. -/
theorem ReadsOperand.operation (target : ReadsOperand need ls e) (ms : List Lexeme) {rank : Nat}
    (ends : ∀ rest, EndsOperand (ms ++ rest)) (next : ∀ rest, nextRank (ms ++ rest) = rank)
    (nonempty : ms ≠ [])
    (h : ∀ n rest, need' ≤ n → EndsExpr rest →
      Parse.operation (level n) e rank (ms ++ rest) = .ok (e', rest)) :
    Reads (max need need') rank (ls ++ ms) e' where
  opens := target.opens.append ms
  reads n lower rest enough below closes _ := by
    have operand := target.reads n (ms ++ rest) (by omega) (ends rest)
    obtain ⟨fuel, same⟩ : ∃ fuel, (ms ++ rest).length = fuel + 1 :=
      Nat.exists_eq_succ_of_ne_zero (by simp [nonempty])
    have more : rest.length ≤ fuel := by
      have : 0 < ms.length := List.length_pos_iff.2 nonempty
      rw [List.length_append] at same
      omega
    refine ⟨fuel, more, ?_⟩
    rw [List.append_assoc, expression_of_operand operand, same,
      operations_of_lt_nextRank (by rw [next]; exact below), next]
    exact bind_of_ok (h n rest (by omega) closes)

/-- The operators that compare two operands, each with what it is read as. -/
inductive ComparisonSymbol : String → BinaryOp → Prop
  | eq : ComparisonSymbol "=" .eq
  | notEq : ComparisonSymbol "<>" .notEq
  | lt : ComparisonSymbol "<" .lt
  | ltEq : ComparisonSymbol "<=" .ltEq
  | gt : ComparisonSymbol ">" .gt
  | gtEq : ComparisonSymbol ">=" .gtEq

/-- The right side of an operator, which is no test of all rows of a query. -/
theorem Reads.rightSide (h : Reads need floor ls e) {n rank : Nat} (enough : need < n)
    (below : rank < floor) (ends : EndsExpr rest) (stops : nextRank rest ≤ rank) (left : Expr)
    (op : BinaryOp) (place : Location) :
    Parse.rightSide (level n) left op place rank (ls ++ rest) = .ok (.binary left op e, rest) := by
  have noRows : oneOf? ["ANY", "ALL", "SOME"] (ls ++ rest) = .ok (none, ls ++ rest) :=
    oneOf?_of_not (h.opens.not_oneOf (by decide) rest)
  rw [Parse.rightSide, bind_of_ok noRows]
  simp [h.tighter enough below ends stops]

theorem operation_of_binary {inner : Level} {x : Lexeme} {op : BinaryOp}
    (operator : binaryOp? x.token = some op) (noWord : x.token.isOneOf negatableWords = false)
    (e : Expr) (rank : Nat) (ts : List Lexeme) :
    operation inner e rank (x :: ts) = Parse.rightSide inner e op x.extent.first rank ts := by
  have notWord : nextIs (·.isOneOf negatableWords) (x :: ts) = .ok (false, x :: ts) := by
    refine nextIs_of_not ?_
    rintro _ ⟨⟩
    exact noWord
  have taken : take? (fun _ => true) (x :: ts) = .ok (some x, ts) := rfl
  rw [operation, bind_of_ok notWord, if_neg Bool.false_ne_true, bind_of_ok taken]
  simp only [operator]

/-- A comparison of an operand with an expression that binds tighter. -/
theorem Reads.comparison {op : Lexeme} {text : String} {binary : BinaryOp}
    (symbol : ComparisonSymbol text binary) (same : op.token = .symbol text)
    (left : ReadsOperand need ls e) (right : Reads need' floor ms e')
    (high : Strength.comparison.rank < floor) :
    Reads (max need (need' + 1)) Strength.comparison.rank (ls ++ op :: ms)
      (.binary e binary e') := by
  refine left.operation (op :: ms) (fun rest => ?_) (fun rest => ?_) (by simp)
    fun n rest enough closes => ?_
  · rintro _ ⟨⟩
    rw [same]
    cases symbol <;> rfl
  · cases symbol <;> simp [nextRank, same, symbolStrength]
  · have operator : binaryOp? op.token = some binary := by
      rw [same]
      cases symbol <;> rfl
    rw [List.cons_append, operation_of_binary operator (by rw [same]; rfl)]
    exact right.rightSide (Nat.lt_of_succ_le enough) high closes (closes.nextRank_le (by decide))
      e binary _

/-- The words behind an operand that test it for being null. -/
inductive NullTest : List Lexeme → Bool → Prop
  | isNull {a b : Lexeme} {v w : String} (first : a.token = .word v false "IS")
      (second : b.token = .word w false "NULL") : NullTest [a, b] false
  | isNotNull {a b c : Lexeme} {v w u : String} (first : a.token = .word v false "IS")
      (second : b.token = .word w false "NOT") (third : c.token = .word u false "NULL") :
      NullTest [a, b, c] true

theorem operation_of_word {inner : Level} {x : Lexeme} {value capitals : String}
    (word : x.token = .word value false capitals)
    (other : negatableWords.contains capitals = false)
    (noOperator : binaryOp? (.word value false capitals) = none) (e : Expr) (rank : Nat)
    (ts : List Lexeme) :
    operation inner e rank (x :: ts) =
      wordOperation inner e rank value capitals x.extent.first ts := by
  have notWord : nextIs (·.isOneOf negatableWords) (x :: ts) = .ok (false, x :: ts) := by
    refine nextIs_of_not ?_
    rintro _ ⟨⟩
    rw [word]
    exact other
  have taken : take? (fun _ => true) (x :: ts) = .ok (some x, ts) := rfl
  rw [operation, bind_of_ok notWord, if_neg Bool.false_ne_true, bind_of_ok taken]
  simp [word, noOperator]

/-- A test of an operand for being null. -/
theorem Reads.nullTest {negated : Bool} (test : NullTest ms negated)
    (operand : ReadsOperand need ls e) :
    Reads need Strength.test.rank (ls ++ ms) (.isNull e negated) := by
  suffices read : Reads (max need 0) Strength.test.rank (ls ++ ms) (.isNull e negated) by
    simpa using read
  refine operand.operation ms (fun rest => ?_) (fun rest => ?_) (by cases test <;> simp)
    fun n rest _ _ => ?_
  · cases test with
    | isNull first _ =>
        rintro _ ⟨⟩
        rw [first]
        rfl
    | isNotNull first _ _ =>
        rintro _ ⟨⟩
        rw [first]
        rfl
  · cases test with
    | isNull first _ => simp [nextRank, first, wordStrength]
    | isNotNull first _ _ => simp [nextRank, first, wordStrength]
  · cases test with
    | isNull first second =>
        rw [List.cons_append, operation_of_word first rfl rfl]
        change Parse.test (level n) e _ = _
        rw [Parse.test, List.cons_append, bind_of_ok (keyword_of_word second _)]
        rfl
    | @isNotNull a b c v w u first second third =>
        have notNull : keyword "NULL" (b :: c :: rest) = .ok (false, b :: c :: rest) := by
          refine keyword_of_not ?_
          rintro _ ⟨⟩
          rw [second]
          rfl
        have negation : keywords ["NOT", "NULL"] (b :: c :: rest) = .ok (true, rest) := by
          simp [keywords, afterKeywords, second, third, Token.isKeyword]
        rw [List.cons_append, operation_of_word first rfl rfl]
        change Parse.test (level n) e (b :: c :: rest) = _
        rw [Parse.test, bind_of_ok notNull, if_neg Bool.false_ne_true, bind_of_ok negation]
        rfl

/-- A word behind an operand, with or without a negation in front. -/
inductive Negatable (word : String) : List Lexeme → Bool → Prop
  | plain {a : Lexeme} {v : String} (same : a.token = .word v false word) :
      Negatable word [a] false
  | negated {a b : Lexeme} {v w : String} (first : a.token = .word v false "NOT")
      (same : b.token = .word w false word) : Negatable word [a, b] true

/-- A membership test or a pattern test is one operation, of the same rank with and without a
negation. -/
theorem Reads.negatable {word : String} {ws : List Lexeme} {negated : Bool}
    (words : Negatable word ws negated) (within : word ∈ ["IN", "LIKE"])
    (operand : ReadsOperand need ls e)
    (h : ∀ n rest x value, need' ≤ n → EndsExpr rest → x.token = .word value false word →
      membershipOrPattern (level n) e negated (x :: (ms ++ rest)) = .ok (e', rest)) :
    Reads (max need need') Strength.membership.rank (ls ++ (ws ++ ms)) e' := by
  have known : word ∈ negatableWords := by
    simp only [List.mem_cons, List.not_mem_nil, or_false] at within
    obtain rfl | rfl := within <;> decide
  refine operand.operation (ws ++ ms) (fun rest => ?_) (fun rest => ?_)
    (by cases words <;> simp) fun n rest enough closes => ?_
  · cases words with
    | plain same =>
        rintro _ ⟨⟩
        rw [same]
        simp only [List.mem_cons, List.not_mem_nil, or_false] at within
        obtain rfl | rfl := within <;> rfl
    | negated first _ =>
        rintro _ ⟨⟩
        rw [first]
        rfl
  · cases words with
    | plain same =>
        simp only [List.mem_cons, List.not_mem_nil, or_false] at within
        obtain rfl | rfl := within <;> simp [nextRank, same, wordStrength]
    | negated first second => simp [nextRank, first, second, Token.isOneOf, known]
  · cases words with
    | @plain a v same =>
        have next : nextIs (·.isOneOf negatableWords) (a :: (ms ++ rest)) =
            .ok (true, a :: (ms ++ rest)) := by
          simp [nextIs, same, Token.isOneOf, known]
        rw [Parse.operation, List.append_assoc, List.singleton_append, bind_of_ok next]
        exact h n rest a v enough closes same
    | @negated a b v w first second =>
        rw [List.append_assoc, List.cons_append, operation_of_word first rfl rfl]
        exact h n rest b w enough closes second

theorem membershipOrPattern_of_in {inner : Level} {x : Lexeme} {value : String}
    (same : x.token = .word value false "IN") (e : Expr) (negated : Bool) (ts : List Lexeme) :
    membershipOrPattern inner e negated (x :: ts) = membership inner e negated ts := by
  rw [membershipOrPattern, bind_of_ok (keyword_of_word_ne same (by decide) _),
    bind_of_ok (keyword_of_word_ne same (by decide) _), if_neg (by decide),
    bind_of_ok (oneOf?_of_word same rfl _)]
  rfl

theorem membershipOrPattern_of_like {inner : Level} {x : Lexeme} {value : String}
    (same : x.token = .word value false "LIKE") (e : Expr) (negated : Bool) (ts : List Lexeme) :
    membershipOrPattern inner e negated (x :: ts) =
      (do
        let (any, pattern, escape) ← pattern inner
        pure (Expr.like negated any e pattern escape)) ts := by
  rw [membershipOrPattern, bind_of_ok (keyword_of_word_ne same (by decide) _),
    bind_of_ok (keyword_of_word_ne same (by decide) _), if_neg (by decide),
    bind_of_ok (oneOf?_of_word same rfl _)]
  rfl

/-- A pattern test. -/
theorem Reads.pattern {ws : List Lexeme} {negated : Bool} (words : Negatable "LIKE" ws negated)
    (left : ReadsOperand need ls e) (right : Reads need' floor ms e')
    (high : Strength.membership.rank < floor) :
    Reads (max need (need' + 1)) Strength.membership.rank (ls ++ (ws ++ ms))
      (.like negated false e e' none) := by
  refine Reads.negatable words (by decide) left fun n rest x value enough closes same => ?_
  have noAny : keyword "ANY" (ms ++ rest) = .ok (false, ms ++ rest) :=
    keyword_of_not (right.opens.not_keyword (by decide) rest)
  have noEscape : keyword "ESCAPE" rest = .ok (false, rest) := closes.endsOperand.keyword rfl
  have read := right.tighter (Nat.lt_of_succ_le enough) high closes (closes.nextRank_le (by decide))
  rw [membershipOrPattern_of_like same]
  simp [Parse.pattern, noAny, read, escapeCharacter, Parse.afterKeyword?, noEscape]

/-- An expression is read as an item of a list. -/
theorem Reads.item (h : Reads need floor ls e) (some : 0 < floor) {n : Nat} (enough : need < n)
    (x : Lexeme) (rest : List Lexeme) (ends : Token.EndsItem x.token) :
    (level n).expr (ls ++ x :: rest) = .ok (e, x :: rest) := by
  obtain ⟨closing, noOperator⟩ := endsExpr_of_endsItem ends rest
  exact h.tighter enough some closing (Nat.le_of_eq noOperator)

/-- A membership test. -/
theorem Reads.membership {ws : List Lexeme} {negated : Bool} (words : Negatable "IN" ws negated)
    (left : ReadsOperand need ls e) {opening close : Lexeme} (opens : opening.token = .symbol "(")
    (closes : close.token = .symbol ")") {items : List Expr} (first : Opens ms)
    (listed : ∀ n, need' < n → Listed (level n).expr ms items) :
    Reads (max need (need' + 1)) Strength.membership.rank
      (ls ++ (ws ++ opening :: (ms ++ [close]))) (.inList e items negated) := by
  refine Reads.negatable words (by decide) left fun n rest x value enough closes' same => ?_
  have contents : (level n).exprs (ms ++ close :: rest) = .ok (items, close :: rest) :=
    separatedAtMost_of_listed (listed n (Nat.lt_of_succ_le enough)) closes (by simp)
  have noQuery : nextIsQuery (ms ++ close :: rest) = .ok (false, ms ++ close :: rest) :=
    nextIs_of_not (first.not_oneOf (by decide) (close :: rest))
  rw [membershipOrPattern_of_in same, Parse.membership, List.cons_append,
    bind_of_ok (keyword_of_symbol opens _), if_neg Bool.false_ne_true,
    bind_of_ok (expectSymbol_of_symbol opens _), List.append_assoc, List.singleton_append,
    bind_of_ok noQuery, if_neg Bool.false_ne_true, bind_of_ok contents,
    bind_of_ok (expectSymbol_of_symbol closes _)]
  rfl

/-! ## Connectives, parentheses and operands -/

/-- The words between the members of a connective, each with what it is read as and its rank. -/
inductive Connective : String → BinaryOp → Nat → Prop
  | and : Connective "AND" .and Strength.conjunction.rank
  | or : Connective "OR" .or Strength.disjunction.rank

/-- An expression of a connective with one more member. Equal connectives may stand in front, since
they group to the left. -/
theorem Reads.connective {word : String} {op : BinaryOp} {rank : Nat}
    (connective : Connective word op rank) {x : Lexeme} {value : String}
    (same : x.token = .word value false word) (left : Reads need floor ls e) (low : rank ≤ floor)
    (right : Reads need' floor' ms e') (high : rank < floor') :
    Reads (max need (need' + 1)) rank (ls ++ x :: ms) (.binary e op e') where
  opens := left.opens.append _
  reads n lower rest enough below ends next := by
    have rank_eq : nextRank (x :: (ms ++ rest)) = rank := by
      cases connective <;> simp [nextRank, same, wordStrength]
    have ends' : EndsExpr (x :: (ms ++ rest)) := by
      rintro _ ⟨⟩
      rw [same]
      cases connective <;> rfl
    obtain ⟨fuel, more, read⟩ := left.reads n lower (x :: (ms ++ rest)) (by omega)
      (Nat.lt_of_lt_of_le below low) ends' (by omega)
    obtain ⟨fuel, rfl⟩ : ∃ k, fuel = k + 1 := ⟨fuel - 1, by simp at more; omega⟩
    refine ⟨fuel, by simp at more; omega, ?_⟩
    have operator : binaryOp? x.token = some op := by
      rw [same]
      cases connective <;> rfl
    have noWord : x.token.isOneOf negatableWords = false := by
      rw [same]
      cases connective <;> rfl
    rw [List.append_assoc, List.cons_append, read,
      operations_of_lt_nextRank (by rw [rank_eq]; exact below), rank_eq]
    refine bind_of_ok ?_
    rw [operation_of_binary operator noWord]
    exact right.rightSide (by omega) high ends next e op _

/-- Tokens that are read as an expression in front of a closing parenthesis are an operand in
parentheses. -/
theorem ReadsOperand.parentheses {opening close : Lexeme} (opens : opening.token = .symbol "(")
    (closes : close.token = .symbol ")") (first : Opens ls)
    (contents : ∀ n rest, need < n →
      (level n).expr (ls ++ close :: rest) = .ok (e, close :: rest)) :
    ReadsOperand (need + 1) (opening :: (ls ++ [close])) (.nested e) where
  opens := ⟨opening, ls ++ [close], rfl, by rw [opens]; rfl⟩
  reads n rest enough ends := by
    rw [List.cons_append, List.append_assoc, List.singleton_append]
    exact operand_of_parentheses opens closes (first.not_oneOf (by decide) (close :: rest))
      (contents n rest (Nat.lt_of_succ_le enough)) ends

/-- An operand with a minus sign in front is an operand. -/
theorem ReadsOperand.minus {sign : Lexeme} (same : sign.token = .symbol "-")
    (h : ReadsOperand need ls e) : ReadsOperand (need + 1) (sign :: ls) (.signed .minus e) where
  opens := ⟨sign, ls, rfl, by rw [same]; rfl⟩
  reads n rest enough ends := by
    obtain ⟨n, rfl⟩ := Nat.exists_eq_add_of_le' enough
    have operand := h.reads (n + need) rest (Nat.le_add_left _ _) ends
    have contents : (level (n + (need + 1))).tighter Strength.product.rank (ls ++ rest) =
        .ok (e, rest) :=
      (expression_of_operand operand).trans
        (operations_of_nextRank_le (Nat.le_trans (nextRank_of_endsOperand ends) (by decide)) _ e)
    exact operand_of_minus same contents ends

theorem ReadsOperand.dotted {parts : List Ident} (joined : Dotted ls parts) (opens : Opens ls)
    (name : ∀ x ∈ ls.head?, x.token.isOneOf (dataTypeWords ++ constructWords) = false) :
    ReadsOperand 0 ls (ofParts parts) where
  opens := opens
  reads _ _ _ ends := operand_of_dotted joined name ends

theorem ReadsOperand.literal {x : Lexeme} {c : Constant} (literal : LiteralToken x.token c) :
    ReadsOperand 0 [x] (.constant c) where
  opens := by
    obtain ⟨token, extent⟩ := x
    change LiteralToken token c at literal
    exact ⟨_, [], rfl, by cases literal <;> rfl⟩
  reads _ _ _ ends := operand_of_literal literal ends

theorem ReadsOperand.literalWord {x : Lexeme} {value capitals : String} {c : Constant}
    (literal : LiteralWord capitals c) (word : x.token = .word value false capitals) :
    ReadsOperand 0 [x] (.constant c) where
  opens := ⟨x, [], rfl, by rw [word]; cases literal <;> rfl⟩
  reads _ _ _ ends := operand_of_literalWord literal word ends

end

end EntityQuery.ConditionText
