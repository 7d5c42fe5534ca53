import EntityQuery.ConditionText.Operation

/-!
# Steps of reading

How the primitives of reading act on the tokens that are left, and what may follow an operand or an
expression: tokens that neither go on with it nor turn it into something else.
-/

namespace EntityQuery.ConditionText

namespace Parse

variable {α β : Type}

/-! ## Primitives -/

@[simp] theorem bind_apply (p : Parse α) (f : α → Parse β) (ts : List Lexeme) :
    (p >>= f) ts = p ts >>= fun r => f r.1 r.2 := rfl

@[simp] theorem pure_apply (a : α) (ts : List Lexeme) : (pure a : Parse α) ts = .ok (a, ts) := rfl

@[simp] theorem get_apply (ts : List Lexeme) : (get : Parse (List Lexeme)) ts = .ok (ts, ts) := rfl

@[simp] theorem map_apply (f : α → β) (p : Parse α) (ts : List Lexeme) :
    (f <$> p) ts = p ts >>= fun r => .ok (f r.1, r.2) := rfl

@[simp] theorem ok_bind {ε : Type} (a : α) (f : α → Except ε β) : (Except.ok a >>= f) = f a := rfl

@[simp] theorem error_bind {ε : Type} (e : ε) (f : α → Except ε β) :
    (Except.error e >>= f) = .error e := rfl

/-- The second reading goes on where the first one stopped. -/
theorem bind_of_ok {p : Parse α} {f : α → Parse β} {ts rest : List Lexeme} {a : α}
    (h : p ts = .ok (a, rest)) : (p >>= f) ts = f a rest := by
  rw [bind_apply, h, ok_bind]

section

variable {p : Token → Bool} {x : Lexeme} {more rest : List Lexeme}

theorem accept_cons (h : p x.token = true) : accept p (x :: more) = .ok (true, more) := by
  simp [accept, h]

theorem accept_of_not (h : ∀ x ∈ rest.head?, p x.token = false) :
    accept p rest = .ok (false, rest) := by
  cases rest with
  | nil => rfl
  | cons x more => simp [accept, h x rfl]

theorem nextIs_of_not (h : ∀ x ∈ rest.head?, p x.token = false) :
    nextIs p rest = .ok (false, rest) := by
  cases rest with
  | nil => rfl
  | cons x more => simp [nextIs, h x rfl]

theorem take?_of_not (h : ∀ x ∈ rest.head?, p x.token = false) :
    take? p rest = .ok (none, rest) := by
  cases rest with
  | nil => rfl
  | cons x more => simp [take?, h x rfl]

theorem symbol_of_not {text : String} (h : ∀ x ∈ rest.head?, x.token.isSymbol text = false) :
    symbol text rest = .ok (false, rest) := accept_of_not h

theorem keyword_of_not {key : String} (h : ∀ x ∈ rest.head?, x.token.isKeyword key = false) :
    keyword key rest = .ok (false, rest) := accept_of_not h

theorem symbol_of_symbol {text : String} (same : x.token = .symbol text) (more : List Lexeme) :
    symbol text (x :: more) = .ok (true, more) :=
  accept_cons (by simp [same, Token.isSymbol])

theorem keyword_of_word {value key : String} (same : x.token = .word value false key)
    (more : List Lexeme) : keyword key (x :: more) = .ok (true, more) :=
  accept_cons (by simp [same, Token.isKeyword])

theorem keyword_of_word_ne {value capitals key : String}
    (same : x.token = .word value false capitals) (other : capitals ≠ key) (more : List Lexeme) :
    keyword key (x :: more) = .ok (false, x :: more) := by
  refine keyword_of_not ?_
  rintro _ ⟨⟩
  simp [same, Token.isKeyword, other]

theorem keyword_of_symbol {text key : String} (same : x.token = .symbol text)
    (more : List Lexeme) : keyword key (x :: more) = .ok (false, x :: more) := by
  refine keyword_of_not ?_
  rintro _ ⟨⟩
  rw [same]
  rfl

theorem oneOf?_of_word {value word : String} {keys : List String}
    (same : x.token = .word value false word) (mem : keys.contains word) (more : List Lexeme) :
    oneOf? keys (x :: more) = .ok (some word, more) := by
  obtain ⟨token, extent⟩ := x
  obtain rfl : token = .word value false word := same
  exact if_pos mem

theorem expectSymbol_of_symbol {text : String} (same : x.token = .symbol text)
    (more : List Lexeme) : expectSymbol text (x :: more) = .ok ((), more) := by
  rw [expectSymbol, bind_of_ok (symbol_of_symbol same more)]
  rfl

theorem oneOf?_of_not {keys : List String} (h : ∀ x ∈ rest.head?, x.token.isOneOf keys = false) :
    oneOf? keys rest = .ok (none, rest) := by
  cases rest with
  | nil => rfl
  | cons x more =>
      have other := h x rfl
      obtain ⟨token, extent⟩ := x
      unfold oneOf?
      split
      · next value capitals _ _ same =>
          cases same
          exact if_neg (Bool.eq_false_iff.1 other)
      · rfl

/-- The next keywords are not the given ones if the first of them does not come next. -/
theorem keywords_of_not {key : String} {keys : List String}
    (h : ∀ x ∈ rest.head?, x.token.isKeyword key = false) :
    keywords (key :: keys) rest = .ok (false, rest) := by
  cases rest with
  | nil => rfl
  | cons x more => simp [keywords, afterKeywords, h x rfl]

end

end Parse

/-! ## What may follow -/

/-- The punctuation and the operators in front of which an operand ends. -/
def operandEndSymbols : List String := [")", ",", "=", "<>", "<", "<=", ">", ">="]

/-- The words in front of which an operand ends. -/
def operandEndWords : List String :=
  ["AND", "OR", "ORDER", "LIMIT", "OFFSET", "LIKE", "NOT", "IN", "IS"]

/-- Whether an operand ends in front of a token. -/
def Token.endsOperand : Token → Bool
  | symbol text => operandEndSymbols.contains text
  | word _ false capitals => operandEndWords.contains capitals
  | _ => false

/-- Whether an expression ends in front of a token, or goes on with a connective. -/
def Token.endsExpr : Token → Bool
  | symbol text => [")", ","].contains text
  | word _ false capitals => ["AND", "OR", "ORDER", "LIMIT", "OFFSET"].contains capitals
  | _ => false

/-- Whether an operand ends in front of some tokens. -/
def EndsOperand (rest : List Lexeme) : Prop := ∀ x ∈ rest.head?, x.token.endsOperand

/-- Whether an expression ends in front of some tokens, or goes on with a connective. -/
def EndsExpr (rest : List Lexeme) : Prop := ∀ x ∈ rest.head?, x.token.endsExpr

namespace Token

variable {t : Token}

theorem endsExpr_cases (h : t.endsExpr) :
    (∃ text ∈ [")", ","], t = symbol text) ∨
      ∃ value, ∃ capitals ∈ ["AND", "OR", "ORDER", "LIMIT", "OFFSET"],
        t = word value false capitals := by
  unfold endsExpr at h
  split at h
  · exact .inl ⟨_, by simpa using h, rfl⟩
  · exact .inr ⟨_, _, by simpa using h, rfl⟩
  · cases h

theorem endsOperand_of_endsExpr (h : t.endsExpr) : t.endsOperand := by
  obtain ⟨text, mem, rfl⟩ | ⟨value, capitals, mem, rfl⟩ := endsExpr_cases h
  · have within : [")", ","] ⊆ operandEndSymbols := by decide
    simpa [endsOperand] using within mem
  · have within : ["AND", "OR", "ORDER", "LIMIT", "OFFSET"] ⊆ operandEndWords := by decide
    simpa [endsOperand] using within mem

theorem isSymbol_of_endsOperand (h : t.endsOperand) {text : String}
    (no : operandEndSymbols.contains text = false) : t.isSymbol text = false := by
  unfold endsOperand at h
  split at h
  · next other =>
      simp only [isSymbol, beq_eq_false_iff_ne]
      rintro rfl
      rw [h] at no
      cases no
  · rfl
  · cases h

theorem isKeyword_of_endsOperand (h : t.endsOperand) {key : String}
    (no : operandEndWords.contains key = false) : t.isKeyword key = false := by
  unfold endsOperand at h
  split at h
  · rfl
  · next capitals =>
      simp only [isKeyword, beq_eq_false_iff_ne]
      rintro rfl
      rw [h] at no
      cases no
  · cases h

end Token

theorem EndsOperand.symbol {rest : List Lexeme} (h : EndsOperand rest) {text : String}
    (no : operandEndSymbols.contains text = false) : Parse.symbol text rest = .ok (false, rest) :=
  Parse.symbol_of_not fun x first => Token.isSymbol_of_endsOperand (h x first) no

theorem EndsOperand.keyword {rest : List Lexeme} (h : EndsOperand rest) {key : String}
    (no : operandEndWords.contains key = false) : Parse.keyword key rest = .ok (false, rest) :=
  Parse.keyword_of_not fun x first => Token.isKeyword_of_endsOperand (h x first) no

theorem EndsExpr.endsOperand {rest : List Lexeme} (h : EndsExpr rest) : EndsOperand rest :=
  fun x first => Token.endsOperand_of_endsExpr (h x first)

/-! ## Where operations stop -/

namespace Parse

/-- No operator that binds tighter than a conjunction comes next where an expression ends. -/
theorem nextRank_of_endsExpr {rest : List Lexeme} (h : EndsExpr rest) :
    nextRank rest ≤ Strength.conjunction.rank := by
  cases rest with
  | nil => exact Nat.zero_le _
  | cons x more =>
      obtain ⟨token, extent⟩ := x
      obtain ⟨text, mem, same⟩ | ⟨value, capitals, mem, same⟩ := Token.endsExpr_cases (h _ rfl)
      · obtain rfl : token = .symbol text := same
        simp only [List.mem_cons, List.not_mem_nil, or_false] at mem
        obtain rfl | rfl := mem <;> simp [nextRank, symbolStrength]
      · obtain rfl : token = .word value false capitals := same
        simp only [List.mem_cons, List.not_mem_nil, or_false] at mem
        obtain rfl | rfl | rfl | rfl | rfl := mem <;>
          simp [nextRank, wordStrength, Strength.rank]

/-- No operator that binds tighter than a membership test comes next where an operand ends. -/
theorem nextRank_of_endsOperand {rest : List Lexeme} (h : EndsOperand rest) :
    nextRank rest ≤ Strength.membership.rank := by
  cases rest with
  | nil => exact Nat.zero_le _
  | cons x more =>
      have ends := h x rfl
      obtain ⟨token, extent⟩ := x
      change token.endsOperand at ends
      unfold Token.endsOperand at ends
      split at ends
      · next text =>
          simp only [operandEndSymbols, List.contains_eq_mem, decide_eq_true_eq, List.mem_cons,
            List.not_mem_nil, or_false] at ends
          obtain rfl | rfl | rfl | rfl | rfl | rfl | rfl | rfl := ends <;>
            simp [nextRank, symbolStrength, Strength.rank]
      · next capitals =>
          simp only [operandEndWords, List.contains_eq_mem, decide_eq_true_eq, List.mem_cons,
            List.not_mem_nil, or_false] at ends
          obtain rfl | rfl | rfl | rfl | rfl | rfl | rfl | rfl | rfl := ends
          case inr.inr.inr.inr.inr.inr.inl =>
            simp only [nextRank]
            split
            · split <;> decide
            · decide
          all_goals simp [nextRank, wordStrength, Strength.rank]
      · cases ends

theorem operations_of_nextRank_le {inner : Level} {rank : Nat} {rest : List Lexeme}
    (h : nextRank rest ≤ rank) (fuel : Nat) (e : Expr) :
    operations inner rank fuel e rest = .ok (e, rest) := by
  cases fuel with
  | zero => rfl
  | succ fuel => exact if_pos h

theorem operations_of_lt_nextRank {inner : Level} {rank : Nat} {ts : List Lexeme}
    (h : rank < nextRank ts) (fuel : Nat) (e : Expr) :
    operations inner rank (fuel + 1) e ts =
      (operation inner e (nextRank ts) >>= operations inner rank fuel) ts :=
  if_neg (Nat.not_le.2 h)

/-- An expression goes on after its first operand with operations. -/
theorem expression_of_operand {inner : Level} {rank : Nat} {ts rest : List Lexeme} {e : Expr}
    (h : operand inner ts = .ok (e, rest)) :
    expression inner rank ts = operations inner rank rest.length e rest :=
  bind_of_ok h

end Parse

end EntityQuery.ConditionText
