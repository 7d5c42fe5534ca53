import EntityQuery.Proofs.Reading.Lexing
import EntityQuery.Value

/-!
# The tokens of spellings

What the lexer makes of the spellings that conditions are written in: words, numbers, quoted texts,
operators and punctuation. A word or a number ends where a character follows that it cannot go on
with; a blank, a closing parenthesis or a comma ends both.
-/

namespace EntityQuery.ConditionText

open Unicode

/-! ## Characters -/

/-- Whether a word can be written without quotes: it starts and goes on as words do. -/
def isPlainWord : List Char → Bool
  | [] => false
  | c :: cs => isWordStart c && cs.all isWordPart

theorem not_mem_of_all {p : Char → Bool} {c : Char} (h : p c) {cs : List Char}
    (none : cs.all fun d => !p d) : c ∉ cs := by
  intro mem
  simpa [h] using List.all_eq_true.1 none c mem

/-- Whether a text ends what is written in front of it: it is empty or starts with a blank, a
closing parenthesis or a comma. -/
def Breaks (after : List Char) : Prop := ∀ c ∈ after.head?, c = ' ' ∨ c = ')' ∨ c = ','

/-- Whether a text ends a word in front of it and does not turn it into the mark of a quotation. -/
def EndsWord (after : List Char) : Prop :=
  ∀ c ∈ after.head?, isWordPart c = false ∧ c ≠ '\'' ∧ c ≠ '"' ∧ c ≠ '&'

theorem Breaks.endsWord {after : List Char} (h : Breaks after) : EndsWord after := by
  intro c first
  obtain rfl | rfl | rfl := h c first <;> decide

/-- The blanks beyond ASCII. -/
def furtherBlanks : List Nat :=
  [0x85, 0xA0, 0x1680, 0x2000, 0x2001, 0x2002, 0x2003, 0x2004, 0x2005, 0x2006, 0x2007, 0x2008,
   0x2009, 0x200A, 0x2028, 0x2029, 0x202F, 0x205F, 0x3000]

/-- In front of the capital letters stands no letter of ASCII. -/
theorem isAlpha_eq_false {c : Char} (h : c.toNat < 65) : c.isAlpha = false := by
  rw [← Bool.not_eq_true]
  intro letter
  obtain upper | lower := Bool.or_eq_true_iff.1 letter
  · have least : 65 ≤ c.toNat := UInt32.le_iff_toNat_le.1 (of_decide_eq_true upper).1
    omega
  · have least : 97 ≤ c.toNat :=
      UInt32.le_iff_toNat_le.1 (of_decide_eq_true (Bool.and_eq_true_iff.1 lower).1)
    omega

theorem isLetter_eq_false_of_isBlank {c : Char} (h : isBlank c) : isLetter c = false := by
  unfold isLetter
  split
  · next small =>
      have code : c.toNat ≤ 32 := by
        simp only [isBlank, Bool.or_eq_true, Bool.and_eq_true, decide_eq_true_eq,
          beq_iff_eq] at h
        omega
      exact isAlpha_eq_false (by omega)
  · next large =>
      have further : c.toNat ∈ furtherBlanks := by
        simp only [isBlank, Bool.or_eq_true, Bool.and_eq_true, decide_eq_true_eq,
          beq_iff_eq] at h
        simp only [furtherBlanks, List.mem_cons, List.not_mem_nil, or_false]
        omega
      have none : furtherBlanks.all fun n => !inBounds letterBounds n := by decide +kernel
      simpa using List.all_eq_true.1 none _ further

theorem isLetter_eq_false_of_isDigit {c : Char} (h : c.isDigit) : isLetter c = false := by
  simp only [Char.isDigit, Bool.and_eq_true, decide_eq_true_eq, ge_iff_le,
    UInt32.le_iff_toNat_le] at h
  have small : c.toNat < 128 := by
    have : c.toNat ≤ 57 := h.2
    omega
  have bounds : 48 ≤ c.toNat ∧ c.toNat ≤ 57 := h
  rw [isLetter, if_pos small]
  exact isAlpha_eq_false (by omega)

section

variable {c : Char}

theorem isBlank_eq_false_of_isWordStart (h : isWordStart c) : isBlank c = false := by
  by_contra blank
  have letter := isLetter_eq_false_of_isBlank (Bool.of_not_eq_false blank)
  obtain rfl : c = '_' := by simpa [isWordStart, letter] using h
  exact absurd blank (by decide)

theorem isDigit_eq_false_of_isWordStart (h : isWordStart c) : c.isDigit = false := by
  by_contra digit
  have letter := isLetter_eq_false_of_isDigit (Bool.of_not_eq_false digit)
  obtain rfl : c = '_' := by simpa [isWordStart, letter] using h
  exact absurd digit (by decide)

end

/-! ## Words -/

/-- A text whose first character is no mark of a quotation. -/
theorem markedQuotation?_eq_none {c : Char} {rest : List Char}
    (h : c ∉ ['b', 'B', 'n', 'N', 'e', 'E', 'x', 'X', 'u', 'U']) :
    markedQuotation? (c :: rest) = none := by
  simp only [List.mem_cons, List.not_mem_nil, or_false, not_or] at h
  unfold markedQuotation?
  split <;> simp_all

/-- A text whose second character opens no quotation. -/
theorem markedQuotation?_of_second {c : Char} {rest : List Char}
    (h : ∀ d ∈ rest.head?, d ≠ '\'' ∧ d ≠ '"' ∧ d ≠ '&') : markedQuotation? (c :: rest) = none := by
  unfold markedQuotation?
  split <;> simp_all

/-- A text that starts with no comment and no quotation. -/
theorem pieceAt_eq {c : Char} {rest : List Char} (unmarked : markedQuotation? (c :: rest) = none)
    (h : c ∉ ['-', '/', '\'', '"', '$']) :
    pieceAt (c :: rest) =
      if isBlank c then .ok (none, 1)
      else if c.isDigit || c == '.' then numberPiece (c :: rest)
      else if isWordStart c then wordPiece c rest
      else operatorStart (c :: rest) := by
  simp only [List.mem_cons, List.not_mem_nil, or_false, not_or] at h
  unfold pieceAt
  rw [unmarked]
  split <;> simp_all

theorem takeWhile_append_of_ends {p : Char → Bool} {cs after : List Char} (all : cs.all p)
    (ends : ∀ c ∈ after.head?, p c = false) : (cs ++ after).takeWhile p = cs := by
  rw [List.takeWhile_append_of_pos (List.all_eq_true.1 all)]
  cases after with
  | nil => simp
  | cons c after => simp [ends c rfl]

/-- The token of a word. -/
theorem pieceAt_word {word after : List Char} (plain : isPlainWord word) (ends : EndsWord after) :
    pieceAt (word ++ after) = .ok (some (.bareWord (String.ofList word)), word.length) := by
  cases word with
  | nil => cases plain
  | cons c cs =>
      simp only [isPlainWord, Bool.and_eq_true] at plain
      obtain ⟨start, parts⟩ := plain
      have unmarked : markedQuotation? (c :: (cs ++ after)) = none := by
        refine markedQuotation?_of_second ?_
        cases cs with
        | nil => exact fun d first => (ends d first).2
        | cons d cs =>
            rintro _ ⟨⟩
            simp only [List.all_cons, Bool.and_eq_true] at parts
            refine ⟨?_, ?_, ?_⟩ <;>
            · rintro rfl
              exact absurd parts.1 (by decide)
      have first : c ∉ ['-', '/', '\'', '"', '$'] := not_mem_of_all start (by decide)
      have point : c ≠ '.' := by
        rintro rfl
        exact absurd start (by decide)
      rw [List.cons_append, pieceAt_eq unmarked first]
      simp [isBlank_eq_false_of_isWordStart start, isDigit_eq_false_of_isWordStart start, point,
        start, wordPiece, takeWhile_append_of_ends parts fun d first => (ends d first).1]

/-! ## Numbers -/

theorem isBlank_eq_false_of_isDigit {c : Char} (h : c.isDigit) : isBlank c = false := by
  have bounds : 48 ≤ c.toNat ∧ c.toNat ≤ 57 := by
    simpa [Char.isDigit, UInt32.le_iff_toNat_le] using h
  simp only [isBlank, Bool.or_eq_false_iff, Bool.and_eq_false_iff, decide_eq_false_iff_not,
    beq_eq_false_iff_ne]
  omega

/-- Digits, possibly followed by a point and further digits. -/
def IsPlainNumber (cs : List Char) : Prop :=
  ∃ whole fraction, cs = whole ++ fraction ∧ whole ≠ [] ∧ whole.all Char.isDigit ∧
    (fraction = [] ∨ ∃ ds, fraction = '.' :: ds ∧ ds.all Char.isDigit)

theorem IsPlainNumber.of_digits {cs : List Char} (nonempty : cs ≠ [])
    (digits : cs.all Char.isDigit) : IsPlainNumber cs :=
  ⟨cs, [], by simp, nonempty, digits, .inl rfl⟩

theorem IsPlainNumber.exists_cons {cs : List Char} (plain : IsPlainNumber cs) :
    ∃ c more, cs = c :: more ∧ c.isDigit := by
  obtain ⟨whole, fraction, rfl, nonempty, digits, -⟩ := plain
  obtain ⟨c, whole, rfl⟩ := List.exists_cons_of_ne_nil nonempty
  exact ⟨c, whole ++ fraction, rfl, List.all_eq_true.1 digits c List.mem_cons_self⟩

theorem IsPlainNumber.ne_nil {cs : List Char} (plain : IsPlainNumber cs) : cs ≠ [] := by
  obtain ⟨c, more, rfl, -⟩ := plain.exists_cons
  exact List.cons_ne_nil c more

/-- A digit marks no quotation. -/
theorem markedQuotation?_of_isDigit {c : Char} {rest : List Char} (h : c.isDigit) :
    markedQuotation? (c :: rest) = none :=
  markedQuotation?_eq_none (not_mem_of_all h (by decide))

/-- What breaks a number off is neither a digit nor a point and starts no exponent. -/
theorem Breaks.endsNumber {after : List Char} (h : Breaks after) :
    (∀ c ∈ after.head?, c.isDigit = false ∧ c ≠ 'x' ∧ c ≠ '.' ∧ c ≠ 'L') ∧
      exponentDigits after = [] := by
  cases after with
  | nil => simp [exponentDigits]
  | cons c after => obtain rfl | rfl | rfl := h c rfl <;> simp [exponentDigits]

theorem numberPiece_eq {whole fraction after : List Char} (nonempty : whole ≠ [])
    (digits : whole.all Char.isDigit)
    (point : fraction = [] ∨ ∃ ds, fraction = '.' :: ds ∧ ds.all Char.isDigit)
    (breaks : Breaks after) :
    numberPiece (whole ++ (fraction ++ after)) =
      .ok (some (.number (String.ofList (whole ++ fraction)) false),
        (whole ++ fraction).length) := by
  obtain ⟨ends, exponent⟩ := breaks.endsNumber
  have wholeDigits : (whole ++ (fraction ++ after)).takeWhile Char.isDigit = whole := by
    refine takeWhile_append_of_ends digits ?_
    obtain rfl | ⟨ds, rfl, -⟩ := point
    · exact fun c first => (ends c first).1
    · rintro _ ⟨⟩
      rfl
  have fraction_eq : fractionDigits (fraction ++ after) = fraction := by
    obtain rfl | ⟨ds, rfl, more⟩ := point
    · cases after with
      | nil => rfl
      | cons c after => simp [fractionDigits, (ends c rfl).2.2.1]
    · rw [List.cons_append, fractionDigits,
        takeWhile_append_of_ends more fun c first => (ends c first).1]
  have notHexadecimal : ∀ rest, whole = ['0'] → fraction ++ after = 'x' :: rest → False := by
    intro rest _ mark
    obtain rfl | ⟨ds, rfl, -⟩ := point
    · exact absurd rfl (ends 'x' (by rw [← List.nil_append after, mark]; rfl)).2.1
    · cases mark
  have notPoint : (whole ++ fraction == ['.']) = false := by
    obtain ⟨c, more, rfl⟩ := List.exists_cons_of_ne_nil nonempty
    rw [beq_eq_false_iff_ne]
    intro same
    rw [List.cons_append, List.cons.injEq] at same
    rw [same.1] at digits
    simp at digits
  have long : (after.head? == some 'L') = false := by
    cases after with
    | nil => rfl
    | cons c after => simpa using (ends c rfl).2.2.2
  unfold numberPiece
  simp only [wholeDigits, List.drop_left, fraction_eq, notPoint]
  rw [← List.append_assoc, List.drop_left, exponent, List.append_nil, List.drop_left, long]
  rfl

/-- The token of a number. -/
theorem pieceAt_number {cs after : List Char} (plain : IsPlainNumber cs) (breaks : Breaks after) :
    pieceAt (cs ++ after) = .ok (some (.number (String.ofList cs) false), cs.length) := by
  obtain ⟨whole, fraction, rfl, nonempty, digits, point⟩ := plain
  have piece := numberPiece_eq nonempty digits point breaks
  obtain ⟨c, whole, rfl⟩ := List.exists_cons_of_ne_nil nonempty
  simp only [List.all_cons, Bool.and_eq_true] at digits
  have first : c ∉ ['-', '/', '\'', '"', '$'] := not_mem_of_all digits.1 (by decide)
  have blank : isBlank c = false := isBlank_eq_false_of_isDigit digits.1
  rw [List.append_assoc]
  rw [List.cons_append] at piece ⊢
  rw [pieceAt_eq (markedQuotation?_of_isDigit digits.1) first, blank]
  simpa [digits.1] using piece

/-! ## Texts -/

/-- The characters of a text between quotes, in which quotes are written twice. -/
def quotedBody (cs : List Char) : List Char :=
  cs.flatMap fun c => if c = '\'' then ['\'', '\''] else [c]

theorem toList_quoteText (s : String) :
    (Value.quoteText s).toList = '\'' :: (quotedBody s.toList ++ ['\'']) := by
  simp [Value.quoteText, quotedBody]

theorem plainContents_cons_of_ne {quote c : Char} (h : c ≠ quote) {cs : List Char}
    (nonempty : cs ≠ []) :
    plainContents quote (c :: cs) = (plainContents quote cs).map fun (s, n) => (c :: s, n + 1) := by
  obtain ⟨d, rest, rfl⟩ := List.exists_cons_of_ne_nil nonempty
  rw [plainContents, if_neg h]

/-- Reading a quoted text gives the text back. -/
theorem plainContents_quotedBody (cs : List Char) {after : List Char}
    (ends : '\'' ∉ after.head?) :
    plainContents '\'' (quotedBody cs ++ '\'' :: after) =
      some (cs, (quotedBody cs).length + 1) := by
  induction cs with
  | nil =>
      cases after with
      | nil => rfl
      | cons d after =>
          have other : d ≠ '\'' := by simpa using ends
          simp [quotedBody, plainContents, other]
  | cons c cs ih =>
      by_cases h : c = '\''
      · have body : quotedBody (c :: cs) = '\'' :: '\'' :: quotedBody cs := by
          simp [quotedBody, h]
        rw [body, List.cons_append, List.cons_append, plainContents, if_pos rfl, if_pos rfl, ih, h]
        rfl
      · have body : quotedBody (c :: cs) = c :: quotedBody cs := by simp [quotedBody, h]
        rw [body, List.cons_append, plainContents_cons_of_ne h (by simp), ih]
        rfl

/-- The token of a quoted text. -/
theorem pieceAt_quoteText (s : String) {after : List Char} (breaks : Breaks after) :
    pieceAt ((Value.quoteText s).toList ++ after) =
      .ok (some (.quotation .plain s), (Value.quoteText s).toList.length) := by
  have ends : '\'' ∉ after.head? := by
    intro first
    obtain h | h | h := breaks _ first <;> cases h
  have contents := plainContents_quotedBody s.toList ends
  rw [toList_quoteText, List.cons_append, List.append_assoc]
  unfold pieceAt
  rw [markedQuotation?_eq_none (by decide)]
  simp only [List.singleton_append, contents, quotationPiece]
  simp
  omega

/-! ## Blanks, punctuation and operators -/

theorem pieceAt_blank (after : List Char) : pieceAt (' ' :: after) = .ok (none, 1) := by
  rw [pieceAt_eq (markedQuotation?_eq_none (by decide)) (by decide)]
  rfl

theorem pieceAt_open (after : List Char) :
    pieceAt ('(' :: after) = .ok (some (.symbol "("), 1) := by
  rw [pieceAt_eq (markedQuotation?_eq_none (by decide)) (by decide)]
  rfl

theorem pieceAt_close (after : List Char) :
    pieceAt (')' :: after) = .ok (some (.symbol ")"), 1) := by
  rw [pieceAt_eq (markedQuotation?_eq_none (by decide)) (by decide)]
  rfl

theorem pieceAt_comma (after : List Char) :
    pieceAt (',' :: after) = .ok (some (.symbol ","), 1) := by
  rw [pieceAt_eq (markedQuotation?_eq_none (by decide)) (by decide)]
  rfl

/-- The operators of comparisons, each with a blank behind it. -/
theorem pieceAt_operator {op : String} (h : op ∈ ["=", "<>", "<", "<=", ">", ">="])
    (after : List Char) :
    pieceAt (op.toList ++ ' ' :: after) = .ok (some (.symbol op), op.length) := by
  simp only [List.mem_cons, List.not_mem_nil, or_false] at h
  obtain rfl | rfl | rfl | rfl | rfl | rfl := h <;>
  · change pieceAt (_ :: _) = _
    rw [pieceAt_eq (markedQuotation?_eq_none (by decide)) (by decide)]
    rfl

/-- A point in front of a word. -/
theorem pieceAt_point {c : Char} (h : isWordStart c) (after : List Char) :
    pieceAt ('.' :: c :: after) = .ok (some (.symbol "."), 1) := by
  rw [pieceAt_eq (markedQuotation?_eq_none (by decide)) (by decide)]
  simp [numberPiece, fractionDigits, isDigit_eq_false_of_isWordStart h, isBlank, symbolPiece]
  rfl

/-- A sign in front of a digit. -/
theorem pieceAt_minus {c : Char} (h : c.isDigit) (after : List Char) :
    pieceAt ('-' :: c :: after) = .ok (some (.symbol "-"), 1) := by
  have none : isOperatorPart c = false := by
    rw [isOperatorPart, List.contains_eq_mem, decide_eq_false_iff_not]
    exact not_mem_of_all h (by decide)
  have first : c ∉ ['-', '>'] := not_mem_of_all h (by decide)
  simp only [List.mem_cons, List.not_mem_nil, or_false, not_or] at first
  have start : operatorStart ('-' :: c :: after) = .ok (some (.symbol "-"), 1) := by
    simp [operatorStart, first, operatorPiece, none, symbolPiece]
    rfl
  unfold pieceAt
  rw [markedQuotation?_eq_none (by decide)]
  simp [first, start]
  rfl

end EntityQuery.ConditionText
