import EntityQuery.Proofs.Reading.Tail

/-!
# Bare conditions

Reading takes every clause that may stand behind a condition, so a statement without clauses leaves
only a few kinds of tokens behind its condition: semicolons; the words that ask for all rows, which
are no limit; and anything at all from a closing keyword on, which ends the text for the reading.
These tokens are passed over, and a condition is bare exactly if nothing else stands behind it.
-/

namespace EntityQuery.ConditionText

/-- Tokens behind a condition that reading passes over: nothing of them is kept. -/
def Ignored (rest : List Lexeme) : Prop :=
  ∃ middle left, AllRows 2 rest middle ∧ EndsStatement middle left

/-- Some tokens start with a semicolon or with one of some words, if they are not empty. -/
def Starts (words : List String) (rest : List Lexeme) : Prop :=
  ∀ x ∈ rest.head?, x.token.isSymbol ";" ∨ x.token.isOneOf words

/-- The words that tokens which are passed over may start with. -/
def passedWords : List String := ["LIMIT", "END"]

theorem Starts.not_keyword {words : List String} {rest : List Lexeme} (h : Starts words rest)
    {key : String} (other : key ∉ words) : ∀ x ∈ rest.head?, x.token.isKeyword key = false := by
  intro x mem
  have starts := h x mem
  cases token : x.token with
  | word value quoted capitals =>
      cases quoted with
      | true => rfl
      | false =>
          simp only [token, Token.isSymbol, Token.isOneOf, Bool.false_eq_true, false_or,
            List.contains_iff_mem] at starts
          simp only [Token.isKeyword, beq_eq_false_iff_ne]
          rintro rfl
          exact other starts
  | _ => rfl

theorem Token.isSymbol_of_isOneOf {t : Token} {text : String} {words : List String}
    (h : t.isOneOf words) : t.isSymbol text = false := by
  cases t with
  | symbol other => cases h
  | _ => rfl

theorem Starts.mono {words more : List String} {rest : List Lexeme} (h : Starts words rest)
    (within : words ⊆ more) : Starts more rest := by
  intro x mem
  obtain separator | starts := h x mem
  · exact .inl separator
  · exact .inr (Token.isOneOf_mono within starts)

theorem EndsStatement.starts {rest left : List Lexeme} (h : EndsStatement rest left) :
    Starts ["END"] rest := by
  intro x mem
  obtain ⟨-, all⟩ | ⟨-, l, mem', closing⟩ := h
  · exact .inl (all x (List.mem_of_mem_head? mem))
  · obtain rfl : l = x := Option.some.inj (mem'.symm.trans mem)
    exact .inr (Token.isOneOf_of_isKeyword closing (by decide))

namespace AllRows

variable {m n : Nat} {rest middle left : List Lexeme}

theorem mono (h : AllRows n rest left) : AllRows (m + n) rest left := by
  induction h with
  | none => exact .none
  | limit limited unlimited _ ih => exact .limit limited unlimited ih

theorem trans (first : AllRows m rest middle) (second : AllRows n middle left) :
    AllRows (m + n) rest left := by
  induction first with
  | none => exact second.mono
  | limit limited unlimited _ ih =>
      rw [Nat.add_right_comm]
      exact .limit limited unlimited (ih second)

theorem starts (h : AllRows n rest middle) (ends : EndsStatement middle left) :
    Starts passedWords rest := by
  cases h with
  | none => exact ends.starts.mono (by decide)
  | limit limited _ _ =>
      rintro x ⟨⟩
      exact .inr (Token.isOneOf_of_isKeyword limited (by decide))

end AllRows

/-- Of the tokens that are passed over, those that are no semicolons start with a word. -/
theorem Ignored.all_semicolons {rest : List Lexeme} (h : Ignored rest) :
    rest.all (·.token.isSymbol ";") = !rest.head?.any (·.token.isOneOf passedWords) := by
  have word {x : Lexeme} {key : String} {more : List Lexeme} (keyword : x.token.isKeyword key)
      (mem : key ∈ passedWords) :
      (x :: more).all (·.token.isSymbol ";") =
        !(x :: more).head?.any (·.token.isOneOf passedWords) := by
    have passed := Token.isOneOf_of_isKeyword keyword mem
    have noSymbol : x.token.isSymbol ";" = false := Token.isSymbol_of_isOneOf passed
    rw [List.all_cons, noSymbol, List.head?_cons, Option.any_some, passed]
    rfl
  obtain ⟨middle, left, every, ends⟩ := h
  cases every with
  | limit limited unlimited further => exact word limited (by decide)
  | none =>
      obtain ⟨-, all⟩ | ⟨-, l, mem, closing⟩ := ends
      · cases rest with
        | nil => rfl
        | cons x more =>
            have separator := all x List.mem_cons_self
            have noWord : x.token.isOneOf passedWords = false := by
              rw [← Bool.not_eq_true]
              intro passed
              rw [Token.isSymbol_of_isOneOf passed] at separator
              cases separator
            rw [List.all_eq_true.2 all, List.head?_cons, Option.any_some, noWord]
            rfl
      · cases rest with
        | nil => cases mem
        | cons x more =>
            cases mem
            exact word closing (by decide)

namespace Parse

variable {inner : Level} {rest left : List Lexeme}

/-! ## From the reading to the tokens -/

/-- A query without clauses of its own ends behind the words that ask for all rows. -/
theorem queryTail_eq_bare {t : QueryTail} (read : queryTail inner rest = .ok (t, left))
    (unordered : t.order = none) (unlimited : t.limit = none) (whole : t.offset = none)
    (nothing : t.further = false) :
    t = ⟨none, none, none, false, ""⟩ ∧ AllRows 2 rest left := by
  unfold queryTail at read
  rw [bind_eq_ok] at read
  obtain ⟨order, t₁, readOrder, read⟩ := read
  rw [bind_eq_ok] at read
  obtain ⟨limit, t₂, readLimit, read⟩ := read
  rw [bind_eq_ok] at read
  obtain ⟨offset, t₃, readOffset, read⟩ := read
  rw [bind_eq_ok] at read
  obtain ⟨limitLast, t₄, readLimitLast, read⟩ := read
  rw [bind_eq_ok] at read
  obtain ⟨offsetLast, t₅, readOffsetLast, read⟩ := read
  rw [bind_eq_ok] at read
  obtain ⟨fetch, t₆, readFetch, read⟩ := read
  rw [bind_of_ok (get_apply t₆), bind_eq_ok] at read
  obtain ⟨others, t₇, readOthers, read⟩ := read
  cases read
  simp only [Bool.or_eq_false_iff, Option.isSome_eq_false_iff, Option.isNone_iff_eq_none,
    Bool.not_eq_false', List.isEmpty_iff] at unordered unlimited nothing
  simp only [Option.map_eq_none_iff] at whole
  subst unordered unlimited whole
  obtain ⟨rfl, rfl⟩ := nothing
  refine ⟨rfl, ?_⟩
  obtain rfl := afterKeywords?_eq_none readOrder
  obtain ⟨rfl, again⟩ := limitClause_eq_none readLimitLast
  obtain ⟨-, once⟩ := limitClause_eq_none readLimit
  obtain ⟨rfl, rfl⟩ := offsetClause_eq_none readOffsetLast
  obtain ⟨-, rfl⟩ := offsetClause_eq_none readOffset
  obtain rfl := afterKeyword?_eq_none readFetch
  obtain rfl := forClauses_eq_nil readOthers
  exact once.trans again

/-! ## From the tokens to the reading -/

theorem afterKeyword?_of_not {α : Type} {key : String} (p : Parse α)
    (h : ∀ x ∈ rest.head?, x.token.isKeyword key = false) :
    afterKeyword? key p rest = .ok (none, rest) := by
  rw [afterKeyword?, bind_of_ok (keyword_of_not h)]
  rfl

theorem afterKeywords?_of_not {α : Type} {key : String} {keys : List String} (p : Parse α)
    (h : ∀ x ∈ rest.head?, x.token.isKeyword key = false) :
    afterKeywords? (key :: keys) p rest = .ok (none, rest) := by
  rw [afterKeywords?, bind_of_ok (keywords_of_not h)]
  rfl

/-- In front of tokens that are passed over no clause of a selection starts. -/
theorem selectTail_of_passed (h : Starts passedWords rest) :
    selectTail inner rest = .ok (⟨false, false, ""⟩, rest) := by
  unfold selectTail groupClause? exprsAfter? windows?
  rw [bind_of_ok (afterKeywords?_of_not _ (h.not_keyword (by decide))),
    bind_of_ok (afterKeywords?_of_not _ (h.not_keyword (by decide))),
    bind_of_ok (afterKeywords?_of_not _ (h.not_keyword (by decide))),
    bind_of_ok (afterKeywords?_of_not _ (h.not_keyword (by decide))),
    bind_of_ok (afterKeyword?_of_not _ (h.not_keyword (by decide))),
    bind_of_ok (afterKeyword?_of_not _ (h.not_keyword (by decide))),
    bind_of_ok (afterKeyword?_of_not _ (h.not_keyword (by decide)))]
  rfl

theorem setOperator?_of_passed (h : Starts passedWords rest) : setOperator? rest = none := by
  cases rest with
  | nil => rfl
  | cons x more =>
      simp only [setOperator?]
      split
      · next same =>
          have not : x.token.isKeyword "UNION" = false := h.not_keyword (by decide) x rfl
          simp [same, Token.isKeyword] at not
      · next same =>
          have not : x.token.isKeyword "EXCEPT" = false := h.not_keyword (by decide) x rfl
          simp [same, Token.isKeyword] at not
      · next same =>
          have not : x.token.isKeyword "INTERSECT" = false := h.not_keyword (by decide) x rfl
          simp [same, Token.isKeyword] at not
      · rfl

theorem combinations_of_passed (h : Starts passedWords rest) (body : Nat → Parse Fragment)
    (rank n : Nat) (first : Fragment) :
    combinations body rank n first rest = .ok ((first, false), rest) := by
  cases n with
  | zero => rfl
  | succ n =>
      have none : setOperator? rest = none := setOperator?_of_passed h
      simp only [combinations, none]

theorem forClauses_of_not (n : Nat) (h : ∀ x ∈ rest.head?, x.token.isKeyword "FOR" = false) :
    forClauses n rest = .ok ([], rest) := by
  cases n with
  | zero => rfl
  | succ n =>
      rw [forClauses, bind_of_ok (keyword_of_not h)]
      rfl

/-- Of the words that ask for all rows each place for a limit takes those that come next. -/
theorem limitClause_of_allRows {n : Nat} {middle : List Lexeme} (h : AllRows (n + 1) rest middle)
    (ends : EndsStatement middle left) (inner : Level) :
    ∃ next, limitClause inner none rest = .ok (none, next) ∧ AllRows n next middle := by
  cases h with
  | none =>
      refine ⟨rest, ?_, .none⟩
      rw [limitClause, bind_of_ok (keyword_of_not (ends.starts.not_keyword (by decide)))]
      rfl
  | @limit _ limit all next _ limited unlimited further =>
      refine ⟨next, ?_, further⟩
      have first : keyword "LIMIT" (limit :: all :: next) = .ok (true, all :: next) :=
        accept_cons limited
      have second : keyword "ALL" (all :: next) = .ok (true, next) := accept_cons unlimited
      rw [limitClause, bind_of_ok first]
      simp only [if_true]
      rw [bind_of_ok second]
      rfl

/-- Of a whole query, the words that ask for all rows are all that is taken. -/
theorem queryTail_of_allRows {middle : List Lexeme} (h : AllRows 2 rest middle)
    (ends : EndsStatement middle left) :
    queryTail inner rest = .ok (⟨none, none, none, false, ""⟩, middle) := by
  obtain ⟨next, first, further⟩ := limitClause_of_allRows h ends inner
  obtain ⟨last, second, none⟩ := limitClause_of_allRows further ends inner
  cases none
  have order : orderClause? inner rest = .ok (Option.none, rest) :=
    afterKeywords?_of_not _ ((h.starts ends).not_keyword (by decide))
  have offset : offsetClause inner Option.none next = .ok (Option.none, next) :=
    afterKeyword?_of_not _ ((further.starts ends).not_keyword (by decide))
  have offsetLast : offsetClause inner Option.none middle = .ok (Option.none, middle) :=
    afterKeyword?_of_not _ (ends.starts.not_keyword (by decide))
  have fetch : afterKeyword? "FETCH" fetchClause middle = .ok (Option.none, middle) :=
    afterKeyword?_of_not _ (ends.starts.not_keyword (by decide))
  have others : forClauses middle.length middle = .ok ([], middle) :=
    forClauses_of_not _ (ends.starts.not_keyword (by decide))
  rw [queryTail, bind_of_ok order, bind_of_ok first, bind_of_ok offset, bind_of_ok second,
    bind_of_ok offsetLast, bind_of_ok fetch, bind_of_ok (get_apply middle), bind_of_ok others]
  rfl

end Parse

/-- A condition behind which nothing stands. -/
def Statement.bare (e : Expr) : Statement where
  condition := e
  select := ⟨false, false, ""⟩
  combined := false
  tail := ⟨none, none, none, false, ""⟩

/-- A statement is no more than its condition. -/
structure Statement.IsBare (s : Statement) : Prop where
  ungrouped : s.select.grouped = false
  selected : s.select.further = false
  single : s.combined = false
  unordered : s.tail.order = none
  unlimited : s.tail.limit = none
  complete : s.tail.offset = none
  further : s.tail.further = false

/-- A bare condition is read exactly where nothing but ignored tokens stands behind the
condition. -/
theorem Parse.statements_eq_bare {ls : List Lexeme} {s : Statement} :
    (∃ left, Parse.statements ls = .ok ((s, 0), left)) ∧ s.IsBare ↔
      ∃ rest, (level (nestingBudget - 2)).expr ls = .ok (s.condition, rest) ∧ Ignored rest ∧
        s = .bare s.condition := by
  constructor
  · rintro ⟨⟨left, read⟩, bare⟩
    obtain ⟨first, t₁, statement, read⟩ := Parse.bind_eq_ok.1 read
    rw [bind_of_ok (get_apply t₁)] at read
    obtain ⟨further, t₂, behind, read⟩ := Parse.bind_eq_ok.1 read
    cases read
    obtain ⟨e, rest, condition, statement⟩ := Parse.bind_eq_ok.1 statement
    obtain ⟨select, t₃, readSelect, statement⟩ := Parse.bind_eq_ok.1 statement
    rw [bind_of_ok (get_apply t₃)] at statement
    obtain ⟨⟨whole, combined⟩, t₄, readCombined, statement⟩ := Parse.bind_eq_ok.1 statement
    obtain ⟨tail, t₅, readTail, statement⟩ := Parse.bind_eq_ok.1 statement
    cases statement
    obtain ⟨ungrouped, selected, single, unordered, unlimited, complete, nothing⟩ := bare
    obtain ⟨rfl, rfl⟩ := selectTail_eq_bare readSelect ungrouped selected
    dsimp only at single
    subst single
    obtain rfl := combinations_eq_false readCombined
    obtain ⟨rfl, every⟩ := queryTail_eq_bare readTail unordered unlimited complete nothing
    exact ⟨_, condition, ⟨_, _, every, statementsWithin_eq_zero.1 behind⟩, rfl⟩
  · rintro ⟨rest, condition, ⟨middle, left, every, ends⟩, bare⟩
    have passed := every.starts ends
    have statement : Parse.statement ls = .ok (s, middle) := by
      rw [Parse.statement, bind_of_ok condition, bind_of_ok (selectTail_of_passed passed),
        bind_of_ok (get_apply rest), bind_of_ok (combinations_of_passed passed _ _ _ _)]
      dsimp only
      rw [bind_of_ok (queryTail_of_allRows every ends), bare]
      rfl
    refine ⟨⟨left, ?_⟩, ?_⟩
    · rw [Parse.statements, bind_of_ok statement, bind_of_ok (get_apply middle),
        bind_of_ok (statementsWithin_eq_zero.2 ends)]
      rfl
    · rw [bare]
      exact ⟨rfl, rfl, rfl, rfl, rfl, rfl, rfl⟩

/-- What is left behind the last statement starts with the closing keyword. -/
theorem Parse.left_of_statements {ls left : List Lexeme} {s : Statement}
    (read : Parse.statements ls = .ok ((s, 0), left)) :
    left = [] ∨ ∃ l ∈ left.head?, l.token.isKeyword "END" := by
  obtain ⟨first, t₁, statement, read⟩ := Parse.bind_eq_ok.1 read
  rw [bind_of_ok (get_apply t₁)] at read
  obtain ⟨further, t₂, behind, read⟩ := Parse.bind_eq_ok.1 read
  cases read
  obtain ⟨rfl, -⟩ | ⟨rfl, closing⟩ := statementsWithin_eq_zero.1 behind
  · exact .inl rfl
  · exact .inr closing

end EntityQuery.ConditionText
