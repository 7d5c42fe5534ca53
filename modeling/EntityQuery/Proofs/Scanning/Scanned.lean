import EntityQuery.Proofs.Reading.Spelling
import EntityQuery.Proofs.Scanning.Scanner
import Mathlib.Data.List.Forall2

/-!
# Splitting statements in parts

`Scanned` says that the tokens of a text are known wherever something follows that ends it. It
composes, and one lemma for each kind of piece starts it. What is quoted is split as the text inside
its quotes, whatever this text is: the induction is over its characters, and no quote among them
ends it because each one is written twice.
-/

namespace EntityQuery.Scanner

open ConditionText (IsPlainNumber Breaks)

/-! ## Parts -/

/-- Once every character can have its piece, further pieces change nothing. -/
theorem tokensWithin_congr (m n : Nat) (cs : List Char) (hm : cs.length ≤ m)
    (hn : cs.length ≤ n) : tokensWithin m cs = tokensWithin n cs := by
  induction m generalizing n cs with
  | zero =>
      obtain rfl := List.eq_nil_of_length_eq_zero (Nat.le_zero.1 hm)
      cases n <;> rfl
  | succ m ih =>
      cases cs with
      | nil => cases n <;> rfl
      | cons c rest =>
          obtain ⟨n, rfl⟩ : ∃ k, n = k + 1 := ⟨n - 1, by simp at hn; omega⟩
          simp only [List.length_cons, Nat.add_le_add_iff_right] at hm hn
          rw [tokensWithin, tokensWithin]
          cases piece? c rest with
          | none => rfl
          | some piece =>
              have shorter : (rest.drop piece.2).length ≤ rest.length := by simp
              simp only [Option.bind_eq_bind, Option.bind_some,
                ih n _ (shorter.trans hm) (shorter.trans hn)]

/-- Where `after` follows, the tokens of a text are its own ones in front of those of `after`. -/
def Scanned (cs : List Char) (ts : List Token) (after : List Char) : Prop :=
  tokens (cs ++ after) = (tokens after).map (ts ++ ·)

namespace Scanned

variable {cs after : List Char} {ts us : List Token}

theorem nil : Scanned [] [] after := by
  rw [Scanned, List.nil_append]
  cases tokens after <;> rfl

/-- Two texts one after the other. -/
theorem append {a b : List Char} (front : Scanned a ts (b ++ after)) (back : Scanned b us after) :
    Scanned (a ++ b) (ts ++ us) after := by
  rw [Scanned, List.append_assoc, front, back]
  cases tokens after <;> simp

/-- A single piece. -/
theorem piece {c : Char} {token? : Option Token}
    (h : piece? c (cs ++ after) = some (token?, cs.length)) :
    Scanned (c :: cs) token?.toList after := by
  have enough := tokensWithin_congr (cs ++ after).length after.length after (by simp)
    (Nat.le_refl _)
  rw [Scanned, List.cons_append, tokens, List.length_cons, tokensWithin, h]
  simp only [Option.bind_eq_bind, Option.bind_some, List.drop_left, enough, tokens]
  cases tokensWithin after.length after <;> rfl

/-- A single token. -/
theorem token {c : Char} {t : Token} (h : piece? c (cs ++ after) = some (some t, cs.length)) :
    Scanned (c :: cs) [t] after := piece h

/-- The tokens of a text behind which nothing follows. -/
theorem tokens_eq (h : Scanned cs ts []) : tokens cs = some ts := by
  rw [Scanned, List.append_nil] at h
  rw [h]
  exact congrArg some (List.append_nil ts)

end Scanned

/-! ## Endings -/

/-- What ends an expression in a statement: nothing, a closing parenthesis, a comma, or a blank with
something behind it with which no text goes on. -/
inductive Ends : List Char → Prop
  | nothing : Ends []
  | parenthesis (rest : List Char) : Ends (')' :: rest)
  | comma (rest : List Char) : Ends (',' :: rest)
  | blank {c : Char} {rest : List Char} (solid : isSpace c = false) (noDash : c ≠ '-')
      (noQuote : c ≠ '\'') : Ends (' ' :: c :: rest)

/-- What ends a name: no character that it goes on with, nor one that makes a mark of it. -/
def EndsName (after : List Char) : Prop :=
  ∀ c ∈ after.head?, continuesName c = false ∧ c ≠ '\'' ∧ c ≠ '&'

theorem Ends.breaks {after : List Char} (h : Ends after) : Breaks after := by
  cases h <;> simp [Breaks]

theorem endsName_of_breaks {after : List Char} (h : Breaks after) : EndsName after := by
  intro c first
  obtain rfl | rfl | rfl := h c first <;> decide

theorem Ends.endsName {after : List Char} (h : Ends after) : EndsName after :=
  endsName_of_breaks h.breaks

theorem endsName_blank (after : List Char) : EndsName (' ' :: after) := by
  rintro _ ⟨⟩
  decide

/-! ## Pieces -/

section

variable {c : Char} {rest after : List Char}

/-- Neither a character that marks nothing nor one without a quote behind it marks a quotation. -/
theorem marked?_eq_none (h : c ∉ ['e', 'E', 'b', 'B', 'x', 'X', 'u', 'U'] ∨
    ∀ d ∈ rest.head?, d ≠ '\'' ∧ d ≠ '&') : marked? (c :: rest) = none := by
  unfold marked?
  split <;> simp_all

/-- A blank in front of a text. -/
theorem Scanned.blank {cs : List Char} {ts : List Token} (h : Scanned cs ts after) :
    Scanned (' ' :: cs) ts after :=
  have skipped : Scanned [' '] (none : Option Token).toList (cs ++ after) := .piece rfl
  skipped.append h

/-- A punctuation mark that nothing goes on with, in front of a text. -/
theorem Scanned.mark {c : Char} {cs : List Char} {ts : List Token} (mark : c ∈ [',', '(', ')'])
    (h : Scanned cs ts after) : Scanned (c :: cs) (.symbol (String.ofList [c]) :: ts) after := by
  refine Scanned.append (a := [c]) (.token ?_) h
  simp only [List.mem_cons, List.not_mem_nil, or_false] at mark
  rcases mark with rfl | rfl | rfl <;> rfl

/-- A point in front of a name or of everything. -/
theorem scanned_point (noDigit : ∀ c ∈ after.head?, c.isDigit = false ∧ c ≠ '.') :
    Scanned ['.'] [.symbol "."] after := by
  refine .token ?_
  have digit : after.head?.any Char.isDigit = false := by
    cases after with
    | nil => rfl
    | cons c rest => exact (noDigit c rfl).1
  have unmarked : marked? ('.' :: after) = none := marked?_eq_none (.inl (by decide))
  have alone : punctuationPiece '.' after = (some (.symbol "."), 0) := by
    unfold punctuationPiece
    split
    · next same _ => cases same
    · next same _ => cases same
    · next first => exact absurd rfl (noDigit '.' first).2
    · rfl
  rw [List.nil_append, piece?, unmarked]
  simp [isSpace, isNewline, startsName, operatorChars, digit, alone]

/-- An operator behind which a blank stands. -/
theorem scanned_operator {op : List Char}
    (known : op ∈ ["=", "<>", "<", "<=", ">", ">="].map String.toList) (after : List Char) :
    Scanned op [.symbol (String.ofList op)] (' ' :: after) := by
  simp only [List.map_cons, List.map_nil, List.mem_cons, List.not_mem_nil, or_false] at known
  rcases known with rfl | rfl | rfl | rfl | rfl | rfl <;>
    exact .token rfl

/-- An operator of one character that no further one belongs to. -/
theorem scanned_single {c : Char} (known : c ∈ ['-', '*'])
    (single : ∀ d ∈ after.head?, operatorChars.contains d = false) :
    Scanned [c] [.symbol (String.ofList [c])] after := by
  refine .token ?_
  simp only [List.mem_cons, List.not_mem_nil, or_false] at known
  have unmarked : marked? (c :: after) = none := by
    refine marked?_eq_none (.inl ?_)
    rcases known with rfl | rfl <;> decide
  have noDash : after.head? ≠ some '-' := by
    intro first
    exact absurd (single '-' first) (by decide)
  have run : after.takeWhile (operatorChars.contains ·) = [] := by
    cases after with
    | nil => rfl
    | cons d rest => rw [List.takeWhile_cons, single d rfl, if_neg Bool.false_ne_true]
  have alone : operatorPiece c after = (some (.symbol (String.ofList [c])), 0) := by
    rw [operatorPiece, run]
    rcases known with rfl | rfl <;> rfl
  rw [List.nil_append, piece?, unmarked]
  rcases known with rfl | rfl <;>
    simp [isSpace, isNewline, startsName, operatorChars, noDash, alone]

/-- The characters with which other pieces than names and numbers start. -/
def specialStarts : List Char := ['\n', '\r', ' ', '\t', '\x0b', '\x0c', '-', '/', '\'', '"']

/-- What starts with no special character is a name, a number or an operator. -/
theorem piece?_of_notMem {c : Char} {rest : List Char} (plain : c ∉ specialStarts)
    (unmarked : marked? (c :: rest) = none) : piece? c rest =
      if startsName c then
        some (some (.name (String.ofList (c :: rest.takeWhile continuesName))),
          (rest.takeWhile continuesName).length)
      else if c.isDigit || (c = '.' && rest.head?.any Char.isDigit) then numberPiece? (c :: rest)
      else if c = '$' then dollarPiece? rest
      else if operatorChars.contains c then some (operatorPiece c rest)
      else some (punctuationPiece c rest) := by
  simp only [specialStarts, List.mem_cons, List.not_mem_nil, or_false, not_or] at plain
  obtain ⟨n, r, b, t, v, f, dash, slash, quote, double⟩ := plain
  rw [piece?, unmarked]
  simp [isSpace, isNewline, n, r, b, t, v, f, dash, slash, quote, double]

/-- A name that is written without quotes. -/
def isName : List Char → Bool
  | [] => false
  | c :: rest => startsName c && rest.all continuesName

theorem exists_cons_of_isName {cs : List Char} (plain : isName cs) :
    ∃ c rest, cs = c :: rest ∧ startsName c := by
  cases cs with
  | nil => cases plain
  | cons c rest => exact ⟨c, rest, rfl, (Bool.and_eq_true_iff.1 plain).1⟩

theorem scanned_name {name : String} (plain : isName name.toList) (ends : EndsName after) :
    Scanned name.toList [.name name] after := by
  obtain ⟨cs, rfl⟩ : ∃ cs, name = String.ofList cs := ⟨name.toList, String.ofList_toList.symm⟩
  rw [String.toList_ofList] at plain ⊢
  cases cs with
  | nil => cases plain
  | cons c rest =>
      obtain ⟨start, parts⟩ := Bool.and_eq_true_iff.1 plain
      have first : c ∉ specialStarts := ConditionText.not_mem_of_all start (by decide)
      have unmarked : marked? (c :: (rest ++ after)) = none := by
        refine marked?_eq_none (.inr ?_)
        cases rest with
        | nil => exact fun d here => (ends d here).2
        | cons d rest =>
            rintro _ ⟨⟩
            have goesOn : continuesName d := List.all_eq_true.1 parts d List.mem_cons_self
            constructor <;> rintro rfl <;> revert goesOn <;> decide
      have run : (rest ++ after).takeWhile continuesName = rest :=
        ConditionText.takeWhile_append_of_ends parts fun d here => (ends d here).1
      refine .token ?_
      rw [piece?_of_notMem first unmarked, if_pos start, run]

/-! ## Numbers -/

theorem startsName_eq_false_of_isDigit {c : Char} (h : c.isDigit) : startsName c = false := by
  have bounds : 48 ≤ c.toNat ∧ c.toNat ≤ 57 := by
    simpa [Char.isDigit, UInt32.le_iff_toNat_le] using h
  have noLetter : c.isAlpha = false := ConditionText.isAlpha_eq_false (by omega)
  have noScore : c ≠ '_' := by
    rintro rfl
    cases h
  simp only [startsName, noLetter, noScore, decide_false, Bool.false_or, decide_eq_false_iff_not]
  omega

theorem digitRun_append {digits : List Char} (all : digits.all Char.isDigit)
    (ends : ∀ c ∈ after.head?, c.isDigit = false ∧ c ≠ '_') :
    digitRun Char.isDigit (digits ++ after) = digits := by
  induction digits with
  | nil =>
      match after, ends with
      | [], _ => rfl
      | [c], ends => simp [digitRun, (ends c rfl).1]
      | c :: d :: rest, ends => simp [digitRun, (ends c rfl).1]
  | cons c digits ih =>
      obtain ⟨first, more⟩ := Bool.and_eq_true_iff.1 all
      have run := ih more
      rw [List.cons_append]
      cases following : digits ++ after with
      | nil =>
          obtain ⟨rfl, -⟩ := List.append_eq_nil_iff.1 following
          simp [digitRun, first]
      | cons d rest =>
          have noScore : d ≠ '_' := by
            cases digits with
            | nil => exact (ends d (by rw [← List.nil_append after, following]; rfl)).2
            | cons d' digits =>
                obtain ⟨rfl, -⟩ := List.cons.inj following
                rintro rfl
                cases (Bool.and_eq_true_iff.1 more).1
          rw [following] at run
          simp [digitRun, first, noScore, run]

theorem fractionRun_append {fraction : List Char}
    (point : fraction = [] ∨ ∃ ds, fraction = '.' :: ds ∧ ds.all Char.isDigit)
    (breaks : Breaks after) : fractionRun (fraction ++ after) = fraction := by
  have ends : ∀ c ∈ after.head?, c.isDigit = false ∧ c ≠ '_' := by
    intro c first
    obtain rfl | rfl | rfl := breaks c first <;> decide
  obtain rfl | ⟨ds, rfl, all⟩ := point
  · cases after with
    | nil => rfl
    | cons c rest => obtain rfl | rfl | rfl := breaks c rfl <;> rfl
  · have single : ∀ rest, ds ++ after = '.' :: rest → False := by
      intro rest same
      cases ds with
      | nil =>
          have first := breaks '.' (by rw [← List.nil_append after, same]; rfl)
          revert first
          decide
      | cons d ds =>
          obtain ⟨rfl, -⟩ := List.cons.inj same
          cases (Bool.and_eq_true_iff.1 all).1
    rw [List.cons_append, fractionRun.eq_2 _ single, digitRun_append all ends]

/-- Neither a digit nor a point nor what ends a number marks another base. -/
theorem basedDigits_eq_nil {mark : Char} (rest : List Char)
    (plain : mark ∉ ['x', 'X', 'o', 'O', 'b', 'B']) : basedDigits mark rest = [] := by
  unfold basedDigits
  split <;> first | rfl | simp at plain

theorem numberRun_append {whole fraction : List Char} (nonempty : whole ≠ [])
    (digits : whole.all Char.isDigit)
    (point : fraction = [] ∨ ∃ ds, fraction = '.' :: ds ∧ ds.all Char.isDigit)
    (breaks : Breaks after) :
    numberRun (whole ++ (fraction ++ after)) = whole ++ fraction := by
  have ends : ∀ c ∈ (fraction ++ after).head?,
      (c.isDigit = false ∧ c ≠ '_') ∧ c ∉ ['x', 'X', 'o', 'O', 'b', 'B'] := by
    intro c first
    obtain rfl | ⟨ds, rfl, -⟩ := point
    · obtain rfl | rfl | rfl := breaks c first <;> decide
    · cases first
      decide
  have exponent : exponentRun after = [] := by
    cases after with
    | nil => rfl
    | cons c rest => obtain rfl | rfl | rfl := breaks c rfl <;> rfl
  have unmarked (mark : Char) (rest : List Char)
      (start : whole ++ (fraction ++ after) = '0' :: mark :: rest) :
      mark ∉ ['x', 'X', 'o', 'O', 'b', 'B'] := by
    match whole, nonempty with
    | [c], _ =>
        have second : fraction ++ after = mark :: rest := (List.cons.inj start).2
        exact (ends mark (by rw [second]; rfl)).2
    | c :: d :: whole, _ =>
        obtain ⟨rfl, -⟩ := List.cons.inj (List.cons.inj start).2
        have digit : d.isDigit := by
          simp only [List.all_cons, Bool.and_eq_true] at digits
          exact digits.2.1
        exact ConditionText.not_mem_of_all digit (by decide)
  have decimal : basedRun (whole ++ (fraction ++ after)) = [] := by
    unfold basedRun
    split
    · next mark rest start => simp [basedDigits_eq_nil rest (unmarked mark _ start)]
    · next mark rest _ start => simp [basedDigits_eq_nil rest (unmarked mark _ start)]
    · rfl
  simp only [numberRun, decimal, ne_eq, not_true_eq_false, if_false,
    digitRun_append digits fun c first => (ends c first).1, List.drop_left,
    fractionRun_append point breaks]
  rw [← List.append_assoc, List.drop_left, exponent, List.append_nil]

theorem scanned_number {cs : List Char} (plain : IsPlainNumber cs) (ends : Breaks after) :
    Scanned cs [.number (String.ofList cs)] after := by
  obtain ⟨whole, fraction, rfl, nonempty, digits, point⟩ := plain
  have run := numberRun_append nonempty digits point ends
  obtain ⟨c, whole, rfl⟩ := List.exists_cons_of_ne_nil nonempty
  have first : c.isDigit := (Bool.and_eq_true_iff.1 digits).1
  have special : c ∉ specialStarts := ConditionText.not_mem_of_all first (by decide)
  have noName : startsName c = false := startsName_eq_false_of_isDigit first
  have unmarked : marked? (c :: (whole ++ fraction ++ after)) = none :=
    marked?_eq_none (.inl (ConditionText.not_mem_of_all first (by decide)))
  have last : (after.head?.any fun c => startsName c || c.isDigit) = false := by
    cases after with
    | nil => rfl
    | cons c rest => obtain rfl | rfl | rfl := ends c rfl <;> rfl
  have whole_eq : c :: (whole ++ fraction ++ after) = (c :: whole) ++ (fraction ++ after) := by
    simp
  rw [List.cons_append]
  refine .token ?_
  rw [piece?_of_notMem special unmarked, noName, if_neg Bool.false_ne_true, first, whole_eq,
    Bool.true_or, if_pos rfl, numberPiece?, run, ← List.append_assoc, List.drop_left, last]
  simp

/-! ## Texts -/

theorem resumption?_of_ends (ends : Ends after) : resumption? (.blank false) after = none := by
  cases ends with
  | nothing => rfl
  | parenthesis rest => rfl
  | comma rest => rfl
  | @blank c rest solid noDash noQuote =>
      have noGap : Gap.extend? (.blank false) c = none := by
        have noNewline : isNewline c = false := by
          simp only [isSpace, Bool.or_eq_false_iff] at solid
          exact solid.1.1.1.1
        simp [Gap.extend?, noNewline, solid, noDash]
      have stops : resumption? (.blank false) (c :: rest) = none := by
        simp [resumption?, noGap]
      change (resumption? (.blank false) (c :: rest)).map (· + 1) = none
      rw [stops]
      rfl

/-- A character inside quotes. -/
def quoted (c : Char) : List Char := if c = '\'' then ['\'', '\''] else [c]

/-- What is quoted is read up to its last quote, whatever its characters are. -/
theorem textRest?_quoted (cs : List Char) (ends : Ends after) :
    textRest? .plain 0 (cs.flatMap quoted ++ '\'' :: after) =
      some (cs, (cs.flatMap quoted).length + 1) := by
  induction cs with
  | nil =>
      have single : after.head? ≠ some '\'' := by
        cases ends <;> simp
      simp [textRest?, single, resumption?_of_ends ends]
  | cons c cs ih =>
      by_cases quote : c = '\''
      · subst quote
        simp [quoted, textRest?, ih]
      · simp [quoted, quote, textRest?, ih]

/-- What is quoted is one text, with what is inside the quotes as its contents. -/
theorem scanned_text (s : String) (ends : Ends after) :
    Scanned (Value.quoteText s).toList [.text s] after := by
  have text : (Value.quoteText s).toList = '\'' :: (s.toList.flatMap quoted ++ ['\'']) := by
    rw [Value.quoteText, String.toList_ofList]
    rfl
  have body : (s.toList.flatMap quoted ++ ['\'']) ++ after =
      s.toList.flatMap quoted ++ '\'' :: after := by simp
  have unmarked : marked? ('\'' :: (s.toList.flatMap quoted ++ '\'' :: after)) = none :=
    marked?_eq_none (.inl (by decide))
  rw [text]
  refine .token ?_
  rw [body, piece?, unmarked]
  simp [isSpace, isNewline, textRest?_quoted s.toList ends]

end

/-! ## Lists of texts -/

/-- The tokens of a text are known wherever an expression can end. -/
def Complete (text : String) (ts : List Token) : Prop :=
  ∀ after, Ends after → Scanned text.toList ts after

/-- The tokens of a text that starts with a name are known wherever an expression can end. -/
structure Clause (text : String) (ts : List Token) : Prop where
  starts : ∃ c rest, text.toList = c :: rest ∧ startsName c
  complete : Complete text ts

/-- Lists of tokens with commas between them. -/
def separated : List (List Token) → List Token
  | [] => []
  | [ts] => ts
  | ts :: us :: rest => ts ++ .symbol "," :: separated (us :: rest)

namespace Complete

variable {texts : List String} {tss : List (List Token)}

/-- Texts between commas. -/
theorem separated (each : List.Forall₂ Complete texts tss) :
    Complete (", ".intercalate texts) (separated tss) := by
  intro after ends
  induction each with
  | nil => exact .nil
  | @cons text ts texts tss first further ih =>
      cases further with
      | nil =>
          rw [String.intercalate_singleton]
          exact first after ends
      | @cons text' ts' texts tss second further =>
          have whole : (", ".intercalate (text :: text' :: texts)).toList =
              text.toList ++ (',' :: (' ' :: (", ".intercalate (text' :: texts)).toList)) := by
            simp [String.intercalate_cons_cons]
          rw [whole]
          exact .append (first _ (.comma _)) (.mark (by decide) (.blank ih))

/-- Clauses with blanks between them. -/
theorem joined (each : List.Forall₂ Clause texts tss) :
    Complete (" ".intercalate texts) tss.flatten := by
  intro after ends
  induction each with
  | nil => exact .nil
  | @cons text ts texts tss first further ih =>
      cases further with
      | nil =>
          rw [String.intercalate_singleton, List.flatten_cons, List.flatten_nil, List.append_nil]
          exact first.complete after ends
      | @cons text' ts' texts tss second further =>
          have whole : (" ".intercalate (text :: text' :: texts)).toList =
              text.toList ++ (' ' :: (" ".intercalate (text' :: texts)).toList) := by
            simp [String.intercalate_cons_cons]
          obtain ⟨c, rest, spelled, start⟩ := second.starts
          rw [whole, List.flatten_cons]
          refine .append (first.complete _ ?_) (.blank ih)
          have starts : ∃ more, (" ".intercalate (text' :: texts)).toList = c :: more := by
            cases texts with
            | nil => exact ⟨rest, by rw [String.intercalate_singleton, spelled]⟩
            | cons text'' texts => exact ⟨_, by
                rw [String.intercalate_cons_cons, String.toList_append, String.toList_append,
                  spelled, List.cons_append, List.cons_append]⟩
          obtain ⟨more, starts⟩ := starts
          rw [starts]
          have plain : c ∉ specialStarts := ConditionText.not_mem_of_all start (by decide)
          simp only [specialStarts, List.mem_cons, List.not_mem_nil, or_false, not_or] at plain
          obtain ⟨n, r, b, t, v, f, dash, slash, quote, double⟩ := plain
          exact .blank (by simp [isSpace, isNewline, n, r, b, t, v, f]) dash quote

end Complete

end EntityQuery.Scanner
