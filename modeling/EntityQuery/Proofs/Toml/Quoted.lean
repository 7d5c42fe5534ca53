import EntityQuery.Toml.Printer
import EntityQuery.Toml.Quoted
import Mathlib.Data.List.Basic

/-!
# Quoted texts are read back

A text can be written between quotes in four ways, and the way is chosen by what is in it. Whatever
it holds, it is read back: characters that may not stand for themselves are escaped or excluded by
the choice, and quotes inside a text never stand three in a row, so that three of them end it. Two
of them may stand in front of the closing ones, which are then five, and the last three count.
-/

namespace EntityQuery.Toml

open TextReader

/-- What has been read with more characters in front. -/
def withFront (front : List Char) : Option (List Char × List Char) →
    Option (List Char × List Char) :=
  Option.map fun (text, rest) => (front ++ text, rest)

@[simp] theorem withFront_some (front text rest : List Char) :
    withFront front (some (text, rest)) = some (front ++ text, rest) := rfl

theorem bind_cons_eq_withFront (c : Char) (read : Option (List Char × List Char)) :
    (do
      let (text, rest) ← read
      some (c :: text, rest)) = withFront [c] read := by
  cases read <;> rfl

/-! ## Characters -/

theorem hexValue?_codeDigit (n : Nat) : hexValue? (codeDigit n) = some (n % 16) := by
  have all : ∀ d < 16, hexValue? ((Json.hexDigit d).toUpper) = some d := by decide
  exact all (n % 16) (Nat.mod_lt n (by decide))

/-- A control character is read back from its code point. -/
theorem escape?_codePoint {c : Char} (control : isControl c = true) (rest : List Char) :
    escape? ('u' :: '0' :: '0' :: codeDigit (c.toNat / 16) :: codeDigit c.toNat :: rest) =
      some (c, rest) := by
  have small : c.toNat < 128 := by
    simp only [isControl, Bool.or_eq_true, Bool.and_eq_true, decide_eq_true_eq, beq_iff_eq]
      at control
    omega
  have value : 16 * (16 * (16 * (16 * 0 + 0) + 0) + c.toNat / 16 % 16) + c.toNat % 16 = c.toNat := by
    omega
  have zero : hexValue? '0' = some 0 := rfl
  have valid : c.toNat.isValidChar := c.valid
  simp only [escape?, codePoint?, hexNumber?, zero, hexValue?_codeDigit, Option.bind_some, value,
    Option.bind_eq_bind, if_pos valid, Char.ofNat_toNat]

/-- How a character may be written between double quotes. -/
inductive Spells (block : Bool) (c : Char) : List Char → Prop
  | plain (plain : isPlain c = true) (other : c ≠ '\\') : Spells block c [c]
  | lineBreak (newline : c = '\n') (several : block = true) : Spells block c [c]
  /-- What follows the backslash is no blank and no line break, so the line goes on. -/
  | escape {d : Char} {e : List Char} (read : ∀ rest, escape? (d :: e ++ rest) = some (c, rest))
    (solid : isBlank d = false) (unbroken : d ≠ '\n') (unreturned : d ≠ '\r') :
    Spells block c ('\\' :: d :: e)

theorem isPlain_of_not_isControl {c : Char} (h : isControl c = false) (unbroken : c ≠ '\n') :
    isPlain c = true := by
  simp only [isControl, isPlain, Bool.or_eq_false_iff, Bool.and_eq_false_iff, decide_eq_false_iff_not,
    bne_eq_false_iff_eq, beq_eq_false_iff_ne, Bool.or_eq_true, beq_iff_eq, Bool.and_eq_true,
    decide_eq_true_eq, bne_iff_ne] at h ⊢
  obtain ⟨(more | tab) | newline, last⟩ := h
  · exact .inr ⟨by omega, last⟩
  · exact .inl tab
  · exact absurd newline unbroken

/-- A quote is written behind a backslash. -/
theorem spells_quote (block : Bool) : Spells block '"' ['\\', '"'] :=
  .escape (fun _ => rfl) (by decide) (by decide) (by decide)

theorem spells_escapeChar (block : Bool) (c : Char) : Spells block c (escapeChar block c) := by
  unfold escapeChar
  split
  · exact .escape (fun _ => rfl) (by decide) (by decide) (by decide)
  · exact .escape (fun _ => rfl) (by decide) (by decide) (by decide)
  · cases block with
    | true => exact .lineBreak rfl rfl
    | false => exact .escape (fun _ => rfl) (by decide) (by decide) (by decide)
  · exact .escape (fun _ => rfl) (by decide) (by decide) (by decide)
  · exact .escape (fun _ => rfl) (by decide) (by decide) (by decide)
  · exact .escape (fun _ => rfl) (by decide) (by decide) (by decide)
  · next unbroken _ _ other =>
      by_cases control : isControl c = true
      · rw [if_pos control]
        exact .escape (escape?_codePoint control) (by decide) (by decide) (by decide)
      · rw [if_neg control]
        exact .plain (isPlain_of_not_isControl (by simpa using control) unbroken) other

theorem Spells.length_pos {block : Bool} {c : Char} {written : List Char}
    (h : Spells block c written) : 0 < written.length := by
  cases h <;> simp

/-- Only a backslash between double quotes begins an escape. -/
theorem no_escape {quote c : Char} (unescaped : quote = '"' → c ≠ '\\') :
    ¬ (c = '\\' && quote == '"') = true := by
  simp only [Bool.and_eq_true, decide_eq_true_eq, beq_iff_eq, not_and]
  intro slash double
  exact unescaped double slash

/-- A line ends with a line feed, in front of which there may be a carriage return. -/
theorem lineBreak?_of_ne {c : Char} (unbroken : c ≠ '\n') (unreturned : c ≠ '\r')
    (rest : List Char) : lineBreak? (c :: rest) = none := by
  rw [lineBreak?]
  · intro rest' same
    exact unbroken (List.cons.inj same).1
  · intro rest' same
    exact unreturned (List.cons.inj same).1

/-! ## Texts on one line -/

theorem lineTail_close (quote : Char) (n : Nat) (rest : List Char) :
    lineTail quote (n + 1) (quote :: rest) = some ([], rest) := by
  rw [lineTail, if_pos rfl]

theorem lineTail_plain {quote c : Char} (plain : isPlain c = true) (other : c ≠ quote)
    (unescaped : quote = '"' → c ≠ '\\') (n : Nat) (rest : List Char) :
    lineTail quote (n + 1) (c :: rest) = withFront [c] (lineTail quote n rest) := by
  rw [lineTail, if_neg other, if_neg (no_escape unescaped), if_pos plain]
  exact bind_cons_eq_withFront c _

theorem lineTail_spells {c : Char} {written : List Char} (h : Spells false c written)
    (other : c ≠ '"' ∨ written ≠ [c]) (n : Nat) (rest : List Char) :
    lineTail '"' (n + 1) (written ++ rest) = withFront [c] (lineTail '"' n rest) := by
  cases h with
  | plain plain unescaped =>
      exact lineTail_plain plain (other.resolve_right (not_not_intro rfl)) (fun _ => unescaped) n rest
  | lineBreak _ several => cases several
  | escape read =>
      have found := read rest
      rw [List.cons_append, lineTail, if_neg (by decide), if_pos (by decide), found]
      exact bind_cons_eq_withFront c _

/-- Characters between double quotes are read up to the closing quote. -/
theorem lineTail_escaped {cs : List Char} {n : Nat} (enough : cs.length < n) (rest : List Char) :
    lineTail '"' n (escaped false 0 0 cs ++ '"' :: rest) = some (cs, rest) := by
  induction cs generalizing n with
  | nil =>
      obtain ⟨n, rfl⟩ := Nat.exists_eq_add_one_of_ne_zero (Nat.ne_zero_of_lt enough)
      exact lineTail_close '"' n rest
  | cons c cs ih =>
      obtain ⟨n, rfl⟩ := Nat.exists_eq_add_one_of_ne_zero (Nat.ne_zero_of_lt enough)
      have further := ih (Nat.lt_of_succ_lt_succ enough)
      by_cases double : c = '"'
      · subst double
        have first := lineTail_spells (spells_quote false) (.inr (by simp)) n
          (escaped false 0 0 cs ++ '"' :: rest)
        rw [further] at first
        simpa [escaped] using first
      · have first := lineTail_spells (spells_escapeChar false c) (.inl double) n
          (escaped false 0 0 cs ++ '"' :: rest)
        rw [further] at first
        simpa [escaped, double] using first

/-- Characters between single quotes stand for themselves. -/
theorem lineTail_literal {cs : List Char} {n : Nat} (plain : ∀ c ∈ cs, isPlain c = true)
    (unquoted : '\'' ∉ cs) (enough : cs.length < n) (rest : List Char) :
    lineTail '\'' n (cs ++ '\'' :: rest) = some (cs, rest) := by
  induction cs generalizing n with
  | nil =>
      obtain ⟨n, rfl⟩ := Nat.exists_eq_add_one_of_ne_zero (Nat.ne_zero_of_lt enough)
      exact lineTail_close '\'' n rest
  | cons c cs ih =>
      obtain ⟨n, rfl⟩ := Nat.exists_eq_add_one_of_ne_zero (Nat.ne_zero_of_lt enough)
      rw [List.forall_mem_cons] at plain
      rw [List.mem_cons, not_or] at unquoted
      rw [List.cons_append, lineTail_plain plain.1 (Ne.symm unquoted.1) (by simp),
        ih plain.2 unquoted.2 (Nat.lt_of_succ_lt_succ enough)]
      rfl

/-! ## Texts over several lines -/

section

variable {quote : Char} {k n : Nat} {cs rest tail : List Char}

theorem takeWhile_quotes (k : Nat) (other : rest.head? ≠ some quote) :
    (List.replicate k quote ++ rest).takeWhile (· == quote) = List.replicate k quote := by
  rw [List.takeWhile_append_of_pos (by simp)]
  cases rest with
  | nil => simp
  | cons c rest =>
      have different : c ≠ quote := by simpa using other
      simp [different]

theorem dropWhile_quotes (k : Nat) (other : rest.head? ≠ some quote) :
    (List.replicate k quote ++ rest).dropWhile (· == quote) = rest := by
  rw [List.dropWhile_append_of_pos (by simp)]
  cases rest with
  | nil => rfl
  | cons c rest =>
      have different : c ≠ quote := by simpa using other
      simp [different]

/-- Of three to five quotes the last three close the text. -/
theorem blockTail_close (few : k ≤ 2) (other : rest.head? ≠ some quote) :
    blockTail quote (n + 1) (List.replicate k quote ++ quote :: quote :: quote :: rest) =
      some (List.replicate k quote, rest) := by
  have row : List.replicate k quote ++ quote :: quote :: quote :: rest =
      quote :: (List.replicate (k + 2) quote ++ rest) := by
    rw [List.replicate_add, List.append_assoc, ← List.cons_append, ← List.replicate_succ,
      List.replicate_succ', List.append_assoc]
    rfl
  rw [row, blockTail, if_pos rfl, takeWhile_quotes _ other, dropWhile_quotes _ other,
    List.length_replicate, if_neg (by omega), if_pos (by omega), Nat.add_sub_cancel]

/-- One quote or two that do not close the text belong to it. -/
theorem blockTail_quotes (few : k < 2) (other : rest.head? ≠ some quote) :
    blockTail quote (n + 1) (List.replicate (k + 1) quote ++ rest) =
      withFront (List.replicate (k + 1) quote) (blockTail quote n rest) := by
  rw [List.replicate_succ, List.cons_append, blockTail, if_pos rfl, takeWhile_quotes _ other,
    dropWhile_quotes _ other, List.length_replicate, if_pos few]
  cases blockTail quote n rest <;> rfl

theorem blockTail_lineBreak (other : quote ≠ '\n') :
    blockTail quote (n + 1) ('\n' :: rest) = withFront ['\n'] (blockTail quote n rest) := by
  rw [blockTail, if_neg (Ne.symm other), lineBreak?_newline]
  exact bind_cons_eq_withFront '\n' _

theorem lineBreak?_of_isPlain {c : Char} (plain : isPlain c = true) :
    lineBreak? (c :: rest) = none := by
  have unbroken : c ≠ '\n' := by
    rintro rfl
    cases plain
  have unreturned : c ≠ '\r' := by
    rintro rfl
    cases plain
  exact lineBreak?_of_ne unbroken unreturned rest

theorem blockTail_plain {c : Char} (plain : isPlain c = true) (other : c ≠ quote)
    (unescaped : quote = '"' → c ≠ '\\') :
    blockTail quote (n + 1) (c :: rest) = withFront [c] (blockTail quote n rest) := by
  rw [blockTail, if_neg other, lineBreak?_of_isPlain plain, if_neg (no_escape unescaped),
    if_pos plain]
  exact bind_cons_eq_withFront c _

theorem continuation?_of_solid {d : Char} (solid : isBlank d = false) (unbroken : d ≠ '\n')
    (unreturned : d ≠ '\r') : continuation? (d :: rest) = none := by
  rw [continuation?, List.dropWhile_cons_of_neg (by simp [solid]),
    lineBreak?_of_ne unbroken unreturned]
  rfl

theorem blockTail_spells {c : Char} {written : List Char} (h : Spells true c written)
    (other : c ≠ '"' ∨ written ≠ [c]) :
    blockTail '"' (n + 1) (written ++ rest) = withFront [c] (blockTail '"' n rest) := by
  cases h with
  | plain plain unescaped =>
      exact blockTail_plain plain (other.resolve_right (not_not_intro rfl)) fun _ => unescaped
  | lineBreak newline =>
      subst newline
      exact blockTail_lineBreak (by decide)
  | escape read solid unbroken unreturned =>
      have found := read rest
      rw [List.cons_append, List.cons_append, blockTail, if_neg (by decide)]
      rw [List.cons_append] at found
      simp only [lineBreak?, continuation?_of_solid solid unbroken unreturned, found]
      exact bind_cons_eq_withFront c _

theorem head?_of_spells {c : Char} {written : List Char} {block : Bool} (h : Spells block c written)
    (other : c ≠ '"' ∨ written ≠ [c]) : (written ++ rest).head? ≠ some '"' := by
  cases h with
  | plain => simpa using other
  | lineBreak newline => simp [newline]
  | escape => simp

/-- A character that is no quote is read behind at most two quotes, as it is without them. -/
theorem blockTail_next {c : Char} {next : List Char} (few : k ≤ 2)
    (other : next.head? ≠ some quote)
    (first : ∀ n, blockTail quote (n + 1) next = withFront [c] (blockTail quote n rest))
    (enough : cs.length + k + 1 < n)
    (further : ∀ n, cs.length < n → blockTail quote n rest = some (cs, tail)) :
    blockTail quote n (List.replicate k quote ++ next) =
      some (List.replicate k quote ++ c :: cs, tail) := by
  cases k with
  | zero =>
      obtain ⟨n, rfl⟩ := Nat.exists_eq_add_one_of_ne_zero (Nat.ne_zero_of_lt enough)
      rw [List.replicate_zero, List.nil_append, first, further n (Nat.lt_of_succ_lt_succ enough)]
      rfl
  | succ k =>
      obtain ⟨n, rfl⟩ := Nat.exists_eq_add_of_le' (show 2 ≤ n by omega)
      rw [blockTail_quotes few other, first, further n (by omega)]
      rfl

/-- The character that is written next, where it is no quote or is written as an escape. -/
theorem blockTail_written {c : Char} {written : List Char} (few : k ≤ 2)
    (h : Spells true c written) (other : c ≠ '"' ∨ written ≠ [c]) (enough : cs.length + k + 1 < n)
    (further : ∀ n, cs.length < n → blockTail '"' n rest = some (cs, tail)) :
    blockTail '"' n (List.replicate k '"' ++ (written ++ rest)) =
      some (List.replicate k '"' ++ c :: cs, tail) :=
  blockTail_next few (head?_of_spells h other) (fun _ => blockTail_spells h other) enough further

/-- Characters are read up to the closing quotes, wherever in a row of quotes the writer stands: the
quotes of the row that are in front of it are read with those that follow. -/
theorem blockTail_escaped {cs : List Char} (left : Nat) (most : left ≤ 2) {n : Nat}
    (enough : cs.length + (2 - left) < n) (other : rest.head? ≠ some '"') :
    blockTail '"' n (List.replicate (2 - left) '"' ++
        (escaped true 2 left cs ++ '"' :: '"' :: '"' :: rest)) =
      some (List.replicate (2 - left) '"' ++ cs, rest) := by
  induction cs generalizing left n with
  | nil =>
      obtain ⟨n, rfl⟩ := Nat.exists_eq_add_one_of_ne_zero (Nat.ne_zero_of_lt enough)
      rw [escaped_nil, List.nil_append, List.append_nil]
      exact blockTail_close (Nat.sub_le 2 left) other
  | cons c cs ih =>
      have further (n : Nat) (enough : cs.length < n) :
          blockTail '"' n (escaped true 2 2 cs ++ '"' :: '"' :: '"' :: rest) = some (cs, rest) :=
        ih 2 (Nat.le_refl 2) enough
      rw [List.length_cons] at enough
      by_cases double : c = '"'
      · subst double
        cases left with
        | zero =>
            have next := blockTail_written (Nat.le_refl 2) (spells_quote true) (.inr (by simp))
              (by omega) further
            simpa [escaped] using next
        | succ left =>
            have row := ih left (by omega) (n := n) (by omega)
            have count : 2 - left = 2 - (left + 1) + 1 := by omega
            rw [count, List.replicate_succ', List.append_assoc, List.append_assoc] at row
            simpa [escaped] using row
      · have room : cs.length + (2 - left) + 1 < n := by omega
        have next := blockTail_written (Nat.sub_le 2 left) (spells_escapeChar true c)
          (.inl double) room further
        simpa [escaped, double] using next

/-! ## Rows of quotes -/

/-- The row of equal characters that ends here, and the longest row so far, behind one more
character. -/
def rowStep (quote : Char) (row : Nat × Nat) (c : Char) : Nat × Nat :=
  if c = quote then (row.1 + 1, max row.2 (row.1 + 1)) else (0, row.2)

theorem longestRun_eq (quote : Char) (cs : List Char) :
    longestRun quote cs = (cs.foldl (rowStep quote) (0, 0)).2 := rfl

theorem le_longest (row : Nat × Nat) (cs : List Char) :
    row.2 ≤ (cs.foldl (rowStep quote) row).2 := by
  induction cs generalizing row with
  | nil => exact Nat.le_refl _
  | cons c cs ih =>
      refine Nat.le_trans ?_ (ih (rowStep quote row c))
      unfold rowStep
      split
      · exact Nat.le_max_left _ _
      · exact Nat.le_refl _

/-- Characters that stand for themselves are read up to the closing quotes, if no row of quotes is
longer than two. The row that ends at the reader is read with the quotes that follow. -/
theorem blockTail_literal {longest : Nat} (few : k ≤ 2)
    (rows : (cs.foldl (rowStep '\'') (k, longest)).2 ≤ 2)
    (plain : ∀ c ∈ cs, isPlain c = true ∨ c = '\n') (enough : cs.length + k < n)
    (other : rest.head? ≠ some '\'') :
    blockTail '\'' n (List.replicate k '\'' ++ (cs ++ '\'' :: '\'' :: '\'' :: rest)) =
      some (List.replicate k '\'' ++ cs, rest) := by
  induction cs generalizing k n longest with
  | nil =>
      obtain ⟨n, rfl⟩ := Nat.exists_eq_add_one_of_ne_zero (Nat.ne_zero_of_lt enough)
      rw [List.nil_append, List.append_nil]
      exact blockTail_close few other
  | cons c cs ih =>
      rw [List.forall_mem_cons] at plain
      rw [List.length_cons] at enough
      rw [List.foldl_cons, rowStep] at rows
      by_cases single : c = '\''
      · rw [if_pos single] at rows
        have longer : k + 1 ≤ 2 :=
          Nat.le_trans (Nat.le_max_right longest (k + 1)) (Nat.le_trans
            (le_longest (k + 1, max longest (k + 1)) cs) rows)
        have row := ih (k := k + 1) (n := n) longer rows plain.2 (by omega)
        rw [List.replicate_succ', List.append_assoc, List.append_assoc] at row
        rw [single]
        exact row
      · rw [if_neg single] at rows
        have further (n : Nat) (enough : cs.length < n) :
            blockTail '\'' n (cs ++ '\'' :: '\'' :: '\'' :: rest) = some (cs, rest) :=
          ih (k := 0) (Nat.zero_le 2) rows plain.2 enough
        refine blockTail_next few (by simpa using single) (fun n => ?_) (by omega) further
        obtain standing | rfl := plain.1
        · exact blockTail_plain standing single (by simp)
        · exact blockTail_lineBreak (by decide)

end

/-! ## The four ways of quoting -/

/-- What follows a quoted text does not go on with a quote. -/
structure Closes (rest : List Char) : Prop where
  double : rest.head? ≠ some '"'
  single : rest.head? ≠ some '\''

theorem isPlain_of_noControl {cs : List Char} (none : cs.any isControl = false) :
    ∀ c ∈ cs, isPlain c = true ∨ c = '\n' := by
  intro c mem
  by_cases newline : c = '\n'
  · exact .inr newline
  · have harmless : isControl c = false := by simpa using List.any_eq_false.1 none c mem
    exact .inl (isPlain_of_not_isControl harmless newline)

/-- Characters stand for themselves between single quotes if these are chosen. -/
theorem plain_of_choose {cs : List Char} (h : Quotes.choose cs = .literal) :
    (∀ c ∈ cs, isPlain c = true) ∧ '\'' ∉ cs := by
  unfold Quotes.choose at h
  dsimp only at h
  split at h
  · cases h
  split at h
  · next unquoted =>
      simp only [Bool.and_eq_true, Bool.not_eq_true', List.contains_eq_mem,
        decide_eq_false_iff_not] at unquoted
      obtain ⟨⟨controls, unbroken⟩, unquoted⟩ := unquoted
      refine ⟨fun c mem => ?_, unquoted⟩
      obtain plain | rfl := isPlain_of_noControl controls c mem
      · exact plain
      · exact absurd mem unbroken
  · repeat' split at h
    all_goals cases h

/-- Characters stand for themselves between triple single quotes if these are chosen. -/
theorem rows_of_choose {cs : List Char} (h : Quotes.choose cs = .literalBlock) :
    (∀ c ∈ cs, isPlain c = true ∨ c = '\n') ∧ longestRun '\'' cs ≤ 2 := by
  unfold Quotes.choose at h
  dsimp only at h
  split at h
  · cases h
  split at h
  · cases h
  split at h
  · cases h
  split at h
  · next rows =>
      simp only [Bool.and_eq_true, Bool.not_eq_true', decide_eq_true_eq] at rows
      exact ⟨isPlain_of_noControl rows.1, rows.2⟩
  · split at h <;> cases h

/-- The line break that is written right behind the opening quotes is left out again, and where none
is written the text does not begin with one. -/
theorem lineBreak?_start {cs contents : List Char} (start : contents.head? ≠ some '\r')
    (broken : contents.head? = some '\n' → '\n' ∈ cs) :
    (lineBreak? ((if true && cs.contains '\n' then ['\n'] else []) ++ contents)).getD
      ((if true && cs.contains '\n' then ['\n'] else []) ++ contents) = contents := by
  by_cases several : '\n' ∈ cs
  · simp [several]
  · have none : lineBreak? contents = none := by
      rw [lineBreak?]
      · rintro rest rfl
        exact several (broken rfl)
      · rintro rest rfl
        exact start rfl
    simp [several, none]

theorem escaped_of_not_quote (block : Bool) (allowed left : Nat) {c : Char} (other : c ≠ '"')
    (cs : List Char) :
    escaped block allowed left (c :: cs) =
      escapeChar block c ++ escaped block allowed allowed cs := by
  rw [escaped.eq_def]
  exact if_neg other

/-- What is written is no shorter than the text. -/
theorem length_le_escaped (block : Bool) (allowed left : Nat) (cs : List Char) :
    cs.length ≤ (escaped block allowed left cs).length := by
  induction cs generalizing left with
  | nil => exact Nat.zero_le _
  | cons c cs ih =>
      by_cases double : c = '"'
      · cases left with
        | zero =>
            rw [escaped, if_pos double, List.length_cons, List.length_cons, List.length_cons]
            exact Nat.succ_le_succ (Nat.le_succ_of_le (ih allowed))
        | succ left =>
            rw [escaped, if_pos double, List.length_cons, List.length_cons]
            exact Nat.succ_le_succ (ih left)
      · have some := (spells_escapeChar block c).length_pos
        have further := ih allowed
        rw [escaped_of_not_quote block allowed left double, List.length_append, List.length_cons]
        omega

/-- A text of several lines begins with a line break only if it has one. -/
theorem head?_escaped (cs rest : List Char) :
    (escaped true 2 2 cs ++ '"' :: rest).head? ≠ some '\r' ∧
      ((escaped true 2 2 cs ++ '"' :: rest).head? = some '\n' → '\n' ∈ cs) := by
  cases cs with
  | nil => simp
  | cons c cs =>
      by_cases double : c = '"'
      · simp [escaped, double]
      · have spelled := spells_escapeChar true c
        rw [escaped_of_not_quote true 2 2 double]
        generalize escapeChar true c = written at spelled ⊢
        cases spelled with
        | plain plain =>
            have unreturned : c ≠ '\r' := by
              rintro rfl
              cases plain
            refine ⟨by simpa using unreturned, fun same => ?_⟩
            exact List.mem_cons.2 (.inl (Option.some.inj same).symm)
        | lineBreak newline => simp [newline]
        | escape => simp

/-- Behind an opening quote that is not the first one of three, the text is on one line. -/
theorem quoted?_line {c : Char} (mark : c = '"' ∨ c = '\'') {cs tail rest : List Char}
    (lone : ∀ after, tail ≠ c :: c :: after)
    (read : lineTail c (tail.length + 1) tail = some (cs, rest)) :
    quoted? (c :: tail) = some (String.ofList cs, rest) := by
  have line : lineText? (c :: tail) = some (String.ofList cs, rest) := by
    have isMark : (c = '"' || c = '\'') = true := by simpa using mark
    rw [lineText?, if_pos isMark, read]
    rfl
  rw [← line, quoted?]
  · rintro after same
    obtain ⟨rfl, later⟩ := List.cons.inj same
    exact lone after later
  · rintro after same
    obtain ⟨rfl, later⟩ := List.cons.inj same
    exact lone after later

theorem blockText?_of_blockTail {quote : Char} {start contents cs rest : List Char}
    (begun : (lineBreak? (start ++ contents)).getD (start ++ contents) = contents)
    (read : blockTail quote (contents.length + 1) contents = some (cs, rest)) :
    blockText? quote (start ++ contents) = some (String.ofList cs, rest) := by
  simp only [blockText?, begun, read, Option.map_some]

/-- On one line, no quote that closes a text that is not empty stands right behind the opening
one. -/
theorem head?_escaped_line {c : Char} (cs rest : List Char) :
    (escaped false 0 0 (c :: cs) ++ rest).head? ≠ some '"' := by
  by_cases double : c = '"'
  · simp [escaped, double]
  · rw [escaped_of_not_quote false 0 0 double, List.append_assoc]
    exact head?_of_spells (spells_escapeChar false c) (.inl double)

theorem head?_literal {cs : List Char} (plain : ∀ c ∈ cs, isPlain c = true ∨ c = '\n')
    (rest : List Char) :
    (cs ++ '\'' :: rest).head? ≠ some '\r' ∧
      ((cs ++ '\'' :: rest).head? = some '\n' → '\n' ∈ cs) := by
  cases cs with
  | nil => simp
  | cons c cs =>
      have unreturned : c ≠ '\r' := by
        rintro rfl
        obtain plain | newline := plain '\r' List.mem_cons_self
        · cases plain
        · cases newline
      refine ⟨by simpa using unreturned, fun same => ?_⟩
      exact List.mem_cons.2 (.inl (Option.some.inj same).symm)

/-- Every text is read back from its quotes. -/
theorem quoted?_quote (s : String) {rest : List Char} (closes : Closes rest) :
    quoted? ((quote s).toList ++ rest) = some (s, rest) := by
  have whole : some (String.ofList s.toList, rest) = some (s, rest) := by rw [String.ofList_toList]
  rw [quote, String.toList_ofList, ← whole]
  generalize s.toList = cs
  cases way : Quotes.choose cs <;>
    simp only [Quotes.marks, Quotes.contents, Quotes.isBlock, Bool.false_and, Bool.false_eq_true,
      if_false, List.append_nil, List.append_assoc, List.cons_append, List.nil_append]
  case basic =>
    refine quoted?_line (.inl rfl) ?_ (lineTail_escaped ?_ rest)
    · intro after same
      cases cs with
      | nil => exact closes.double (by simpa using congrArg (·.tail.head?) same)
      | cons c cs => exact head?_escaped_line cs _ (congrArg List.head? same)
    · have long := length_le_escaped false 0 0 cs
      rw [List.length_append]
      omega
  case literal =>
    obtain ⟨plain, unquoted⟩ := plain_of_choose way
    refine quoted?_line (.inr rfl) ?_ (lineTail_literal plain unquoted ?_ rest)
    · intro after same
      cases cs with
      | nil => exact closes.single (by simpa using congrArg (·.tail.head?) same)
      | cons c cs => exact unquoted (by simp [(List.cons.inj same).1])
    · rw [List.length_append]
      omega
  case basicBlock =>
    obtain ⟨start, broken⟩ := head?_escaped cs ('"' :: '"' :: rest)
    refine blockText?_of_blockTail (lineBreak?_start start broken) ?_
    refine blockTail_escaped 2 (Nat.le_refl 2) ?_ closes.double
    have long := length_le_escaped true 2 2 cs
    rw [List.length_append]
    omega
  case literalBlock =>
    obtain ⟨plain, rows⟩ := rows_of_choose way
    obtain ⟨start, broken⟩ := head?_literal plain ('\'' :: '\'' :: rest)
    refine blockText?_of_blockTail (lineBreak?_start start broken) ?_
    rw [longestRun_eq] at rows
    refine blockTail_literal (Nat.zero_le 2) rows plain ?_ closes.single
    rw [List.length_append]
    omega

end EntityQuery.Toml
