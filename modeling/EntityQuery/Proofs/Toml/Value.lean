import EntityQuery.Proofs.Numeral
import EntityQuery.Proofs.Toml.Quoted
import EntityQuery.Toml.Reader

/-!
# Values of settings are read back

A value of a setting is a text, a number, a flag or a list of texts. Each is read back from how it is
written in front of the end of its line. For a number this means that its digits are neither taken
for a date nor for a time, that none of them is a leading zero, and that the number fits the signed
numbers of sixty-four bits, since no other integer can be read.
-/

namespace EntityQuery.Toml

open TextReader

/-- A character is none of those that fail a test it passes. -/
theorem ne_of_passed {test : Char → Bool} {c mark : Char} (passed : test c = true)
    (failed : test mark = false) : c ≠ mark := by
  rintro rfl
  rw [passed] at failed
  cases failed

theorem isBlank_of_passed {test : Char → Bool} {c : Char} (passed : test c = true)
    (space : test ' ' = false) (tab : test '\t' = false) : isBlank c = false := by
  rw [isBlank, Bool.or_eq_false_iff, beq_eq_false_iff_ne, beq_eq_false_iff_ne]
  exact ⟨ne_of_passed passed space, ne_of_passed passed tab⟩

/-! ## Numbers -/

/-- The values of decimal digits. -/
def digitValues (digits : List Char) : List Nat := digits.map fun c => c.toNat - '0'.toNat

section

variable {digits more : List Char} {n : Nat}

/-- After a fixed number of digits there are only digits up to the end of the line. -/
theorem fixedDigits?_digits {count read m : Nat} {rest : List Char}
    (all : digits.all Char.isDigit)
    (h : fixedDigits? count read (digits ++ '\n' :: more) = some (m, rest)) :
    ∃ left, left.all Char.isDigit ∧ rest = left ++ '\n' :: more := by
  induction count generalizing digits read with
  | zero =>
      cases h
      exact ⟨digits, all, rfl⟩
  | succ count ih =>
      cases digits with
      | nil => cases h
      | cons c digits =>
          rw [List.all_cons, Bool.and_eq_true] at all
          rw [List.cons_append, fixedDigits?, if_pos all.1] at h
          exact ih all.2 h

theorem mark?_digits {mark : Char} (all : digits.all Char.isDigit) (noDigit : mark.isDigit = false)
    (unbroken : mark ≠ '\n') : mark? mark (digits ++ '\n' :: more) = none := by
  cases digits with
  | nil => exact if_neg (Ne.symm unbroken)
  | cons c digits =>
      rw [List.all_cons, Bool.and_eq_true] at all
      exact if_neg (ne_of_passed all.1 noDigit)

/-- Digits alone are no date and no time. -/
theorem moment?_digits (all : digits.all Char.isDigit) : moment? (digits ++ '\n' :: more) = none := by
  have noDate : date? (digits ++ '\n' :: more) = none := by
    rw [date?]
    cases read : fixedDigits? 4 0 (digits ++ '\n' :: more) with
    | none => rfl
    | some found =>
        obtain ⟨left, digits', same⟩ := fixedDigits?_digits all read
        simp [same, mark?_digits digits']
  have noTime : time? (digits ++ '\n' :: more) = none := by
    rw [time?]
    cases hour : pair? 0 23 (digits ++ '\n' :: more) with
    | none => rfl
    | some found =>
        have read := (Option.filter_eq_some_iff.1 hour).1
        obtain ⟨left, digits', same⟩ := fixedDigits?_digits all read
        simp [same, mark?_digits digits']
  rw [moment?, noDate, noTime]

theorem digitBelow?_of_isDigit {c : Char} (digit : c.isDigit) :
    digitBelow? 10 c = some (c.toNat - '0'.toNat) := by
  have small := Numeral.digit_le digit
  rw [digitBelow?, hexValue?, if_pos digit, Option.filter_some]
  exact if_pos (decide_eq_true (Nat.lt_succ_of_le small))

theorem moreDigits_digits (all : digits.all Char.isDigit) :
    moreDigits 10 (digits ++ '\n' :: more) = (digitValues digits, '\n' :: more) := by
  induction digits with
  | nil => rfl
  | cons c digits ih =>
      rw [List.all_cons, Bool.and_eq_true] at all
      rw [List.cons_append, moreDigits, digitBelow?_of_isDigit all.1, ih all.2]
      · rfl
      · rintro d ds rfl
        cases all.1

theorem digits?_digits (all : digits.all Char.isDigit) (nonempty : digits ≠ []) :
    digits? 10 (digits ++ '\n' :: more) = some (digitValues digits, '\n' :: more) := by
  cases digits with
  | nil => exact absurd rfl nonempty
  | cons c digits =>
      rw [List.all_cons, Bool.and_eq_true] at all
      rw [List.cons_append, digits?, digitBelow?_of_isDigit all.1, moreDigits_digits all.2]
      rfl

theorem ofDigits_digitValues (digits : List Char) :
    ofDigits 10 (digitValues digits) = Numeral.extend 0 digits := by
  have each (read : Nat) : (digitValues digits).foldl (fun n d => 10 * n + d) read =
      Numeral.extend read digits := by
    induction digits generalizing read with
    | nil =>
        rw [Numeral.extend.eq_def]
        rfl
    | cons c digits ih =>
        rw [Numeral.extend_cons, ← ih]
        rfl
  exact each 0

theorem extend_toDigits (n : Nat) : Numeral.extend 0 (Nat.toDigits 10 n) = n := by
  have read := Numeral.nat?_toDigits n
  obtain ⟨-, -, same⟩ := Numeral.nat?_eq_some read
  exact same.symm

/-- A number that is not zero begins with a digit that is not zero. -/
theorem head?_toDigits (n : Nat) (some : n ≠ 0) : (Nat.toDigits 10 n).head? ≠ .some '0' := by
  induction n using Nat.strongRecOn with
  | _ n ih =>
      by_cases small : n < 10
      · rw [Nat.toDigits_of_lt_base small]
        have all : ∀ n < 10, n ≠ 0 → [Nat.digitChar n].head? ≠ .some '0' := by decide
        exact all n small some
      · have front := ih (n / 10) (by omega) (by omega)
        rw [Nat.toDigits_of_base_le (by decide) (by omega),
          List.head?_append_of_ne_nil _ Nat.toDigits_ne_nil]
        exact front

/-- The digits of a number have no leading zero. -/
theorem noLeadingZero (n : Nat) :
    ¬ ((digitValues (Nat.toDigits 10 n)).head? = some 0 &&
      1 < (digitValues (Nat.toDigits 10 n)).length) = true := by
  by_cases zero : n = 0
  · rw [zero]
    decide
  · have front := head?_toDigits n zero
    have digits := Numeral.toDigits_all_isDigit n
    have some : (digitValues (Nat.toDigits 10 n)).head? ≠ some 0 := by
      cases written : Nat.toDigits 10 n with
      | nil => simp [digitValues]
      | cons c cs =>
          rw [written] at front digits
          rw [List.all_cons, Bool.and_eq_true, Char.isDigit, Bool.and_eq_true, decide_eq_true_eq]
            at digits
          have least : 48 ≤ c.toNat := digits.1.1
          intro head
          have value : c.toNat - 48 = 0 := Option.some.inj head
          have same : c = '0' := Char.toNat_inj.1 (show c.toNat = 48 by omega)
          exact front (by rw [same]; rfl)
    simp [some]

/-- A number that fits is read from its digits at the end of a line. -/
theorem decimal?_toDigits (fits : n < 2 ^ 63) :
    decimal? false (Nat.toDigits 10 n ++ '\n' :: more) = some (.integer n, '\n' :: more) := by
  have read : digits? 10 (Nat.toDigits 10 n ++ '\n' :: more) =
      some (digitValues (Nat.toDigits 10 n), '\n' :: more) :=
    digits?_digits (Numeral.toDigits_all_isDigit n) Nat.toDigits_ne_nil
  have noFraction : fraction? ('\n' :: more) = some (none, '\n' :: more) := rfl
  have noExponent : exponent? ('\n' :: more) = some (none, '\n' :: more) := rfl
  have value : decimalValue? false (digitValues (Nat.toDigits 10 n)) none none =
      some (.integer n) := by
    have within : Int64.minValue.toInt ≤ (n : Int) ∧ (n : Int) ≤ Int64.maxValue.toInt := by
      rw [Numeral.toInt_minValue, Numeral.toInt_maxValue]
      omega
    simp only [decimalValue?, ofDigits_digitValues, extend_toDigits, Bool.false_eq_true, if_false,
      integer?, Numeral.fit?, if_pos within, Option.map_some]
  simp only [decimal?, read, Option.bind_eq_bind, Option.bind_some, if_neg (noLeadingZero n),
    noFraction, noExponent, value]

/-- Digits have no sign and no mark of another base. -/
theorem number?_digits (all : digits.all Char.isDigit) (nonempty : digits ≠ []) :
    number? (digits ++ '\n' :: more) = decimal? false (digits ++ '\n' :: more) := by
  cases digits with
  | nil => exact absurd rfl nonempty
  | cons c digits =>
      rw [List.all_cons, Bool.and_eq_true] at all
      have front (mark : Char) (noDigit : mark.isDigit = false) (rest : List Char)
          (same : c :: (digits ++ '\n' :: more) = mark :: rest) : False :=
        ne_of_passed all.1 noDigit (List.cons.inj same).1
      have second (mark : Char) (noDigit : mark.isDigit = false) (unbroken : mark ≠ '\n')
          (rest : List Char) (same : c :: (digits ++ '\n' :: more) = '0' :: mark :: rest) : False := by
        have passed : mark? mark (digits ++ '\n' :: more) = none :=
          mark?_digits all.2 noDigit unbroken
        rw [(List.cons.inj same).2, mark?, if_pos rfl] at passed
        cases passed
      have signless : sign (c :: (digits ++ '\n' :: more)) =
          (false, c :: (digits ++ '\n' :: more)) := by
        rw [sign]
        · exact front '-' rfl
        · exact front '+' rfl
      rw [List.cons_append, number?, signless, unsigned?]
      · exact front 'i' rfl
      · exact front 'n' rfl
      · exact second 'x' rfl (by decide)
      · exact second 'o' rfl (by decide)
      · exact second 'b' rfl (by decide)

/-- A number that fits is a value at the end of a line. -/
theorem value?_number (fits : n < 2 ^ 63) (levels : Nat) :
    value? levels ((toString n).toList ++ '\n' :: more) = some (.integer n, '\n' :: more) := by
  have digits := Numeral.toDigits_all_isDigit n
  have read : momentOrNumber? (Nat.toDigits 10 n ++ '\n' :: more) =
      some (.integer n, '\n' :: more) := by
    rw [momentOrNumber?, moment?_digits digits]
    exact (number?_digits digits Nat.toDigits_ne_nil).trans (decimal?_toDigits fits)
  rw [Nat.toString_eq_ofList_toDigits, String.toList_ofList]
  cases written : Nat.toDigits 10 n with
  | nil => exact absurd written Nat.toDigits_ne_nil
  | cons c cs =>
      rw [written] at digits read
      rw [List.all_cons, Bool.and_eq_true] at digits
      have other (mark : Char) (noDigit : mark.isDigit = false) : c ≠ mark :=
        ne_of_passed digits.1 noDigit
      rw [List.cons_append] at read ⊢
      rw [value?.eq_def]
      simp only [other '"' rfl, other '\'' rfl, other 't' rfl, other 'f' rfl, other '[' rfl,
        other '\x7b' rfl, if_false, decide_false, Bool.or_false, Bool.false_eq_true]
      exact read

end

/-! ## Texts, flags and lists -/

/-- A quoted text begins with a quote. -/
theorem exists_quote (s : String) :
    ∃ c cs, (quote s).toList = c :: cs ∧ (c = '"' ∨ c = '\'') := by
  rw [quote, String.toList_ofList]
  cases Quotes.choose s.toList with
  | basic => exact ⟨_, _, rfl, .inl rfl⟩
  | literal => exact ⟨_, _, rfl, .inr rfl⟩
  | basicBlock => exact ⟨_, _, rfl, .inl rfl⟩
  | literalBlock => exact ⟨_, _, rfl, .inr rfl⟩

theorem value?_quote (s : String) (levels : Nat) {rest : List Char} (closes : Closes rest) :
    value? levels ((quote s).toList ++ rest) = some (.string s, rest) := by
  have read := quoted?_quote s closes
  obtain ⟨c, cs, begins, mark⟩ := exists_quote s
  rw [begins, List.cons_append] at read ⊢
  have isMark : (c = '"' || c = '\'') = true := by simpa using mark
  rw [value?.eq_def]
  simp only [if_pos isMark, read, Option.map_some]

/-- Nothing is skipped in front of a quoted text. -/
theorem skipGap_quote (s : String) (rest : List Char) :
    skipGap false ((quote s).toList ++ rest) = (quote s).toList ++ rest := by
  obtain ⟨c, cs, begins, mark⟩ := exists_quote s
  rw [begins, List.cons_append]
  obtain rfl | rfl := mark <;> rfl

section

variable {s : String} {cs rest : List Char} {levels n : Nat}

/-- A text as an item of a list, which ends or goes on behind it. -/
theorem items_quote {after : List Char} (found : skipGap false cs = (quote s).toList ++ rest)
    (closes : Closes rest) :
    (skipGap false rest = ']' :: after →
      items (value? levels) (n + 1) cs = some ([.string s], after)) ∧
    (skipGap false rest = ',' :: after →
      items (value? levels) (n + 1) cs =
        (items (value? levels) n after).map fun (vs, rest) => (.string s :: vs, rest)) := by
  have read := value?_quote s levels closes
  obtain ⟨c, cs', begins, mark⟩ := exists_quote s
  rw [begins, List.cons_append] at found read
  have further : c ≠ ']' := by
    rintro rfl
    simp at mark
  rw [items, found]
  split
  · next same => exact absurd (List.cons.inj same).1 further
  · simp only [read, Option.bind_eq_bind, Option.bind_some]
    constructor
    · intro last
      rw [last]
      rfl
    · intro next
      rw [next, Option.map_eq_bind]
      rfl

/-- A text in a list of several lines, with a line of its own. -/
def itemLine (s : String) : List Char :=
  ' ' :: ' ' :: ' ' :: ' ' :: ((quote s).toList ++ [',', '\n'])

/-- Texts on lines of their own are read up to the bracket that closes the list. -/
theorem items_lines {ss : List String} (enough : ss.length < n) :
    items (value? levels) n ('\n' :: (ss.flatMap itemLine ++ ']' :: rest)) =
      some (ss.map .string, rest) := by
  induction ss generalizing n with
  | nil =>
      obtain ⟨n, rfl⟩ := Nat.exists_eq_add_one_of_ne_zero (Nat.ne_zero_of_lt enough)
      rfl
  | cons s ss ih =>
      obtain ⟨n, rfl⟩ := Nat.exists_eq_add_one_of_ne_zero (Nat.ne_zero_of_lt enough)
      have skipped (cs : List Char) :
          skipGap false ('\n' :: ' ' :: ' ' :: ' ' :: ' ' :: cs) = skipGap false cs := rfl
      have found : skipGap false ('\n' :: ((s :: ss).flatMap itemLine ++ ']' :: rest)) =
          (quote s).toList ++ (',' :: '\n' :: (ss.flatMap itemLine ++ ']' :: rest)) := by
        simp only [List.flatMap_cons, itemLine, List.append_assoc, List.cons_append, skipped,
          skipGap_quote, List.nil_append]
      rw [(items_quote found ⟨by simp, by simp⟩).2 rfl, ih (Nat.lt_of_succ_lt_succ enough)]
      rfl

/-- There are at least as many characters as lines. -/
theorem length_le_lines (ss : List String) : ss.length ≤ (ss.flatMap itemLine).length := by
  induction ss with
  | nil => exact Nat.le_refl 0
  | cons s ss ih =>
      rw [List.flatMap_cons, List.length_append, List.length_cons, itemLine, List.length_cons]
      omega

/-- A list between brackets is read with one level less for its items. -/
theorem value?_list (cs : List Char) :
    value? maxLevels ('[' :: cs) =
      (items (value? (maxLevels - 1)) (cs.length + 1) cs).map
        fun (vs, rest) => (.array vs, rest) := by
  rw [value?.eq_def]
  rfl

end

/-! ## Settings -/

namespace Setting

/-- The value that a setting is read as. -/
def toJson : Setting → Json
  | text s => .string s
  | number n => .integer n
  | flag b => .bool b
  | texts items => .array (items.map .string)

/-- A setting that a file can hold: its numbers are signed numbers of sixty-four bits. -/
def Fits : Setting → Prop
  | number n => n < 2 ^ 63
  | text _ | flag _ | texts _ => True

theorem render_texts (s t : String) (items : List String) :
    (render (texts (s :: t :: items))).toList =
      '[' :: '\n' :: ((s :: t :: items).flatMap itemLine ++ [']']) := by
  have lines : (String.join ((s :: t :: items).map fun s => "    " ++ quote s ++ ",\n")).toList =
      (s :: t :: items).flatMap itemLine := by
    have indent : "    ".toList = [' ', ' ', ' ', ' '] := rfl
    have lineEnd : ",\n".toList = [',', '\n'] := rfl
    rw [String.toList_join, List.flatMap_map]
    refine List.flatMap_congr fun s _ => ?_
    rw [String.toList_append, String.toList_append, List.append_assoc, indent, lineEnd, itemLine,
      List.cons_append, List.cons_append, List.cons_append, List.singleton_append]
  rw [render, String.toList_append, String.toList_append, lines, List.append_assoc]
  · rfl
  · rintro ⟨⟩
  · rintro s ⟨⟩

theorem render_text_item (s : String) :
    (render (texts [s])).toList = '[' :: ((quote s).toList ++ [']']) := by
  have opening : "[".toList = ['['] := rfl
  have closing : "]".toList = [']'] := rfl
  rw [render, String.toList_append, String.toList_append, List.append_assoc, opening, closing,
    List.singleton_append]

/-- No value begins with a blank. -/
theorem skipBlanks_render (v : Setting) (rest : List Char) :
    skipBlanks (v.render.toList ++ rest) = v.render.toList ++ rest := by
  match v with
  | text s =>
      obtain ⟨c, cs, begins, mark⟩ := exists_quote s
      rw [render, begins, List.cons_append]
      obtain rfl | rfl := mark <;> rfl
  | number n =>
      have digits := Numeral.toDigits_all_isDigit n
      rw [render, Nat.toString_eq_ofList_toDigits, String.toList_ofList]
      cases written : Nat.toDigits 10 n with
      | nil => exact absurd written Nat.toDigits_ne_nil
      | cons c cs =>
          rw [written, List.all_cons, Bool.and_eq_true] at digits
          rw [List.cons_append, skipBlanks, List.dropWhile_cons, isBlank_of_passed digits.1 rfl rfl]
          rfl
  | flag true => rfl
  | flag false => rfl
  | texts [] => rfl
  | texts [s] =>
      rw [render_text_item]
      rfl
  | texts (s :: t :: items) =>
      rw [render_texts]
      rfl

/-- A setting that fits is read back at the end of a line. -/
theorem value?_render {v : Setting} (fits : v.Fits) (more : List Char) :
    value? maxLevels (v.render.toList ++ '\n' :: more) = some (v.toJson, '\n' :: more) := by
  match v with
  | text s => exact value?_quote s maxLevels ⟨by simp, by simp⟩
  | number n => exact value?_number fits maxLevels
  | flag true => rfl
  | flag false => rfl
  | texts [] => rfl
  | texts [s] =>
      have last (n : Nat) : items (value? (maxLevels - 1)) (n + 1)
          ((quote s).toList ++ ']' :: '\n' :: more) = some ([.string s], '\n' :: more) :=
        (items_quote (skipGap_quote s _) ⟨by simp, by simp⟩).1 rfl
      rw [render_text_item, List.cons_append, List.append_assoc, List.singleton_append,
        value?_list, last]
      rfl
  | texts (s :: t :: rest) =>
      have enough := length_le_lines (s :: t :: rest)
      rw [render_texts, List.cons_append, List.cons_append, List.append_assoc, List.singleton_append,
        value?_list, items_lines]
      · rfl
      · simp only [List.length_cons, List.length_append] at enough ⊢
        omega

end Setting

end EntityQuery.Toml
