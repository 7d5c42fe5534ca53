import EntityQuery.Postgres.ServerError
import EntityQuery.Proofs.Numeral
import EntityQuery.Proofs.Reading.Places

/-!
# The line and column of a server's error

A server counts positions in characters. The description of an error passes characters until their
bytes have used the position up, so it names the first character that has at least as many bytes in
front of it as the position has characters. Characters of several bytes use the position up sooner,
and the place named is then too early. It is the place of the character that the server means
exactly if every character before the one right in front of that character takes a single byte.
-/

namespace EntityQuery.Postgres

open ConditionText

/-! ## Passing characters by their bytes -/

/-- The number of characters that are passed until their bytes have used up a number. -/
def passed : List Char → Nat → Nat
  | [], _ => 0
  | c :: cs, bytes => if bytes = 0 then 0 else passed cs (bytes - c.utf8Size) + 1

theorem locationAfter_eq (cs : List Char) (bytes : Nat) (l : Location) :
    locationAfter cs bytes l = l.advanceAll (cs.take (passed cs bytes)) := by
  induction cs generalizing bytes l with
  | nil => rfl
  | cons c cs ih =>
      unfold locationAfter passed
      split
      · rfl
      · rw [ih, List.take_succ_cons]
        rfl

theorem passed_le_length (cs : List Char) (bytes : Nat) : passed cs bytes ≤ cs.length := by
  induction cs generalizing bytes with
  | nil => exact Nat.le_refl 0
  | cons c cs ih =>
      unfold passed
      split
      · exact Nat.zero_le _
      · exact Nat.succ_le_succ (ih _)

/-- Characters are passed as long as their bytes do not use the number up. -/
theorem lt_passed_iff {cs : List Char} {bytes : Nat} (enough : bytes ≤ byteLength cs) (m : Nat) :
    m < passed cs bytes ↔ byteLength (cs.take m) < bytes := by
  induction cs generalizing bytes m with
  | nil =>
      have none : bytes = 0 := Nat.le_zero.1 enough
      simp [passed, none]
  | cons c cs ih =>
      rw [byteLength] at enough
      unfold passed
      split
      · next none => simp [none]
      · next some =>
          cases m with
          | zero => simp [Nat.pos_of_ne_zero some]
          | succ m =>
              have size := c.utf8Size_pos
              rw [Nat.add_lt_add_iff_right, ih (by omega), List.take_succ_cons, byteLength]
              omega

/-- Characters take as many bytes as there are characters exactly if each takes one. -/
theorem byteLength_eq_length_iff {cs : List Char} :
    byteLength cs = cs.length ↔ ∀ c ∈ cs, c.utf8Size = 1 := by
  induction cs with
  | nil => simp
  | cons c cs ih =>
      have size := c.utf8Size_pos
      have least := length_le_byteLength cs
      rw [List.forall_mem_cons, ← ih, byteLength, List.length_cons]
      omega

theorem passed_le {cs : List Char} {n : Nat} (within : n ≤ cs.length) : passed cs n ≤ n := by
  have least := length_le_byteLength (cs.take n)
  rw [List.length_take_of_le within] at least
  have enough : n ≤ byteLength cs := within.trans (length_le_byteLength cs)
  exact Nat.le_of_not_lt fun more => Nat.not_lt.2 least ((lt_passed_iff enough n).1 more)

/-- As many characters as bytes are passed exactly if none but the last one takes several bytes. -/
theorem passed_eq_iff {cs : List Char} {n : Nat} (within : n ≤ cs.length) :
    passed cs n = n ↔ ∀ c ∈ cs.take (n - 1), c.utf8Size = 1 := by
  have enough : n ≤ byteLength cs := within.trans (length_le_byteLength cs)
  have most := passed_le within
  cases n with
  | zero => simpa using most
  | succ n =>
      have front : (cs.take n).length = n := List.length_take_of_le (Nat.le_of_succ_le within)
      have least := length_le_byteLength (cs.take n)
      rw [Nat.add_sub_cancel, ← byteLength_eq_length_iff, front]
      have last := lt_passed_iff enough n
      omega

/-! ## Places in words -/

namespace ServerError

/-- A place in words. -/
def atPlace (l : Location) : String :=
  " at line " ++ toString l.line ++ ", column " ++ toString l.column

/-- The description of an error that is at a place. -/
def describedAt (e : ServerError) (l : Location) : String :=
  (ErrorCategory.ofCode e.code).text ++ " [" ++ e.code ++ "]: " ++ e.message ++ atPlace l ++
    hintText e.hint

theorem takeWhile_digits (n : Nat) {rest : List Char} (other : !rest.head?.any Char.isDigit) :
    (Nat.toDigits 10 n ++ rest).takeWhile Char.isDigit = Nat.toDigits 10 n := by
  have digits := List.all_eq_true.1 (Numeral.toDigits_all_isDigit n)
  rw [List.takeWhile_append_of_pos digits]
  cases rest with
  | nil => simp
  | cons c cs =>
      have stop : c.isDigit = false := by simpa using other
      simp [stop]

theorem toDigits_inj {m n : Nat} (same : Nat.toDigits 10 m = Nat.toDigits 10 n) : m = n := by
  have read := congrArg Numeral.nat? same
  rwa [Numeral.nat?_toDigits, Numeral.nat?_toDigits, Option.some_inj] at read

theorem toList_atPlace (l : Location) :
    (atPlace l).toList = " at line ".toList ++ (Nat.toDigits 10 l.line ++
      (", column ".toList ++ Nat.toDigits 10 l.column)) := by
  simp only [atPlace, String.toList_append, Nat.toString_eq_ofList_toDigits, String.toList_ofList,
    List.append_assoc]

/-- A place is told by its words. -/
theorem atPlace_inj {a b : Location} (same : atPlace a = atPlace b) : a = b := by
  have chars := congrArg String.toList same
  rw [toList_atPlace, toList_atPlace, List.append_cancel_left_eq] at chars
  have lines := congrArg (List.takeWhile Char.isDigit) chars
  rw [takeWhile_digits _ (by simp), takeWhile_digits _ (by simp)] at lines
  rw [lines, List.append_cancel_left_eq, List.append_cancel_left_eq] at chars
  obtain ⟨line, column⟩ := a
  obtain rfl := toDigits_inj lines
  obtain rfl := toDigits_inj chars
  rfl

theorem describedAt_inj {e : ServerError} {a b : Location}
    (same : e.describedAt a = e.describedAt b) : a = b := by
  have chars := congrArg String.toList same
  simp only [describedAt, String.toList_append, List.append_cancel_left_eq,
    List.append_cancel_right_eq] at chars
  exact atPlace_inj (String.toList_injective chars)

theorem describe_eq {e : ServerError} {p : Nat} (positioned : e.position = some p) (sql : String) :
    e.describe sql =
      e.describedAt (placeBehind (sql.toList.take (passed sql.toList (p - 1)))) := by
  rw [← Location.start_advanceAll, ← locationAfter_eq, describe, describedAt, positioned]
  simp only [placeText, atPlace, locationOf]

/-! ## The place of an error -/

/-- The place in the description of an error at a character of a statement, counted from one, or
right behind the statement: it is the place of the first character that has as many bytes in front
of it as the error's character has characters, and so the place of the error's character itself if
and only if all characters before, but the last one of them, take one byte each. -/
theorem describe_place {e : ServerError} {sql : String} {p : Nat} (positioned : e.position = some p)
    (low : 1 ≤ p) (high : p ≤ sql.toList.length + 1) :
    (∃ n ≤ p - 1, (∀ m, m < n ↔ byteLength (sql.toList.take m) < p - 1) ∧
      e.describe sql = e.describedAt (placeBehind (sql.toList.take n))) ∧
    (e.describe sql = e.describedAt (placeBehind (sql.toList.take (p - 1))) ↔
      ∀ c ∈ sql.toList.take (p - 2), c.utf8Size = 1) := by
  have within : p - 1 ≤ sql.toList.length := by omega
  have enough : p - 1 ≤ byteLength sql.toList := within.trans (length_le_byteLength _)
  refine ⟨⟨passed sql.toList (p - 1), passed_le within, lt_passed_iff enough, ?_⟩, ?_⟩
  · exact describe_eq positioned sql
  · have single := passed_eq_iff within
    rw [Nat.sub_sub] at single
    rw [← single, describe_eq positioned]
    constructor
    · exact fun same =>
        placeBehind_take_inj (passed_le_length _ _) within (describedAt_inj same)
    · intro same
      rw [same]

/-- A statement with an accent in front of a keyword. -/
def accented : String := "SELECT x\nFROM é\nWHERE y"

/-- The error at that keyword, as a server reports it. -/
def atKeyword : ServerError :=
  { code := "42601", message := "syntax error at or near \"WHERE\"", position := some 17 }

theorem place_of_keyword :
    (∃ n ≤ 16, (∀ m, m < n ↔ byteLength (accented.toList.take m) < 16) ∧
      atKeyword.describe accented = atKeyword.describedAt (placeBehind (accented.toList.take n))) ∧
    (atKeyword.describe accented =
        atKeyword.describedAt (placeBehind (accented.toList.take 16)) ↔
      ∀ c ∈ accented.toList.take 15, c.utf8Size = 1) := by
  refine describe_place (p := 17) rfl ?_ ?_ <;> decide

/-- The keyword starts the third line, and the description names the second one. -/
theorem place_behind_accent :
    atKeyword.position = some 17 ∧ 1 ≤ 17 ∧ 17 ≤ accented.toList.length + 1 ∧
    placeBehind (accented.toList.take 16) = ⟨3, 1⟩ ∧
    atKeyword.describe accented = atKeyword.describedAt ⟨2, 7⟩ ∧
    atKeyword.describe accented ≠
      atKeyword.describedAt (placeBehind (accented.toList.take 16)) := by
  decide

end ServerError

end EntityQuery.Postgres
