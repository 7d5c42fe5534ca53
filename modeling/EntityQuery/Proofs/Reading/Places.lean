import EntityQuery.ConditionText.Position
import EntityQuery.Proofs.Reading.Lexing
import Mathlib.Data.List.Induction

/-!
# Places in a text

The place behind some characters is told by their line breaks and by what follows the last one.
Within one text it tells how many characters are in front of it: places grow with every character,
and turning a place back into bytes gives the bytes of the characters that were passed. So a place
where a reader of the text has been is no approximation of a position.
-/

namespace EntityQuery.ConditionText

/-- The line and the column of the character behind some characters. -/
def placeBehind (front : List Char) : Location :=
  ⟨1 + front.count '\n', 1 + (front.reverse.takeWhile (· ≠ '\n')).length⟩

namespace Location

variable {a b c : Location}

/-! ## The order of places -/

theorem before_iff :
    a.before b = true ↔ a.line < b.line ∨ a.line = b.line ∧ a.column < b.column := by
  simp [before]

theorem before_irrefl (a : Location) : a.before a = false := by
  simp [before]

theorem before_trans (ab : a.before b) (bc : b.before c) : a.before c := by
  rw [before_iff] at *
  omega

theorem before_advance (l : Location) (c : Char) : l.before (l.advance c) := by
  rw [before_iff, advance]
  split <;> simp

theorem before_advanceAll (l : Location) {cs : List Char} (nonempty : cs ≠ []) :
    l.before (l.advanceAll cs) := by
  induction cs generalizing l with
  | nil => exact absurd rfl nonempty
  | cons c cs ih =>
      cases cs with
      | nil => exact l.before_advance c
      | cons d ds => exact before_trans (l.before_advance c) (ih _ (List.cons_ne_nil d ds))

/-! ## Lines and columns -/

/-- What is passed from the start of a text is told by the place. -/
theorem start_advanceAll (front : List Char) : start.advanceAll front = placeBehind front := by
  induction front using List.reverseRecOn with
  | nil => rfl
  | append_singleton front c ih =>
      rw [advanceAll_append, ih]
      by_cases newline : c = '\n' <;>
        simp [advanceAll, advance, placeBehind, newline, Nat.add_comm, Nat.add_left_comm]

end Location

/-- Without line breaks every character counts in the column. -/
theorem placeBehind_inLine {front : List Char} (inLine : '\n' ∉ front) :
    placeBehind front = ⟨1, 1 + front.length⟩ := by
  have all : ∀ c ∈ front.reverse, (decide (c ≠ '\n')) = true := by
    intro c mem
    exact decide_eq_true fun same => inLine (same ▸ List.mem_reverse.1 mem)
  rw [placeBehind, List.count_eq_zero.2 inLine, List.takeWhile_eq_self_iff.2 all,
    List.length_reverse]

theorem placeBehind_newline (front : List Char) :
    placeBehind ('\n' :: front) =
      ⟨(placeBehind front).line + 1, (placeBehind front).column⟩ := by
  simp only [placeBehind, List.count_cons_self, List.reverse_cons, List.takeWhile_append]
  split
  · next whole => simp [← whole, Nat.add_assoc]
  · rw [Nat.add_assoc]

/-- What is in front of a line break has no part in the column. -/
theorem placeBehind_cons {c : Char} (plain : c ≠ '\n') {front : List Char} (broken : '\n' ∈ front) :
    placeBehind (c :: front) = placeBehind front := by
  have stopped : (front.reverse.takeWhile (· ≠ '\n')).length ≠ front.reverse.length := by
    intro whole
    have all := List.takeWhile_eq_self_iff.1 ((List.takeWhile_prefix _).eq_of_length whole)
    exact of_decide_eq_true (all '\n' (List.mem_reverse.2 broken)) rfl
  simp only [placeBehind, List.count_cons_of_ne plain, List.reverse_cons, List.takeWhile_append,
    if_neg stopped]

/-- More characters of a text lead to a later place. -/
theorem placeBehind_take_before {cs : List Char} {m n : Nat} (less : m < n)
    (within : n ≤ cs.length) :
    (placeBehind (cs.take m)).before (placeBehind (cs.take n)) := by
  have split : cs.take n = cs.take m ++ (cs.take n).drop m := by
    rw [← Nat.min_eq_left less.le, ← List.take_take, Nat.min_eq_left less.le,
      List.take_append_drop]
  have behind : (cs.take n).drop m ≠ [] := by
    rw [Ne, List.drop_eq_nil_iff, List.length_take_of_le within, Nat.not_le]
    exact less
  rw [← Location.start_advanceAll, ← Location.start_advanceAll, split, advanceAll_append]
  exact Location.before_advanceAll _ behind

/-- Different numbers of characters of a text lead to different places. -/
theorem placeBehind_take_inj {cs : List Char} {m n : Nat} (hm : m ≤ cs.length)
    (hn : n ≤ cs.length) (same : placeBehind (cs.take m) = placeBehind (cs.take n)) : m = n := by
  obtain less | equal | more := Nat.lt_trichotomy m n
  · exact absurd (placeBehind_take_before less hn) (by simp [same, Location.before_irrefl])
  · exact equal
  · exact absurd (placeBehind_take_before more hm) (by simp [same, Location.before_irrefl])

/-! ## Bytes -/

theorem length_le_byteLength (cs : List Char) : cs.length ≤ byteLength cs := by
  induction cs with
  | nil => exact Nat.le_refl 0
  | cons c cs ih =>
      have size := c.utf8Size_pos
      simp only [List.length_cons, byteLength]
      omega

theorem lineOffset_append {front : List Char} (inLine : '\n' ∉ front) (back : List Char) :
    lineOffset (front ++ back) front.length = byteLength front := by
  induction front with
  | nil => cases back <;> rfl
  | cons c cs ih =>
      simp only [List.mem_cons, not_or] at inLine
      simp [lineOffset, byteLength, ih inLine.2, Ne.symm inLine.1]

theorem byteOffset_inLine {front : List Char} (inLine : '\n' ∉ front) (back : List Char) :
    byteOffset (front ++ back) (placeBehind front) = byteLength front := by
  cases front with
  | nil => cases back <;> simp [placeBehind, byteOffset, lineOffset]
  | cons c cs =>
      rw [placeBehind_inLine inLine, List.cons_append, byteOffset, if_pos rfl,
        ← List.cons_append, Nat.add_sub_cancel_left, lineOffset_append inLine]

/-- A place is turned back into the bytes in front of it. -/
theorem byteOffset_placeBehind (front back : List Char) :
    byteOffset (front ++ back) (placeBehind front) = byteLength front := by
  induction front with
  | nil => exact byteOffset_inLine (List.not_mem_nil) back
  | cons c cs ih =>
      by_cases newline : c = '\n'
      · subst newline
        have later : (placeBehind cs).line + 1 ≠ 1 := by simp [placeBehind]
        rw [placeBehind_newline, List.cons_append, byteOffset, if_neg later, if_pos rfl,
          Nat.add_sub_cancel, ih, byteLength]
      · by_cases broken : '\n' ∈ cs
        · have later : (placeBehind cs).line ≠ 1 := by
            have := List.count_pos_iff.2 broken
            simp only [placeBehind]
            omega
          rw [placeBehind_cons newline broken, List.cons_append, byteOffset, if_neg later,
            if_neg newline, ih, byteLength]
        · refine byteOffset_inLine ?_ back
          simp only [List.mem_cons, not_or]
          exact ⟨Ne.symm newline, broken⟩

/-- The place of a character of the text itself, as a position. -/
theorem textOffset_advanceAll (front back : List Char) :
    textOffset (front ++ back) (textStart.advanceAll front) = byteLength front := by
  rw [textOffset, textStart, ← advanceAll_append, Location.start_advanceAll, ← List.append_assoc,
    byteOffset_placeBehind, byteLength_append, byteLength_append, Nat.add_sub_cancel_left]
  exact Nat.min_eq_left (Nat.le_add_right _ _)

/-! ## Positions tell places -/

section

variable {text front front' back back' : List Char}

theorem byteLength_lt_of_length_lt (split : text = front ++ back) (split' : text = front' ++ back')
    (less : front.length < front'.length) : byteLength front < byteLength front' := by
  obtain ⟨more, rfl⟩ : front <+: front' :=
    List.prefix_of_prefix_length_le (split ▸ List.prefix_append _ _)
      (split' ▸ List.prefix_append _ _) less.le
  rw [byteLength_append]
  refine Nat.lt_add_of_pos_right (Nat.lt_of_lt_of_le ?_ (length_le_byteLength more))
  rw [List.length_append] at less
  omega

theorem eq_of_length_eq (split : text = front ++ back) (split' : text = front' ++ back')
    (same : front.length = front'.length) : front = front' :=
  List.append_inj_left (split.symm.trans split') same

/-- The bytes in front of a place tell the place. -/
theorem eq_of_byteLength_eq (split : text = front ++ back) (split' : text = front' ++ back')
    (same : byteLength front = byteLength front') : front = front' := by
  obtain less | equal | more := Nat.lt_trichotomy front.length front'.length
  · exact absurd same (Nat.ne_of_lt (byteLength_lt_of_length_lt split split' less))
  · exact eq_of_length_eq split split' equal
  · exact absurd same.symm (Nat.ne_of_lt (byteLength_lt_of_length_lt split' split more))

end

end EntityQuery.ConditionText
