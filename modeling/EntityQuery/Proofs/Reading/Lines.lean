import EntityQuery.Proofs.QueryText.Boundary
import Mathlib.Data.List.SplitBy

/-!
# Lines of a text

The lines of a text, each with the line break that ends it, tell what a line and a column lead to:
all lines in front, and of the line itself the characters in front of the column. A column behind
the end of its line therefore leads to the end of the line, behind its line break, and a line behind
the last one to the end of the text. A place that was counted along the text leads back to where the
counting stopped, also if this is behind the last line break, where no line begins.
-/

namespace EntityQuery.ConditionText

/-- The lines of a text, each with its line break; the last one may be without. -/
def lines (text : List Char) : List (List Char) := text.splitBy fun c _ => c ≠ '\n'

theorem flatten_lines (text : List Char) : (lines text).flatten = text :=
  List.flatten_splitBy _ text

@[simp] theorem lines_nil : lines [] = [] := rfl

theorem lines_newline (text : List Char) : lines ('\n' :: text) = ['\n'] :: lines text := by
  have split : lines (['\n'] ++ text) = lines ['\n'] ++ lines text :=
    List.splitBy_append (by simp)
  exact split

/-- A character that is no line break stands in front of the first line. -/
theorem lines_cons {c : Char} (plain : c ≠ '\n') (text : List Char) :
    lines (c :: text) = (c :: (lines text).headD []) :: (lines text).tail := by
  have whole := flatten_lines text
  have nonempty : [] ∉ lines text := List.nil_notMem_splitBy _ text
  have chains : ∀ line ∈ lines text, line.IsChain fun c _ => decide (c ≠ '\n') = true :=
    fun _ => List.isChain_of_mem_splitBy
  have breaks := List.isChain_getLast_head_splitBy (fun c _ => decide (c ≠ '\n')) text
  rw [← lines] at breaks
  rw [lines, List.splitBy_eq_iff]
  cases split : lines text with
  | nil =>
      rw [split] at whole
      simp [← whole]
  | cons line rest =>
      rw [split] at whole nonempty chains breaks
      rw [List.isChain_cons] at breaks
      have first := chains line List.mem_cons_self
      refine ⟨by simpa using whole.symm, ?_, ?_, List.isChain_cons.2 ⟨?_, breaks.2⟩⟩
      · intro empty
        obtain same | later := List.mem_cons.1 empty
        · cases same
        · exact nonempty (List.mem_cons_of_mem line later)
      · refine List.forall_mem_cons.2 ⟨?_, fun l mem => chains l (List.mem_cons_of_mem line mem)⟩
        exact List.isChain_cons.2 ⟨fun _ _ => decide_eq_true plain, first⟩
      · intro next isNext
        obtain ⟨ha, hb, stop⟩ := breaks.1 next isNext
        refine ⟨List.cons_ne_nil _ _, hb, ?_⟩
        simpa only [List.headD_cons, List.getLast_cons ha] using stop

/-! ## Lines and columns as bytes -/

theorem byteOffset_firstLine (text : List Char) (n : Nat) :
    byteOffset text ⟨1, n + 1⟩ = lineOffset text n := by
  cases text <;> rfl

/-- A line and a column lead behind all lines in front and the characters of the line that are in
front of the column. -/
theorem byteOffset_lines (text : List Char) (k column : Nat) :
    byteOffset text ⟨k + 1, column⟩ =
      byteLength ((lines text).take k).flatten +
        byteLength (((lines text)[k]?.getD []).take (column - 1)) := by
  induction text generalizing k column with
  | nil => simp
  | cons c cs ih =>
      by_cases newline : c = '\n'
      · subst newline
        rw [lines_newline]
        cases k with
        | zero =>
            rw [byteOffset, if_pos rfl]
            cases column - 1 <;> simp [lineOffset, byteLength]
        | succ k =>
            rw [byteOffset, if_neg (by simp), if_pos rfl, Nat.add_sub_cancel, ih]
            simp [byteLength, Nat.add_assoc]
      · rw [lines_cons newline]
        cases k with
        | zero =>
            rw [byteOffset, if_pos rfl]
            cases column - 1 with
            | zero => simp [lineOffset]
            | succ n =>
                have rest := ih 0 (n + 1)
                rw [byteOffset_firstLine] at rest
                rw [lineOffset, if_neg newline, rest]
                cases lines cs <;> simp [byteLength]
        | succ k =>
            rw [byteOffset, if_neg (by simp), if_neg newline, ih]
            cases lines cs <;> simp [byteLength, Nat.add_assoc]

/-- A column behind the end of its line leads behind the line and its line break. -/
theorem byteOffset_past_column {text line : List Char} {k column : Nat}
    (found : (lines text)[k]? = some line) (past : line.length < column) :
    byteOffset text ⟨k + 1, column⟩ = byteLength ((lines text).take (k + 1)).flatten := by
  have all : line.take (column - 1) = line := List.take_of_length_le (Nat.le_sub_one_of_lt past)
  rw [byteOffset_lines, found, Option.getD_some, all, List.take_add_one, found,
    List.flatten_append, byteLength_append]
  simp

/-- A line behind the last one leads to the end of the text. -/
theorem byteOffset_past_lines {text : List Char} {line : Nat} (column : Nat)
    (past : (lines text).length < line) : byteOffset text ⟨line, column⟩ = byteLength text := by
  obtain ⟨k, rfl⟩ := Nat.exists_eq_add_one_of_ne_zero (Nat.ne_zero_of_lt past)
  have none : (lines text)[k]? = none := List.getElem?_eq_none (Nat.le_of_lt_succ past)
  have all : (lines text).take k = lines text := List.take_of_length_le (Nat.le_of_lt_succ past)
  rw [byteOffset_lines, none, all, flatten_lines]
  simp

/-- Positions undo the counting of lines and columns. Every valid position of a text, its end
included, is what becomes of the place that is counted in the statement up to it: the line is one
more than the number of line breaks in front, and the column one more than the number of characters
behind the last of them. A place that is counted nowhere leads to the end of its line, line break
included, if the line has no such column, and to the end of the text if the text has no such
line. -/
theorem textOffset_undoes_counting (text : String) :
    (∀ i, (⟨i⟩ : String.Pos.Raw).IsValid text → ∃ front back, text = front ++ back ∧
      front.utf8ByteSize = i ∧
        let passed := (statementStart ++ front).toList
        Location.start.advanceAll passed = placeBehind passed ∧
          textOffset text.toList (placeBehind passed) = i) ∧
      (∀ k column line, (lines text.toList)[k]? = some line → line.length < column →
        byteOffset text.toList ⟨k + 1, column⟩ =
          byteLength ((lines text.toList).take (k + 1)).flatten) ∧
      ∀ line column, (lines text.toList).length < line →
        byteOffset text.toList ⟨line, column⟩ = text.utf8ByteSize := by
  refine ⟨?_, fun k column line found past => byteOffset_past_column found past, ?_⟩
  · intro i valid
    obtain ⟨front, back, rfl, size⟩ := String.Pos.Raw.isValid_iff_exists_append.1 valid
    have place := Location.start_advanceAll (statementStart ++ front).toList
    refine ⟨front, back, rfl, (congrArg String.Pos.Raw.byteIdx size).symm, place, ?_⟩
    rw [← place, String.toList_append, String.toList_append, advanceAll_append]
    rw [← textStart, textOffset_advanceAll, byteLength_toList]
    exact (congrArg String.Pos.Raw.byteIdx size).symm
  · intro line column past
    rw [byteOffset_past_lines column past, byteLength_toList]

/-- Behind the final line break of a text with characters of several bytes, and in its second line
behind the end. -/
example : textOffset "größe\n= 'ß'\n".toList ⟨3, 1⟩ = 15 ∧
    textOffset "größe\n= 'ß'\n".toList ⟨2, 40⟩ = 15 := by decide

end EntityQuery.ConditionText
