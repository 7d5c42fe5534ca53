import EntityQuery.ConditionText.Lexer
import Mathlib.Data.List.TakeWhile

/-!
# Splitting text into tokens

Every piece of a text takes at least one character, so the bound on the steps of the lexer never
matters, and the tokens of a text are those of its front followed by those of its back wherever a
piece ends between the two. `Lexed` says the latter; it composes, and one lemma for each kind of
piece starts it.
-/

namespace EntityQuery.ConditionText

open Unicode

/-! ## Progress -/

/-- A piece that takes characters, if it is one. -/
def Takes (piece : Except ContentFault Piece) : Prop := ∀ p, piece = .ok p → 0 < p.2

namespace Takes

theorem ok {p : Piece} (h : 0 < p.2) : Takes (.ok p) := by
  rintro _ ⟨⟩
  exact h

theorem error {fault : ContentFault} : Takes (.error fault) := by
  rintro _ ⟨⟩

theorem symbolPiece {text : String} (h : 0 < text.length) :
    Takes (ConditionText.symbolPiece text) := ok h

theorem operatorPiece {text : String} (h : 0 < text.length) (rest : List Char) :
    Takes (ConditionText.operatorPiece text rest) := by
  unfold ConditionText.operatorPiece
  split
  · exact symbolPiece h
  · exact ok (Nat.lt_add_right _ h)

theorem quotationPiece {kind : Quotation} {lead : Nat} {contents : Option (List Char × Nat)}
    {message : String} {place : Nat} :
    Takes (ConditionText.quotationPiece kind lead contents message place) := by
  unfold ConditionText.quotationPiece
  split
  · exact ok (by simp only; omega)
  · exact error

theorem dollarPiece (rest : List Char) : Takes (ConditionText.dollarPiece rest) := by
  unfold ConditionText.dollarPiece
  split
  · split
    · exact ok (Nat.succ_pos _)
    · exact error
  · dsimp only
    split
    · split
      · exact ok (by simp only; omega)
      · exact error
    · exact ok (Nat.succ_pos _)

/-- What starts with a digit or a point has digits or a point. -/
theorem numberPiece {c : Char} (rest : List Char) (h : c.isDigit || c == '.') :
    Takes (ConditionText.numberPiece (c :: rest)) := by
  unfold ConditionText.numberPiece
  cases digit : c.isDigit with
  | true =>
      simp only [List.takeWhile_cons, digit, if_true]
      split
      · exact ok (by simp only; omega)
      · split
        · exact symbolPiece (by decide)
        · exact ok (by simp only [List.cons_append, List.length_cons]; omega)
  | false =>
      obtain rfl : c = '.' := by simpa [digit] using h
      simp only [List.takeWhile_cons, digit, if_false, Bool.false_eq_true, List.length_nil,
        List.drop_zero, List.nil_append, fractionDigits]
      split
      · exact symbolPiece (by decide)
      · exact ok (by simp only [List.cons_append, List.length_cons]; omega)

theorem operatorStart (cs : List Char) : Takes (ConditionText.operatorStart cs) := by
  unfold ConditionText.operatorStart
  split <;> first
    | exact operatorPiece (by decide) _
    | exact symbolPiece (by decide)
    | exact ok (Nat.succ_pos _)
    | skip
  · split
    · exact symbolPiece (by decide)
    · exact operatorPiece (by decide) _
  · split
    · exact symbolPiece (by simp)
    · exact ok (Nat.succ_pos _)

theorem markedQuotation {cs : List Char} {piece : Except ContentFault Piece}
    (h : markedQuotation? cs = some piece) : Takes piece := by
  unfold markedQuotation? at h
  split at h
  · -- Whatever the letter in front marks, the piece is a quotation.
    repeat' split at h
    all_goals cases h
    all_goals exact quotationPiece
  · split at h
    · cases h
      exact quotationPiece
    · cases h
  · split at h
    · split at h
      · cases h
        exact ok (Nat.succ_pos _)
      · cases h
        exact error
    · cases h
  · cases h

theorem wordPiece (first : Char) (rest : List Char) :
    Takes (ConditionText.wordPiece first rest) := ok (Nat.succ_pos _)

theorem quotedWordPiece (rest : List Char) : Takes (ConditionText.quotedWordPiece rest) := by
  unfold ConditionText.quotedWordPiece
  split
  · exact ok (Nat.succ_pos _)
  · exact error

/-- Every piece takes at least one character. -/
theorem pieceAt (cs : List Char) : Takes (ConditionText.pieceAt cs) := by
  unfold ConditionText.pieceAt
  split
  · next marked => exact markedQuotation marked
  · split
    · exact ok Nat.one_pos
    · exact ok (by simp only; omega)
    · split
      · exact ok (by simp only; omega)
      · exact error
    · exact quotationPiece
    · exact quotedWordPiece _
    · exact dollarPiece _
    · split
      · exact ok Nat.one_pos
      · split
        · next number => exact numberPiece _ number
        · split
          · exact wordPiece _ _
          · exact operatorStart _

end Takes

/-! ## Lexing in parts -/

section

variable {l : Location} {cs rest after : List Char}

@[simp] theorem advanceAll_nil (l : Location) : l.advanceAll [] = l := rfl

theorem advanceAll_append (l : Location) (a b : List Char) :
    l.advanceAll (a ++ b) = (l.advanceAll a).advanceAll b := List.foldl_append

/-- Once every character can have its step, further steps change nothing. -/
theorem lexFrom_congr (f g : Nat) (l : Location) (cs : List Char) (hf : cs.length ≤ f)
    (hg : cs.length ≤ g) : lexFrom f l cs = lexFrom g l cs := by
  induction f generalizing g l cs with
  | zero =>
      obtain rfl := List.eq_nil_of_length_eq_zero (Nat.le_zero.1 hf)
      cases g <;> rfl
  | succ f ih =>
      cases cs with
      | nil => cases g <;> rfl
      | cons c cs =>
          obtain ⟨g, rfl⟩ : ∃ k, g = k + 1 := ⟨g - 1, by simp at hg; omega⟩
          unfold lexFrom
          cases piece : pieceAt (c :: cs) with
          | error fault => rfl
          | ok p =>
              obtain ⟨token?, n⟩ := p
              have taken : 0 < n := Takes.pieceAt _ _ piece
              have shorter : ((c :: cs).drop n).length ≤ cs.length := by
                simp only [List.length_drop, List.length_cons]
                omega
              simp only [List.length_cons, Nat.add_le_add_iff_right] at hf hg
              simp only [ih g _ _ (shorter.trans hf) (shorter.trans hg)]

/-- The tokens of a text that starts with a piece. -/
theorem lex_of_piece {token? : Option Token} {n : Nat} {c : Char}
    (h : pieceAt (c :: cs) = .ok (token?, n)) :
    lex l (c :: cs) =
      (lex (l.advanceAll ((c :: cs).take n)) ((c :: cs).drop n)).map fun rest =>
        (token?.toList.map fun token =>
          ⟨token, ⟨l, l.advanceAll ((c :: cs).take n)⟩⟩) ++ rest := by
  have steps (next : Location) :
      lexFrom (c :: cs).length next ((c :: cs).drop n) = lex next ((c :: cs).drop n) :=
    lexFrom_congr _ _ _ _ (by simp) (Nat.le_succ _)
  rw [lex, lexFrom, h]
  simp only [steps]
  cases lex (l.advanceAll ((c :: cs).take n)) ((c :: cs).drop n) with
  | error e => rfl
  | ok rest => cases token? <;> rfl

/-- The tokens of `cs`, which starts at `l`, are `ls` where `after` follows: the tokens of the
whole are these and then those of `after`. -/
def Lexed (l : Location) (cs : List Char) (ls : List Lexeme) (after : List Char) : Prop :=
  lex l (cs ++ after) = (lex (l.advanceAll cs) after).map (ls ++ ·)

namespace Lexed

/-- Two parts one after the other. -/
theorem append {a b : List Char} {ls ms : List Lexeme} (front : Lexed l a ls (b ++ after))
    (back : Lexed (l.advanceAll a) b ms after) : Lexed l (a ++ b) (ls ++ ms) after := by
  rw [Lexed, List.append_assoc, front, back, advanceAll_append]
  cases lex ((l.advanceAll a).advanceAll b) after with
  | error e => rfl
  | ok rest => simp [Except.map]

/-- A piece that is a token. -/
theorem token {token : Token} (nonempty : cs ≠ [])
    (h : pieceAt (cs ++ after) = .ok (some token, cs.length)) :
    Lexed l cs [⟨token, ⟨l, l.advanceAll cs⟩⟩] after := by
  obtain ⟨c, cs, rfl⟩ := List.exists_cons_of_ne_nil nonempty
  rw [List.cons_append] at h
  rw [Lexed, List.cons_append, lex_of_piece h, ← List.cons_append, List.take_left, List.drop_left]
  rfl

/-- A piece that is a blank or a comment. -/
theorem blank (nonempty : cs ≠ []) (h : pieceAt (cs ++ after) = .ok (none, cs.length)) :
    Lexed l cs [] after := by
  obtain ⟨c, cs, rfl⟩ := List.exists_cons_of_ne_nil nonempty
  rw [List.cons_append] at h
  rw [Lexed, List.cons_append, lex_of_piece h, ← List.cons_append, List.take_left, List.drop_left]
  rfl

end Lexed

end

end EntityQuery.ConditionText
