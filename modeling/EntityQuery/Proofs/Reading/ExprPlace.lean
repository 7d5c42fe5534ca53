import EntityQuery.Proofs.Passing.Grown
import EntityQuery.Proofs.Reading.Search
import EntityQuery.Proofs.Reading.Standing

/-!
# Positions of expressions

The position of an expression is that of its first name, or else that of the first occurrence of its
canonical spelling, and the position of an operator is told from the end of the last name in front
of it. So a position is that of the token where an expression or an operator starts under conditions
that the text and the expression tell.
-/

namespace EntityQuery.ConditionText

/-! ## Places of tokens -/

/-- The bytes in front of a place of the text tell the place. -/
theorem textOffset_eq_iff {text f b front back : List Char} (split : text = f ++ b)
    (split' : text = front ++ back) :
    textOffset text (textStart.advanceAll f) = byteLength front ↔
      textStart.advanceAll f = textStart.advanceAll front := by
  constructor
  · intro same
    rw [split, textOffset_advanceAll] at same
    rw [eq_of_byteLength_eq split split' same]
  · intro same
    rw [same, split', textOffset_advanceAll]

/-- What is left behind some characters of a text. -/
theorem dropBytes_append (front back : List Char) :
    dropBytes (byteLength front) (front ++ back) = back := by
  induction front with
  | nil => cases back <;> rfl
  | cons c cs ih =>
      obtain ⟨n, size⟩ : ∃ n, byteLength (c :: cs) = n + 1 :=
        Nat.exists_eq_add_one.2 (Nat.add_pos_left c.utf8Size_pos _)
      rw [size, List.cons_append, dropBytes, ← size, byteLength, Nat.add_sub_cancel_left, ih]

theorem not_isBlank_of_either {a b c : Char} (either : (c == a || c == b) = true)
    (first : Unicode.isBlank a = false) (second : Unicode.isBlank b = false) :
    Unicode.isBlank c = false := by
  rw [Bool.or_eq_true, beq_iff_eq, beq_iff_eq] at either
  obtain rfl | rfl := either
  · exact first
  · exact second

/-- The mark of a quoted text is no blank. -/
theorem not_isBlank_of_markedQuotation {cs : List Char} {piece : Except ContentFault Piece}
    (marked : markedQuotation? cs = some piece) : ∀ c ∈ cs.head?, Unicode.isBlank c = false := by
  unfold markedQuotation? at marked
  split at marked
  · repeat' split at marked
    all_goals cases marked
    all_goals
      rintro _ ⟨⟩
      exact not_isBlank_of_either ‹_› (by decide) (by decide)
  · split at marked
    · rintro _ ⟨⟩
      exact not_isBlank_of_either ‹_› (by decide) (by decide)
    · cases marked
  · split at marked
    · rintro _ ⟨⟩
      exact not_isBlank_of_either ‹_› (by decide) (by decide)
    · cases marked
  · cases marked

/-- A token starts with no blank. -/
theorem not_isBlank_of_pieceAt {cs : List Char} {token : Token} {n : Nat}
    (piece : pieceAt cs = .ok (some token, n)) : ∀ c ∈ cs.head?, Unicode.isBlank c = false := by
  unfold pieceAt at piece
  split at piece
  · next marked => exact not_isBlank_of_markedQuotation marked
  · split at piece
    · cases piece
    · cases piece
    · split at piece <;> cases piece
    · rintro _ ⟨⟩; decide
    · rintro _ ⟨⟩; decide
    · rintro _ ⟨⟩; decide
    · next c _ _ _ _ _ _ _ =>
        cases blank : Unicode.isBlank c with
        | false =>
            rintro _ ⟨⟩
            exact blank
        | true =>
            rw [if_pos blank] at piece
            cases piece

/-- Without an occurrence the start of a text stands for the first one. -/
theorem firstOccurrence_getD_eq_iff {part text front back : List Char}
    (split : text = front ++ back) :
    (firstOccurrence part text).getD 0 = byteLength front ↔
      SucceedsFirst (Occurs part) text front ∨
        (front = [] ∧ ∀ f b, text = f ++ b → ¬ Occurs part f b) := by
  have found := firstOccurrence_spec part text
  cases position : firstOccurrence part text with
  | some n =>
      rw [position] at found
      obtain ⟨front', ⟨⟨back', split', occurs'⟩, before'⟩, rfl⟩ := found
      constructor
      · intro same
        obtain rfl := eq_of_byteLength_eq split' split same
        exact .inl ⟨⟨back', split', occurs'⟩, before'⟩
      · rintro (⟨⟨back, split, occurs⟩, before⟩ | ⟨-, nowhere⟩)
        · exact Nat.le_antisymm (before'.byteLength_le split' split occurs)
            (before.byteLength_le split split' occurs')
        · exact absurd occurs' (nowhere front' back' split')
  | none =>
      rw [position] at found
      constructor
      · intro same
        refine .inr ⟨?_, found⟩
        exact eq_of_byteLength_eq split (List.nil_append text).symm same.symm
      · rintro (⟨⟨back, split, occurs⟩, -⟩ | ⟨rfl, -⟩)
        · exact absurd occurs (found front back split)
        · rfl

/-- What is taken is all of some characters exactly if these pass the test and the next one does
not. -/
theorem byteLength_takeWhile_eq_iff {p : Char → Bool} {front back : List Char}
    (stop : ∀ c ∈ back.head?, p c = false) :
    byteLength ((front ++ back).takeWhile p) = byteLength front ↔ front.all p := by
  constructor
  · intro same
    have taken : (front ++ back).takeWhile p = front :=
      eq_of_byteLength_eq (List.takeWhile_append_dropWhile).symm rfl same
    rw [← taken]
    exact List.all_takeWhile
  · intro all
    have none : back.takeWhile p = [] := by
      cases back with
      | nil => rfl
      | cons c cs => rw [List.takeWhile_cons, stop c rfl, if_neg Bool.false_ne_true]
    rw [List.takeWhile_append_of_pos (List.all_eq_true.1 all), none, List.append_nil]

/-! ## Expressions -/

/-- Where the position of an expression is: where its first name starts or, without names, where its
spelling occurs first, or at the start of a text where it does not occur. -/
def Expr.IsPlacedAt (text : List Char) (e : Expr) (front : List Char) : Prop :=
  match e.span with
  | some extent => extent.first = textStart.advanceAll front
  | none => SucceedsFirst (Occurs e.text.toList) text front ∨
      (front = [] ∧ ∀ f b, text = f ++ b → ¬ Occurs e.text.toList f b)

/-- Where the position of the operator behind an expression is: where only blanks stand between the
last name of the expression and the operator or, without names, where the expression is. -/
def Expr.OperatorIsPlacedAt (text : List Char) (left : Expr) (front : List Char) : Prop :=
  match left.span with
  | some extent => ∃ f blanks, front = f ++ blanks ∧ extent.last = textStart.advanceAll f ∧
      blanks.all Unicode.isBlank
  | none => left.IsPlacedAt text front

/-! ## Expressions in a text -/

section

variable {text front own back : List Char} {ls more rest : List Lexeme} {x : Lexeme} {e : Expr}

/-- The position of an expression is that of the token where it starts if and only if the expression
is placed there. -/
theorem Grown.position_eq_iff (laid : Laid text [] ls) (within : x :: more <:+ ls)
    (grown : Grown (x :: more) e rest) (stands : Stands text x front own back) :
    e.position text = byteLength front ↔ e.IsPlacedAt text front := by
  unfold Expr.position Expr.IsPlacedAt
  cases span : e.span with
  | some extent =>
      obtain ⟨y, ts, tokens, places⟩ := grown.tokens
      obtain ⟨z, mem, first⟩ := (places extent span).1
      have zmem : z ∈ ls := within.subset (tokens ▸ List.mem_append_left rest mem)
      obtain ⟨f, own', back', stands', -⟩ := laid.stands zmem
      simp only
      rw [← first, stands'.first]
      exact textOffset_eq_iff stands'.text_eq stands.text_eq
  | none =>
      exact firstOccurrence_getD_eq_iff stands.text_eq

/-- The position of the operator behind an expression is that of its token if and only if the
operator is placed there. -/
theorem Grown.operatorPosition_eq_iff (laid : Laid text [] ls) {start later : List Lexeme}
    {left : Expr} (within : start <:+ ls) (grown : Grown start left (x :: later))
    (stands : Stands text x front own back) :
    operatorPosition text left = byteLength front ↔ left.OperatorIsPlacedAt text front := by
  unfold operatorPosition Expr.OperatorIsPlacedAt
  obtain ⟨y, ts, rfl, places⟩ := grown.tokens
  cases span : left.span with
  | some extent =>
      obtain ⟨z, mem, last⟩ := (places extent span).2
      -- The last name in front ends before the operator starts.
      have order : z.finish text ≤ x.offset text := by
        have pairwise := laid.pairwise.sublist within.sublist
        rw [← List.cons_append] at pairwise
        exact (List.pairwise_append.1 pairwise).2.2 z mem x List.mem_cons_self
      obtain ⟨f, own', back', stands', -⟩ :=
        laid.stands (within.subset (List.mem_append_left (x :: later) mem))
      obtain ⟨between, rfl, rfl⟩ := stands'.exists_between stands order
      have split : text = (f ++ own') ++ (between ++ (own ++ back)) := by
        rw [stands'.text_eq, List.append_assoc]
      have after : textOffset text extent.last = byteLength (f ++ own') := by
        rw [← last, stands'.last, split, textOffset_advanceAll]
      have stop : ∀ c ∈ (own ++ back).head?, Unicode.isBlank c = false :=
        let ⟨_, piece, _⟩ := stands.piece
        not_isBlank_of_pieceAt piece
      have blanks : byteLength ((between ++ (own ++ back)).takeWhile Unicode.isBlank) =
          byteLength between ↔ between.all Unicode.isBlank := byteLength_takeWhile_eq_iff stop
      dsimp only
      rw [after, split, dropBytes_append, byteLength_append (f ++ own'), Nat.add_left_cancel_iff,
        blanks, ← last, stands'.last]
      constructor
      · exact fun all => ⟨f ++ own', between, rfl, rfl, all⟩
      · rintro ⟨f', blanks', same, place, all⟩
        have bytes := (textOffset_eq_iff (f := f ++ own') rfl same).2 place
        rw [textOffset_advanceAll] at bytes
        obtain rfl := eq_of_byteLength_eq rfl same bytes
        rwa [List.append_cancel_left same]
  | none =>
      unfold Expr.position Expr.IsPlacedAt
      rw [span]
      exact firstOccurrence_getD_eq_iff stands.text_eq

end

end EntityQuery.ConditionText
