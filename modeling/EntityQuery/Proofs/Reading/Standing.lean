import EntityQuery.Proofs.Reading.Places

/-!
# Where tokens stand

Every token of a text is a piece of it: it stands behind the characters in front and covers some
characters of its own, and the tokens stand one behind the other. The place that a token carries is
that of its first character, so turned into bytes it is the number of bytes in front of it.
-/

namespace EntityQuery.ConditionText

/-- A token stands behind some characters of a text. -/
structure Stands (text : List Char) (x : Lexeme) (front own back : List Char) : Prop where
  text_eq : text = front ++ (own ++ back)
  nonempty : own ≠ []
  first : x.extent.first = textStart.advanceAll front
  last : x.extent.last = textStart.advanceAll (front ++ own)
  piece : ∃ n, pieceAt (own ++ back) = .ok (some x.token, n) ∧ own = (own ++ back).take n

/-- The bytes of a text in front of a token. -/
def Lexeme.offset (text : List Char) (x : Lexeme) : Nat := textOffset text x.extent.first

/-- The bytes of a text up to the end of a token. -/
def Lexeme.finish (text : List Char) (x : Lexeme) : Nat := textOffset text x.extent.last

namespace Stands

variable {text front own back : List Char} {x : Lexeme}

theorem offset_eq (h : Stands text x front own back) : x.offset text = byteLength front := by
  rw [Lexeme.offset, h.first, h.text_eq, textOffset_advanceAll]

theorem finish_eq (h : Stands text x front own back) :
    x.finish text = byteLength (front ++ own) := by
  rw [Lexeme.finish, h.last, h.text_eq, ← List.append_assoc, textOffset_advanceAll]

/-- What stands between two tokens of a text. -/
theorem exists_between {y : Lexeme} {front' own' back' : List Char}
    (h : Stands text x front own back) (h' : Stands text y front' own' back')
    (order : x.finish text ≤ y.offset text) :
    ∃ between, front' = front ++ own ++ between ∧ back = between ++ (own' ++ back') := by
  have split : text = (front ++ own) ++ back := by rw [List.append_assoc, ← h.text_eq]
  rw [h.finish_eq, h'.offset_eq] at order
  obtain ⟨between, rfl⟩ : front ++ own <+: front' := by
    refine List.prefix_of_prefix_length_le (split ▸ List.prefix_append _ _)
      (h'.text_eq ▸ List.prefix_append _ _) (Nat.le_of_not_lt fun less => ?_)
    exact absurd (byteLength_lt_of_length_lt h'.text_eq split less) (Nat.not_lt.2 order)
  have same : (front ++ own) ++ back = (front ++ own) ++ (between ++ (own' ++ back')) := by
    rw [← split, h'.text_eq, List.append_assoc]
  exact ⟨between, rfl, List.append_cancel_left same⟩

end Stands

/-- Tokens stand one behind the other in a text, all of them behind some characters. -/
inductive Laid (text : List Char) : List Char → List Lexeme → Prop
  | nil {passed : List Char} : Laid text passed []
  | cons {passed front own back : List Char} {x : Lexeme} {ls : List Lexeme}
      (ahead : passed <+: front) (stands : Stands text x front own back)
      (behind : Laid text (front ++ own) ls) : Laid text passed (x :: ls)

namespace Laid

variable {text passed : List Char} {ls : List Lexeme}

/-- Every token stands somewhere behind what has been passed. -/
theorem stands (laid : Laid text passed ls) {x : Lexeme} (mem : x ∈ ls) :
    ∃ front own back, Stands text x front own back ∧ passed <+: front := by
  induction laid with
  | nil => cases mem
  | cons ahead first _ ih =>
      obtain rfl | later := List.mem_cons.1 mem
      · exact ⟨_, _, _, first, ahead⟩
      · obtain ⟨front, own, back, stands, behind⟩ := ih later
        exact ⟨front, own, back, stands, (ahead.trans (List.prefix_append _ _)).trans behind⟩

theorem byteLength_le_offset (laid : Laid text passed ls) {x : Lexeme} (mem : x ∈ ls) :
    byteLength passed ≤ x.offset text := by
  obtain ⟨_, _, _, stands, more, rfl⟩ := laid.stands mem
  rw [stands.offset_eq, byteLength_append]
  exact Nat.le_add_right _ _

/-- A token ends before the next one starts. -/
theorem pairwise (laid : Laid text passed ls) :
    ls.Pairwise fun x y => x.finish text ≤ y.offset text := by
  induction laid with
  | nil => exact .nil
  | cons _ first later ih =>
      refine List.pairwise_cons.2 ⟨fun y mem => ?_, ih⟩
      rw [first.finish_eq]
      exact later.byteLength_le_offset mem

/-- Tokens that stand behind more characters stand behind fewer ones. -/
theorem of_prefix {shorter : List Char} (laid : Laid text passed ls) (front : shorter <+: passed) :
    Laid text shorter ls := by
  cases laid with
  | nil => exact .nil
  | cons ahead first later => exact .cons (front.trans ahead) first later

end Laid

/-- The tokens of the rest of a text are laid behind its front. -/
theorem laid_of_lexFrom {text passed cs : List Char} {fuel : Nat} {ls : List Lexeme}
    (split : text = passed ++ cs) (lexed : lexFrom fuel (textStart.advanceAll passed) cs = .ok ls) :
    Laid text passed ls := by
  induction fuel generalizing passed cs ls with
  | zero =>
      cases lexed
      exact .nil
  | succ fuel ih =>
      cases cs with
      | nil =>
          cases lexed
          exact .nil
      | cons c cs =>
          unfold lexFrom at lexed
          split at lexed
          · cases lexed
          · next token? n piece =>
              dsimp only at lexed
              rw [← advanceAll_append] at lexed
              split at lexed
              · cases lexed
              · next rest further =>
                  have whole := List.take_append_drop n (c :: cs)
                  have behind : Laid text (passed ++ (c :: cs).take n) rest :=
                    ih (by rw [List.append_assoc, whole, split]) further
                  split at lexed
                  · next token =>
                      cases lexed
                      have taken : 0 < n := Takes.pieceAt _ _ piece
                      have stands : Stands text ⟨token, ⟨_, _⟩⟩ passed ((c :: cs).take n)
                          ((c :: cs).drop n) :=
                        { text_eq := by rw [whole, split]
                          nonempty := by simpa using Nat.pos_iff_ne_zero.1 taken
                          first := rfl
                          last := rfl
                          piece := ⟨n, by rw [whole, piece], by rw [whole]⟩ }
                      exact .cons List.prefix_rfl stands behind
                  · cases lexed
                    exact behind.of_prefix (List.prefix_append _ _)

/-- The tokens of a text stand in it one behind the other. -/
theorem laid_of_lex {text : List Char} {ls : List Lexeme} (lexed : lex textStart text = .ok ls) :
    Laid text [] ls := by
  rw [lex, ← advanceAll_nil textStart] at lexed
  exact laid_of_lexFrom (List.nil_append text).symm lexed

end EntityQuery.ConditionText
