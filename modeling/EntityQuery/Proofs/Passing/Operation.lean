import EntityQuery.Proofs.Passing.Call

/-!
# Operands and operations

The readings of operands and of the operations on them keep the contract of `Passes`.
-/

namespace EntityQuery.ConditionText.Parse

-- An instance for a reading holds one for each of its parts.
set_option synthInstance.maxSize 2048

variable {K : Known} {inner : Level} [inner.IsSound]

/-! ## Constructs that start with a word -/

instance passes_typedText (timeSpan : Parse Expr) [h : Passes K timeSpan] :
    Passes K (typedText timeSpan) := by
  unfold typedText
  refine .bind inferInstance fun type => ?_
  have := h.weaken type
  split <;> infer_instance

instance passes_branches (n : Nat) : Passes K (branches inner n) := by
  induction n generalizing K with
  | zero => exact passes_pure
  | succ n ih =>
      unfold branches
      dsimp only
      infer_instance

instance passes_caseDistinction : Passes K (caseDistinction inner) := by
  unfold caseDistinction
  dsimp only
  infer_instance

instance passes_conversion : Passes K (conversion inner) := by
  unfold conversion
  infer_instance

instance passes_cast (word : String) : Passes K (cast inner word) := by
  unfold cast
  dsimp only
  infer_instance

instance passes_existence (negated : Bool) : Passes K (existence inner negated) := by
  unfold existence
  infer_instance

instance passes_extraction : Passes K (extraction inner) := by
  unfold extraction
  infer_instance

instance passes_rounding (word : String) : Passes K (rounding inner word) := by
  unfold rounding
  dsimp only
  repeat' first | refine .bind inferInstance fun _ => ?_ | split | infer_instance

instance passes_position (name : Ident) [K.Has name] : Passes K (position inner name) := by
  unfold position
  refine .bind inferInstance fun _ => ?_
  split <;> infer_instance

instance passes_substring : Passes K (substring inner) := by
  unfold substring
  dsimp only
  infer_instance

instance passes_overlay : Passes K (overlay inner) := by
  unfold overlay
  infer_instance

instance passes_trimming : Passes K (trimming inner) := by
  unfold trimming
  dsimp only
  infer_instance

instance passes_arrayItems (start : String) : Passes K (arrayItems inner start) := by
  unfold arrayItems
  infer_instance

instance passes_negation : Passes K (negation inner) := by
  unfold negation
  infer_instance

instance passes_construct? (amount : Parse Expr) [Passes K amount] (name : Ident) [K.Has name]
    (word : String) : Passes K (construct? inner amount name word) := by
  unfold construct?
  split <;> infer_instance

/-! ## Operands -/

instance passes_named (name : Ident) [K.Has name] : Passes K (named inner name) := by
  unfold named
  refine .bind inferInstance fun _ => .ite ?_ (.ite ?_ inferInstance)
  · refine .get fun _ => .bind inferInstance fun _ => ?_
    split <;> infer_instance
  · refine .bind inferInstance fun _ => ?_
    split <;> infer_instance

instance passes_wordOperand (amount : Parse Expr) [Passes K amount] (name : Ident) [K.Has name]
    (word : String) : Passes K (wordOperand inner amount name word) := by
  have construct : Passes K (construct? inner amount name word >>= fun
      | some e => collated e
      | none => fail .tooDeep) := by
    refine .bind inferInstance fun _ => ?_
    split <;> infer_instance
  refine .of_results fun {ls e rest} read => ?_
  unfold wordOperand at read
  split at read
  · next found => exact ⟨_, construct, (bind_of_ok found).trans read⟩
  · exact ⟨named inner name >>= collated, inferInstance, read⟩
  · split at read
    · cases read
    · split at read
      · next found =>
          cases read
          exact ⟨named inner name, inferInstance, found⟩
      · cases read

instance passes_inParentheses : Passes K (inParentheses inner) := by
  unfold inParentheses
  dsimp only
  repeat' first | refine .bind inferInstance fun _ => ?_ | split
  all_goals first
    | infer_instance
    | have := Known.Has.of_ident? ‹_›
      infer_instance

instance passes_callInBraces (start : Location) : Passes K (callInBraces inner start) := by
  unfold callInBraces
  refine .bind inferInstance fun _ => ?_
  split <;> infer_instance

instance passes_symbolOperand (text : String) (start : Location) :
    Passes K (symbolOperand inner text start) := by
  unfold symbolOperand
  infer_instance

instance passes_untypedOperand (amount : Parse Expr) [h : Passes K amount] :
    Passes K (untypedOperand inner amount) := by
  unfold untypedOperand
  refine .bind inferInstance fun l? => ?_
  have := h.weaken l?
  split
  · next value quoted capitals extent =>
      have := Known.Has.of_ident? (l := ⟨.word value quoted capitals, extent⟩) rfl K
      infer_instance
  · infer_instance
  · split <;> infer_instance
  · infer_instance

instance passes_operandWithin (n : Nat) : Passes K (operandWithin inner n) := by
  induction n generalizing K with
  | zero => exact passes_expected _
  | succ n ih =>
      unfold operandWithin
      refine .bind inferInstance fun _ => ?_
      split <;> infer_instance

instance passes_operand : Passes K (operand inner) :=
  ⟨fun before ls => (passes_operandWithin (ls.length + 1)).passes before ls⟩

/-! ## Operations -/

theorem set_apply (ls ts : List Lexeme) : (set ls : Parse PUnit) ts = .ok ((), ls) := rfl

theorem nextIs_unmoved {kind : Token → Bool} {ls rest : List Lexeme} {is : Bool}
    (h : nextIs kind ls = .ok (is, rest)) : rest = ls := by
  unfold nextIs at h
  split at h <;> cases h <;> rfl

instance passes_rightSide (left : Expr) [K.Has left] (op : BinaryOp) (place : Location)
    (rank : Nat) : Passes K (rightSide inner left op place rank) := by
  unfold rightSide
  dsimp only
  refine .bind inferInstance fun _ => ?_
  split
  · infer_instance
  · refine .of_results fun {ls e rest} read => ?_
    rw [bind_of_ok (get_apply ls)] at read
    obtain ⟨_, middle, opened, read⟩ := bind_eq_ok.1 read
    obtain ⟨isQuery, _, next, read⟩ := bind_eq_ok.1 read
    obtain rfl := nextIs_unmoved next
    cases isQuery with
    | true =>
        -- A query is read again with the parenthesis in front of it.
        rw [if_pos rfl, bind_of_ok (set_apply ls _)] at read
        exact ⟨_, inferInstance, read⟩
    | false =>
        rw [if_neg Bool.false_ne_true] at read
        exact ⟨expectSymbol "(" >>= fun _ => _, inferInstance, (bind_of_ok opened).trans read⟩

instance passes_operatorParts (n : Nat) : Passes K (operatorParts n) := by
  induction n generalizing K with
  | zero => exact passes_pure
  | succ n ih =>
      unfold operatorParts
      dsimp only
      infer_instance

instance passes_test (e : Expr) [K.Has e] : Passes K (test inner e) := by
  unfold test
  dsimp only
  infer_instance

instance passes_escapeCharacter : Passes K escapeCharacter := passes_afterKeyword? _

instance passes_pattern : Passes K (pattern inner) := by
  unfold pattern
  infer_instance

instance passes_membershipOrPattern (e : Expr) [K.Has e] (negated : Bool) :
    Passes K (membershipOrPattern inner e negated) := by
  unfold membershipOrPattern
  repeat' first | refine .bind inferInstance fun _ => ?_ | split
  all_goals infer_instance

instance passes_subscript (e : Expr) [K.Has e] : Passes K (subscript inner e) := by
  unfold subscript
  dsimp only
  repeat' first | refine .bind inferInstance fun _ => ?_ | refine .ite ?_ ?_ | infer_instance

instance passes_wordOperation (e : Expr) [K.Has e] (rank : Nat) (value word : String)
    (place : Location) : Passes K (wordOperation inner e rank value word place) := by
  unfold wordOperation
  split <;> infer_instance

instance passes_operation (e : Expr) [K.Has e] (rank : Nat) :
    Passes K (operation inner e rank) := by
  unfold operation
  refine .bind inferInstance fun _ => .ite inferInstance (.bind inferInstance fun _ => ?_)
  split
  · infer_instance
  · split
    · infer_instance
    · split <;> infer_instance

instance passes_operations (rank n : Nat) (e : Expr) [K.Has e] :
    Passes K (operations inner rank n e) := by
  induction n generalizing K e with
  | zero => exact passes_pure
  | succ n ih =>
      refine .of_results fun {ls _ _} read => ?_
      unfold operations at read
      dsimp only at read
      split at read
      · exact ⟨pure e, inferInstance, read⟩
      · exact ⟨_, inferInstance, read⟩

instance passes_expression (rank : Nat) : Passes K (expression inner rank) := by
  unfold expression
  infer_instance

end EntityQuery.ConditionText.Parse
