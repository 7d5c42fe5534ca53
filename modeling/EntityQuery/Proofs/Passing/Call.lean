import EntityQuery.Proofs.Passing.Contract

/-!
# Names, types and calls

The readings that everything else is made of, up to calls with all that may follow their arguments,
keep the contract of `Passes`. What stands inside is read by the level below, which is sound if it
keeps the contract.
-/

namespace EntityQuery.ConditionText

-- An instance for a reading holds one for each of its parts.
set_option synthInstance.maxSize 2048

/-- Whether the readings of a level keep the contract. -/
class Level.IsSound (inner : Level) : Prop where
  tighter : ∀ K rank, Passes K (inner.tighter rank)
  query : ∀ K, Passes K inner.query

namespace Parse

variable {K : Known} {inner : Level} [sound : inner.IsSound]

instance passes_tighter (rank : Nat) : Passes K (inner.tighter rank) := sound.tighter K rank

instance passes_innerQuery : Passes K inner.query := sound.query K

instance passes_expr : Passes K inner.expr := passes_tighter 0

instance passes_exprs : Passes K inner.exprs := passes_separated

/-! ## Names and literals -/

instance passes_ident : Passes K ident := by
  unfold ident
  refine .bind inferInstance fun _ => ?_
  split
  · split
    · next same =>
        have := Known.Has.of_ident? same
        infer_instance
    · infer_instance
  · infer_instance

instance passes_moreParts (n : Nat) : Passes K (moreParts n) := by
  induction n generalizing K with
  | zero => exact passes_pure
  | succ n ih =>
      unfold moreParts
      infer_instance

instance passes_objectName : Passes K objectName := by
  unfold objectName
  infer_instance

instance passes_columnList : Passes K columnList := by
  unfold columnList
  infer_instance

instance passes_columnList? : Passes K columnList? := by
  unfold columnList?
  infer_instance

instance passes_placeholderName (mark : String) : Passes K (placeholderName mark) := by
  unfold placeholderName
  refine .bind inferInstance fun _ => ?_
  split <;> infer_instance

instance passes_constant : Passes K constant := by
  unfold constant
  refine .bind inferInstance fun _ => ?_
  split
  · split <;> infer_instance
  · refine .bind inferInstance fun _ => ?_
    split <;> infer_instance

instance passes_numberValue : Passes K numberValue := by
  unfold numberValue
  refine .get fun _ => .bind inferInstance fun _ => ?_
  split
  · infer_instance
  · infer_instance
  · exact .of_unmoved fun read => by cases read

instance passes_signedNumber : Passes K signedNumber := by
  unfold signedNumber
  refine .bind inferInstance fun _ => ?_
  split <;> infer_instance

instance passes_literalText : Passes K literalText := by
  unfold literalText
  refine .bind inferInstance fun _ => ?_
  split <;> infer_instance

instance passes_natBelow (type : String) (bound : Nat) : Passes K (natBelow type bound) := by
  unfold natBelow
  refine .bind inferInstance fun _ => ?_
  split
  · split <;> infer_instance
  · infer_instance

instance passes_literalNat : Passes K literalNat := passes_natBelow _ _

/-! ## Types -/

instance passes_length : Passes K length := by
  unfold length
  infer_instance

instance passes_characterLength : Passes K characterLength := by
  unfold characterLength
  infer_instance

instance passes_precisionAndScale : Passes K precisionAndScale := by
  unfold precisionAndScale
  infer_instance

instance passes_timeZone : Passes K timeZone := by
  unfold timeZone
  refine .bind inferInstance fun _ => ?_
  split <;> infer_instance

instance passes_precisionAndZone : Passes K precisionAndZone := by
  unfold precisionAndZone
  infer_instance

instance passes_characters (word : String) : Passes K (characters word) := by
  unfold characters
  infer_instance

instance passes_enumerationMember : Passes K enumerationMember := by
  unfold enumerationMember
  refine .bind inferInstance fun _ => .bind inferInstance fun _ => ?_
  split <;> infer_instance

instance passes_setMembers (n : Nat) : Passes K (setMembers n) := by
  induction n generalizing K with
  | zero => exact passes_expected _
  | succ n ih =>
      unfold setMembers
      refine .bind inferInstance fun _ => ?_
      split <;> infer_instance

instance passes_modifier : Passes K modifier := by
  unfold modifier
  refine .bind inferInstance fun _ => ?_
  split <;> infer_instance

instance passes_namedType : Passes K namedType := by
  unfold namedType
  refine .bind inferInstance fun _ => .bind inferInstance fun _ => ?_
  split
  · refine .bind inferInstance fun _ => .bind inferInstance fun _ => ?_
    split
    · split <;> infer_instance
    · infer_instance
  · infer_instance

instance passes_knownType (word : String) : Passes K (knownType word) := by
  unfold knownType
  split
  · infer_instance
  · repeat' split
    all_goals infer_instance

instance passes_simpleType : Passes K simpleType := by
  unfold simpleType
  refine .bind inferInstance fun _ => ?_
  split <;> infer_instance

instance passes_brackets : Passes K brackets := by
  unfold brackets
  infer_instance

instance passes_typeAndBracket (n : Nat) : Passes K (typeAndBracket n) := by
  induction n generalizing K with
  | zero => exact passes_expected _
  | succ n ih =>
      have dimensions {K : Known} (type : DataType) (spare : Bool) :
          Passes K (whileSome brackets >>= fun
            | [] => (Pure.pure (type, spare) : Parse (DataType × Bool))
            | dimensions => Pure.pure (.known (type.text ++ String.join dimensions), spare)) := by
        refine .bind inferInstance fun _ => ?_
        split <;> infer_instance
      unfold typeAndBracket
      simp only [pure_bind]
      refine .bind inferInstance fun _ => ?_
      split
      · refine .bind inferInstance fun _ => .bind inferInstance fun r => ?_
        obtain ⟨element, closed⟩ := r
        dsimp only
        infer_instance
      · refine .bind inferInstance fun _ => dimensions _ _

instance passes_dataType : Passes K dataType := by
  unfold dataType
  refine .get fun _ => .bind inferInstance fun _ => ?_
  split
  infer_instance

/-! ## Spans of time -/

instance passes_dateTimeField : Passes K dateTimeField := by
  unfold dateTimeField
  refine .bind inferInstance fun _ => ?_
  split
  · infer_instance
  · refine .bind inferInstance fun _ => ?_
    split <;> infer_instance

instance passes_fieldLength : Passes K fieldLength := by
  unfold fieldLength
  infer_instance

instance passes_fieldFraction : Passes K fieldFraction := by
  unfold fieldFraction
  infer_instance

instance passes_timeSpan (amount : Parse Expr) [h : Passes K amount] :
    Passes K (timeSpan amount) := by
  unfold timeSpan
  dsimp only
  infer_instance

instance passes_collated (e : Expr) [K.Has e] : Passes K (collated e) := by
  unfold collated
  infer_instance

/-! ## Calls -/

instance passes_orderTerm : Passes K (orderTerm inner) := by
  unfold orderTerm
  dsimp only
  repeat' first | refine .bind inferInstance fun _ => ?_ | split | infer_instance

instance passes_orderTerms : Passes K (orderTerms inner) := passes_separated

instance passes_orderClause? : Passes K (orderClause? inner) := passes_afterKeywords? _

instance passes_subquery : Passes K (subquery inner) := by
  unfold subquery
  infer_instance

instance passes_nextIsQuery : Passes K nextIsQuery := passes_nextIs _

instance passes_frameBound : Passes K (frameBound inner) := by
  unfold frameBound
  dsimp only
  repeat' first | refine .bind inferInstance fun _ => ?_ | split | infer_instance

instance passes_windowFrame : Passes K (windowFrame inner) := by
  unfold windowFrame
  refine .bind inferInstance fun _ => ?_
  split <;> infer_instance

instance passes_windowSpec : Passes K (windowSpec inner) := by
  unfold windowSpec
  refine .bind inferInstance fun _ => ?_
  split <;> infer_instance

instance passes_partsAfter (n : Nat) (parts : List Ident) [K.Has parts] :
    Passes K (partsAfter n parts) := by
  induction n generalizing K parts with
  | zero => exact passes_pure
  | succ n ih =>
      unfold partsAfter
      refine .bind inferInstance fun _ => ?_
      split
      · refine .bind inferInstance fun _ => ?_
        split
        · split
          · next same =>
              have := Known.Has.of_ident? same
              infer_instance
          · infer_instance
        · infer_instance
      · infer_instance

instance passes_wildcard? : Passes K wildcard? := by
  constructor
  intro before ls w? rest known read
  unfold wildcard? at read
  split at read
  · next star more =>
      cases read
      refine ⟨[⟨.symbol "*", star⟩], rfl, fun s mem => ?_⟩
      obtain rfl : s = some star := by simpa [spans] using mem
      exact .token (List.mem_append_right _ (List.mem_singleton_self (Lexeme.mk _ star)))
  · next first second more _ =>
      split at read
      · next i named point =>
          obtain ⟨⟨⟨parts, star?⟩, left⟩, names, result⟩ := EntityQuery.bind_eq_ok.1 read
          have := Known.Has.of_ident? named K
          -- The first name is passed in front of the others.
          obtain ⟨ts, same, places⟩ := (passes_partsAfter _ [i]).passes (before ++ [first]) _ _ _
            (known.token first) names
          cases star? with
          | none =>
              cases result
              exact ⟨[], rfl, by rintro _ ⟨⟩⟩
          | some star =>
              cases result
              refine ⟨first :: ts, congrArg (first :: ·) same, ?_⟩
              rw [List.append_assoc] at places
              rwa [spans_some]
      · cases read
        exact ⟨[], rfl, by rintro _ ⟨⟩⟩
  · cases read
    exact ⟨[], rfl, by rintro _ ⟨⟩⟩

instance passes_wildcardOrExpr : Passes K (wildcardOrExpr inner) := by
  unfold wildcardOrExpr
  refine .bind inferInstance fun _ => ?_
  split <;> infer_instance

instance passes_argumentSign : Passes K argumentSign := by
  unfold argumentSign
  infer_instance

/-- An argument behind its name. -/
def namedArgument (inner : Level) (name : Expr) : Parse Fragment := do
  let sign ← argumentSign
  let value ← wildcardOrExpr inner
  pure (name.fragment ++ Fragment.words (" " ++ sign ++ " ") ++ value)

instance passes_namedArgument (name : Expr) [K.Has name] : Passes K (namedArgument inner name) := by
  unfold namedArgument
  infer_instance

instance passes_argument : Passes K (argument inner) := by
  have wildcard : Passes K (wildcard? >>= fun
      | some w => pure w.fragment
      | none => fail .tooDeep) := by
    refine .bind inferInstance fun _ => ?_
    split <;> infer_instance
  refine .of_results fun {ls f rest} read => ?_
  unfold argument at read
  split at read
  · cases read
  · split at read
    · next found =>
        cases read
        exact ⟨_, wildcard, bind_of_ok found⟩
    · cases read
    · cases read
  · next name more found =>
      dsimp only at read
      split at read
      · next named =>
          cases read
          exact ⟨inner.expr >>= namedArgument inner, inferInstance,
            (bind_of_ok found).trans (attempt_eq_some named)⟩
      · split at read
        · next found =>
            cases read
            exact ⟨_, wildcard, bind_of_ok found⟩
        · cases read
          exact ⟨Expr.fragment <$> inner.expr, inferInstance, by rw [map_apply, found]; rfl⟩
        · cases read
      · cases read

instance passes_onOverflow? : Passes K (onOverflow? inner) := by
  unfold onOverflow?
  dsimp only
  repeat' first | refine .bind inferInstance fun _ => ?_ | split | infer_instance

instance passes_nullClause? : Passes K nullClause? := by
  unfold nullClause?
  infer_instance

instance passes_duplicates : Passes K duplicates := by
  unfold duplicates
  infer_instance

instance passes_arguments : Passes K (arguments inner) := by
  unfold arguments
  infer_instance

instance passes_nullTreatment : Passes K nullTreatment := by
  unfold nullTreatment
  refine .bind inferInstance fun _ => ?_
  split <;> infer_instance

instance passes_filterClause : Passes K (filterClause inner) := by
  unfold filterClause
  infer_instance

instance passes_groupOrder : Passes K (groupOrder inner) := by
  unfold groupOrder
  infer_instance

instance passes_windowClause : Passes K (windowClause inner) := by
  unfold windowClause
  infer_instance

instance passes_call (name : List Ident) [K.Has name] : Passes K (call inner name) := by
  unfold call
  infer_instance

end Parse

end EntityQuery.ConditionText
