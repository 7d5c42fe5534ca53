import EntityQuery.Proofs.QueryText.TrailingClause
import EntityQuery.Proofs.Reading.ExprPlace

/-!
# Boundaries of characters

Positions count bytes, and a text can be cut only between its characters. Every position that query
text is refused with is such a boundary, and so is the end of a name behind which an operator is
searched for, where the text is cut. This holds of every location, inside of the text or not, so it
does not depend on what reading gives: neither on the place of a failure nor on the spans in a
statement.
-/

namespace EntityQuery

namespace ConditionText

theorem byteLength_eq_utf8ByteSize (cs : List Char) :
    byteLength cs = (String.ofList cs).utf8ByteSize := by
  induction cs with
  | nil => rfl
  | cons c cs ih =>
      rw [String.ofList_cons, String.utf8ByteSize_append, String.utf8ByteSize_singleton, ← ih]
      rfl

theorem byteLength_toList (s : String) : byteLength s.toList = s.utf8ByteSize := by
  rw [byteLength_eq_utf8ByteSize, String.ofList_toList]

/-- A number of bytes ends with a character of a text, or is none. -/
def IsBoundary (text : List Char) (n : Nat) : Prop :=
  ∃ front back, text = front ++ back ∧ n = byteLength front

/-- What is left of a text behind some bytes, unless these end inside a character or behind the
text. -/
def dropBytes? : Nat → List Char → Option (List Char)
  | 0, cs => some cs
  | _ + 1, [] => none
  | n + 1, c :: cs => if c.utf8Size ≤ n + 1 then dropBytes? (n + 1 - c.utf8Size) cs else none

/-- The position of the operator behind an expression, unless the text is cut inside a character. -/
def operatorPosition? (text : List Char) (left : Expr) : Option Nat :=
  match left.span with
  | some extent =>
    let after := textOffset text extent.last
    (dropBytes? after text).map fun rest => after + byteLength (rest.takeWhile Unicode.isBlank)
  | none => some (left.position text)

namespace IsBoundary

variable {text front back : List Char} {n : Nat}

theorem behindFront (front back : List Char) : IsBoundary (front ++ back) (byteLength front) :=
  ⟨front, back, rfl, rfl⟩

theorem start (text : List Char) : IsBoundary text 0 := behindFront [] text

theorem whole (text : List Char) : IsBoundary text (byteLength text) :=
  ⟨text, [], (List.append_nil text).symm, rfl⟩

theorem le (h : IsBoundary text n) : n ≤ byteLength text := by
  obtain ⟨front, back, rfl, rfl⟩ := h
  rw [byteLength_append]
  exact Nat.le_add_right _ _

theorem cons (c : Char) (h : IsBoundary text n) : IsBoundary (c :: text) (c.utf8Size + n) := by
  obtain ⟨front, back, rfl, rfl⟩ := h
  exact behindFront (c :: _) back

/-- A boundary of a text is one of what stands behind its first characters, counted from there. -/
theorem behind (h : IsBoundary (front ++ back) n) : IsBoundary back (n - byteLength front) := by
  obtain ⟨front', back', split, rfl⟩ := h
  obtain ⟨more, rfl⟩ | ⟨more, rfl⟩ := List.prefix_or_prefix_of_prefix
    (List.prefix_append front back) (split ▸ List.prefix_append front' back')
  · rw [List.append_assoc, List.append_cancel_left_eq] at split
    rw [byteLength_append, Nat.add_sub_cancel_left, split]
    exact .behindFront more back'
  · rw [byteLength_append, Nat.sub_eq_zero_of_le (Nat.le_add_right _ _)]
    exact .start back

/-- Cutting a text at a boundary loses none of its characters. -/
theorem dropBytes?_eq (h : IsBoundary text n) : dropBytes? n text = some (dropBytes n text) := by
  obtain ⟨front, back, rfl, rfl⟩ := h
  rw [dropBytes_append]
  induction front with
  | nil => cases back <;> rfl
  | cons c cs ih =>
      obtain ⟨n, size⟩ : ∃ n, byteLength (c :: cs) = n + 1 :=
        Nat.exists_eq_add_one.2 (Nat.add_pos_left c.utf8Size_pos _)
      rw [size, List.cons_append, dropBytes?, ← size, byteLength, Nat.add_sub_cancel_left, ih]
      exact if_pos (Nat.le_add_right _ _)

/-- The boundaries of a text are the positions that are valid in it. -/
theorem isValid {s : String} (h : IsBoundary s.toList n) : (⟨n⟩ : String.Pos.Raw).IsValid s := by
  obtain ⟨front, back, split, rfl⟩ := h
  refine String.Pos.Raw.isValid_iff_exists_append.2 ⟨.ofList front, .ofList back, ?_, ?_⟩
  · rw [← String.ofList_append, ← split, String.ofList_toList]
  · exact String.Pos.Raw.ext (byteLength_eq_utf8ByteSize front)

end IsBoundary

/-! ## Locations -/

theorem isBoundary_lineOffset (cs : List Char) (n : Nat) : IsBoundary cs (lineOffset cs n) := by
  induction cs generalizing n with
  | nil => exact .start []
  | cons c cs ih =>
      cases n with
      | zero => exact .start _
      | succ n =>
          rw [lineOffset]
          split
          · exact (IsBoundary.start cs).cons c
          · exact (ih n).cons c

/-- Any location leads to a boundary, be it one in the text or not. -/
theorem isBoundary_byteOffset (cs : List Char) (l : Location) :
    IsBoundary cs (byteOffset cs l) := by
  induction cs generalizing l with
  | nil => exact .start []
  | cons c cs ih =>
      rw [byteOffset]
      split
      · exact isBoundary_lineOffset _ _
      · exact (ih _).cons c

theorem isBoundary_textOffset (text : List Char) (l : Location) :
    IsBoundary text (textOffset text l) := by
  have boundary := (isBoundary_byteOffset (statementStart.toList ++ text) l).behind
  rw [textOffset, Nat.min_eq_left boundary.le]
  exact boundary

/-! ## Searches -/

theorem StopsAt.isBoundary {test : PlaceTest} {text : List Char} {n : Nat}
    (h : StopsAt test text n) : IsBoundary text n := by
  obtain ⟨front, back, rfl, rfl, -⟩ := h
  exact .behindFront front back

theorem isBoundary_firstOccurrence_getD (part text : List Char) :
    IsBoundary text ((firstOccurrence part text).getD 0) := by
  have found := firstOccurrence_spec part text
  cases position : firstOccurrence part text with
  | none => exact .start text
  | some n =>
      rw [position] at found
      obtain ⟨front, ⟨⟨back, rfl, -⟩, -⟩, rfl⟩ := found
      exact .behindFront front back

/-- What is found in a text in capital letters starts and ends between two characters of the text
itself. -/
theorem isBoundary_of_mem_occurrences {part text : List Char} {start : Nat}
    (mem : start ∈ occurrences part 0 0 (text.map Char.toUpper)) :
    IsBoundary text start ∧ IsBoundary text (start + byteLength part) := by
  obtain ⟨front, back, split, rfl, rest, rfl⟩ := exists_of_mem_occurrences mem
  obtain ⟨front, behind, rfl, rfl, here⟩ := List.map_eq_append_iff.1 split
  obtain ⟨word, rest, rfl, rfl, -⟩ := List.map_eq_append_iff.1 here
  rw [Nat.zero_add, byteLength_map_toUpper, byteLength_map_toUpper, ← byteLength_append]
  refine ⟨.behindFront front _, ?_⟩
  rw [← List.append_assoc]
  exact .behindFront (front ++ word) rest

theorem isBoundary_keywordPosition (keys : List String) (text : List Char) :
    IsBoundary text (keywordPosition keys text) := by
  unfold keywordPosition
  dsimp only
  cases least : (keys.filterMap fun key =>
      wordOffset? (text.map Char.toUpper) key.toList).min? with
  | none => exact .whole text
  | some n =>
      obtain ⟨key, -, search⟩ := List.mem_filterMap.1 (List.min?_mem least)
      exact (isBoundary_of_mem_occurrences (List.mem_of_find?_eq_some search)).1

/-! ## Expressions and failures -/

theorem Expr.isBoundary_position (text : List Char) (e : Expr) :
    IsBoundary text (e.position text) := by
  rw [Expr.position]
  split
  · exact isBoundary_textOffset text _
  · exact isBoundary_firstOccurrence_getD _ text

theorem isBoundary_operatorPosition (text : List Char) (left : Expr) :
    IsBoundary text (operatorPosition text left) := by
  rw [operatorPosition]
  split
  · next extent _ =>
      obtain ⟨front, back, split, after⟩ := isBoundary_textOffset text extent.last
      simp only [after]
      rw [split, dropBytes_append, ← byteLength_append]
      refine ⟨_, back.dropWhile Unicode.isBlank, ?_, rfl⟩
      rw [List.append_assoc, List.takeWhile_append_dropWhile]
  · exact left.isBoundary_position text

/-- The text is not cut inside a character when an operator is searched for. -/
theorem operatorPosition?_eq (text : List Char) (left : Expr) :
    operatorPosition? text left = some (operatorPosition text left) := by
  rw [operatorPosition?, operatorPosition]
  cases left.span with
  | none => rfl
  | some extent =>
      simp only [(isBoundary_textOffset text extent.last).dropBytes?_eq, Option.map_some]

theorem isBoundary_of_failure {text : List Char} {f : Failure} {position : Nat} {what : String}
    (h : f.toQueryError text = .syntaxError position what) : IsBoundary text position := by
  cases f with
  | tooDeep =>
      cases h
      exact .start text
  | expected said place =>
      cases h
      cases place with
      | none => exact .whole text
      | some l => exact isBoundary_textOffset text l

end ConditionText

open ConditionText QueryText

/-- The positions that are reported for faults are boundaries, whatever spans expressions have. -/
theorem Demand.isBoundary_position (text : List Char) (d : Demand) (e : Expr) :
    IsBoundary text (d.position text e) := by
  unfold Demand.position
  split
  · exact isBoundary_operatorPosition text _
  · exact e.isBoundary_position text

namespace QueryText

variable {p : Persister} {text : String} {outcome : Except Failure (Statement × Nat)} {bare : Bool}
  {position : Nat} {what : String} {e : QueryError}

/-! ## Whatever reading gives -/

/-- The statement of a text, if reading the text gives some outcome. -/
def statementFrom (text : List Char) : Except Failure (Statement × Nat) → QueryResult Statement
  | .error f => .error (f.toQueryError text)
  | .ok (s, further) =>
    if further ≠ 0 then
      refusal ((firstOccurrence [';'] text).getD (byteLength text)) "end of input"
    else if s.combined then refusal 0 "a condition"
    else if s.select.grouped then
      refusal (keywordPosition groupingKeywords text) "end of condition"
    else if s.select.further || s.tail.further then
      refusal (keywordPosition foreignKeywords text) "end of condition"
    else .ok s

/-- The condition of a bare text, if reading the text gives some outcome. -/
def conditionFrom (p : Persister) (text : String) (outcome : Except Failure (Statement × Nat)) :
    Lookup Condition :=
  let cs := text.toList
  if Unicode.allBlank text then pure .always
  else do
    let s ← Lookup.ofResult (statementFrom cs outcome)
    if s.tail.order.isSome || s.tail.limit.isSome || s.tail.offset.isSome then
      Lookup.ofResult (refusal (keywordPosition pagingKeywords cs) "end of condition")
    else narrow p cs s.condition

/-- The query of a text, if reading the text gives some outcome. -/
def queryFrom (p : Persister) (text : String) (outcome : Except Failure (Statement × Nat)) :
    Lookup Query :=
  let cs := text.toList
  if Unicode.allBlank text then pure (.ofParts .always [] none none)
  else do
    let s ← Lookup.ofResult (statementFrom cs outcome)
    narrowQuery p cs s

/-- A text may be refused with an error, as a bare condition or as a query, if reading the text
gives some outcome. -/
def RefusedFrom (outcome : Except Failure (Statement × Nat)) (bare : Bool) (p : Persister)
    (text : String) (e : QueryError) : Prop :=
  if bare then (conditionFrom p text outcome).Answers (.error e)
  else (queryFrom p text outcome).Answers (.error e)

theorem statementFrom_read (text : String) :
    statementFrom text.toList (read text) = statement text.toList := by
  rw [statement, String.ofList_toList]
  cases read text <;> rfl

theorem refusedFrom_read : RefusedFrom (read text) bare p text e ↔ RefusedAs bare p text e := by
  rw [RefusedFrom, RefusedAs, conditionFrom, queryFrom, statementFrom_read]
  rfl

theorem isBoundary_of_statementFrom
    (h : statementFrom text.toList outcome = .error (.syntaxError position what)) :
    IsBoundary text.toList position := by
  unfold statementFrom at h
  split at h
  · next f => exact isBoundary_of_failure (Except.error.inj h)
  · next s further =>
      split at h
      · cases h
        exact (stopsAt_firstOccurrence _ _).isBoundary
      split at h
      · cases h
        exact .start _
      split at h
      · cases h
        exact isBoundary_keywordPosition _ _
      split at h
      · cases h
        exact isBoundary_keywordPosition _ _
      · cases h

theorem Faulty.isBoundary {cs : List Char} {asks : Demand → Expr → Prop}
    (h : Faulty cs asks position what) : IsBoundary cs position := by
  obtain ⟨d, e, -, -, -, rfl⟩ := h
  exact d.isBoundary_position cs e

theorem RefusedFrom.isBoundary
    (refused : RefusedFrom outcome bare p text (.syntaxError position what)) :
    IsBoundary text.toList position := by
  rw [RefusedFrom, conditionFrom, queryFrom] at refused
  by_cases blank : Unicode.allBlank text
  · simp only [if_pos blank] at refused
    cases bare <;>
      · obtain ⟨memo, after, done⟩ := refused
        cases done
  · simp only [if_neg blank] at refused
    cases bare with
    | true =>
        obtain first | ⟨s, -, refused⟩ := Lookup.Answers.bind_error refused
        · exact isBoundary_of_statementFrom first.of_ofResult
        split at refused
        · cases refused.of_ofResult
          exact isBoundary_keywordPosition _ _
        · exact (faulty_narrow refused).isBoundary
    | false =>
        obtain first | ⟨s, -, refused⟩ := Lookup.Answers.bind_error refused
        · exact isBoundary_of_statementFrom first.of_ofResult
        · exact (faulty_narrowQuery refused).isBoundary

/-- Every position that a text is refused with is valid in the text: it is within the text, between
two characters. It is so whatever failure reading the text gave, or whatever statement with whatever
spans; and behind any expression the text is cut at such a position, too, when an operator is
searched for. -/
theorem position_isValid (refused : RefusedAs bare p text (.syntaxError position what) ∨
      ∃ outcome, RefusedFrom outcome bare p text (.syntaxError position what)) :
    position ≤ text.utf8ByteSize ∧ (⟨position⟩ : String.Pos.Raw).IsValid text ∧
      ∀ left, operatorPosition? text.toList left = some (operatorPosition text.toList left) := by
  obtain ⟨outcome, refused⟩ : ∃ outcome,
      RefusedFrom outcome bare p text (.syntaxError position what) :=
    refused.elim (fun actual => ⟨read text, refusedFrom_read.2 actual⟩) id
  have valid := refused.isBoundary.isValid
  exact ⟨valid.le_utf8ByteSize, valid, operatorPosition?_eq text.toList⟩

/-- The plus sign stands in the second line, behind a name with a character of two bytes. -/
theorem position_of_sum :
    let text := "größe\n + 1"
    RefusedAs true files text (.syntaxError 9 "a comparison") ∧ 9 ≤ text.utf8ByteSize ∧
      (⟨9⟩ : String.Pos.Raw).IsValid text ∧
      ∀ left, operatorPosition? text.toList left = some (operatorPosition text.toList left) := by
  intro text
  have refused : RefusedAs true files text (.syntaxError 9 "a comparison") := by
    have outcome : ((condition files text).perform {}).1.map Condition.display =
        .error (.syntaxError 9 "a comparison") := by decide +kernel
    exact refusedAs_of_perform outcome
  exact ⟨refused, position_isValid (.inl refused)⟩

end QueryText

end EntityQuery
