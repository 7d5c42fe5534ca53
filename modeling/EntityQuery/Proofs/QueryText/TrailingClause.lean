import EntityQuery.Proofs.QueryText.Fault
import EntityQuery.Proofs.Reading.ClauseStart
import EntityQuery.Proofs.Reading.Standing
import EntityQuery.Proofs.Reading.WordSearch

/-!
# Where refused clauses are reported

A text that can be read is refused for what stands behind its condition: for a further statement, or
for clauses that a condition or a query does not have. What is refused starts with a token of its
own, the separating semicolon or the keyword of the first clause. The reported position comes from a
search of the characters of the text, whatever these are part of: it is that of the token if and
only if the search finds something at the token and nothing in front of it.
-/

namespace EntityQuery.ConditionText

/-! ## Semicolons -/

/-- A piece that is no semicolon. -/
def NoSemicolon (piece : Except ContentFault Piece) : Prop :=
  ∀ n, piece ≠ .ok (some (.symbol ";"), n)

theorem noSemicolon_symbolPiece {text : String} (other : text ≠ ";") :
    NoSemicolon (symbolPiece text) := by
  intro n same
  cases same
  exact other rfl

theorem noSemicolon_operatorPiece {text : String} (other : text ≠ ";") (rest : List Char) :
    NoSemicolon (operatorPiece text rest) := by
  unfold operatorPiece
  split
  · exact noSemicolon_symbolPiece other
  · rintro _ ⟨⟩

theorem eq_of_symbolPiece_singleton {c : Char} {n : Nat}
    (h : symbolPiece (String.singleton c) = .ok (some (.symbol ";"), n)) : c = ';' := by
  by_contra other
  refine noSemicolon_symbolPiece (fun single => other ?_) n h
  simpa using congrArg String.toList single

theorem head?_of_operatorStart {cs : List Char} {n : Nat}
    (h : operatorStart cs = .ok (some (.symbol ";"), n)) : cs.head? = some ';' := by
  unfold operatorStart at h
  split at h
  all_goals first
    | exact absurd h (noSemicolon_symbolPiece (by decide) n)
    | exact absurd h (noSemicolon_operatorPiece (by decide) _ n)
    | skip
  · simp at h
  · split at h
    · exact absurd h (noSemicolon_symbolPiece (by decide) n)
    · exact absurd h (noSemicolon_operatorPiece (by decide) _ n)
  · split at h
    · exact congrArg some (eq_of_symbolPiece_singleton h)
    · cases h
  · cases h

theorem noSemicolon_quotationPiece (kind : Quotation) (lead : Nat)
    (contents : Option (List Char × Nat)) (message : String) (place : Nat) :
    NoSemicolon (quotationPiece kind lead contents message place) := by
  unfold quotationPiece
  split <;> rintro _ ⟨⟩

theorem noSemicolon_markedQuotation {cs : List Char} {piece : Except ContentFault Piece}
    (h : markedQuotation? cs = some piece) : NoSemicolon piece := by
  unfold markedQuotation? at h
  repeat' split at h
  all_goals cases h
  all_goals first | exact noSemicolon_quotationPiece _ _ _ _ _ | rintro _ ⟨⟩

theorem noSemicolon_dollarPiece (rest : List Char) : NoSemicolon (dollarPiece rest) := by
  unfold dollarPiece
  dsimp only
  repeat' split
  all_goals rintro _ ⟨⟩

theorem noSemicolon_numberPiece (cs : List Char) : NoSemicolon (numberPiece cs) := by
  unfold numberPiece
  dsimp only
  repeat' split
  all_goals first | exact noSemicolon_symbolPiece (by decide) | rintro _ ⟨⟩

theorem noSemicolon_quotedWordPiece (rest : List Char) : NoSemicolon (quotedWordPiece rest) := by
  unfold quotedWordPiece
  split <;> rintro _ ⟨⟩

/-- A semicolon is the first character of its token. -/
theorem head?_of_semicolon {cs : List Char} {n : Nat}
    (h : pieceAt cs = .ok (some (.symbol ";"), n)) : cs.head? = some ';' := by
  unfold pieceAt at h
  split at h
  · next piece marked => exact absurd h (noSemicolon_markedQuotation marked n)
  · split at h
    · cases h
    · cases h
    · split at h <;> cases h
    · exact absurd h (noSemicolon_quotationPiece _ _ _ _ _ n)
    · exact absurd h (noSemicolon_quotedWordPiece _ n)
    · exact absurd h (noSemicolon_dollarPiece _ n)
    · split at h
      · cases h
      · split at h
        · exact absurd h (noSemicolon_numberPiece _ n)
        · split at h
          · cases h
          · exact head?_of_operatorStart h

/-- The semicolon that a token is. -/
theorem Stands.occurs_semicolon {text front own back : List Char} {x : Lexeme}
    (stands : Stands text x front own back) (semicolon : x.token.isSymbol ";") :
    Occurs [';'] front (own ++ back) := by
  obtain ⟨n, piece, -⟩ := stands.piece
  obtain ⟨token, extent⟩ := x
  cases token with
  | symbol s =>
      obtain rfl : s = ";" := by simpa [Token.isSymbol] using semicolon
      obtain ⟨more, same⟩ := List.head?_eq_some_iff.1 (head?_of_semicolon piece)
      exact ⟨more, same.symm⟩
  | _ => cases semicolon

/-- A further statement stands behind a semicolon. -/
theorem Parse.head?_of_statementsWithin {inner : Level} {n count : Nat} {ls rest : List Lexeme}
    (read : statementsWithin inner n true ls = .ok (count, rest)) (more : count ≠ 0) :
    ∃ x ∈ ls.head?, x.token.isSymbol ";" := by
  cases n with
  | zero =>
      cases read
      exact absurd rfl more
  | succ n =>
      cases ls with
      | nil =>
          cases read
          exact absurd rfl more
      | cons x later =>
          refine ⟨x, rfl, ?_⟩
          by_contra other
          have alone : semicolons (x :: later) = .ok (false, x :: later) := by
            simp [semicolons, other]
          rw [statementsWithin, bind_of_ok alone, bind_of_ok (p := peek?) rfl] at read
          dsimp only [List.head?_cons, Option.map_some, Bool.not_true, Bool.or_self] at read
          split at read
          · contradiction
          · split at read
            · cases read
              exact more rfl
            · cases read

end EntityQuery.ConditionText

namespace EntityQuery.QueryText

open ConditionText

/-! ## What is refused -/

/-- What is refused behind a condition: a further statement, or clauses of a kind. -/
inductive Surplus where
  | statement
  | clauses (kind : ClauseKind)
  deriving DecidableEq

namespace Surplus

/-- The token that what is refused starts with, among the starts of clauses and the tokens behind
the first statement. -/
def start? (starts left : List Lexeme) : Surplus → Option Lexeme
  | statement => left.head?
  | clauses kind => starts.find? (Lexeme.opens kind)

/-- The token of a text that what is refused starts with. -/
def token? (text : List Char) (what : Surplus) : Option Lexeme := do
  let ls ← (lex textStart text).toOption
  let (starts, left) ← (Parse.clauseStarts ls).toOption
  what.start? starts left

/-- What is searched for in the text to tell where it is. -/
def searched : Surplus → PlaceTest
  | statement => Occurs [';']
  | clauses .grouping => KeywordFound groupingKeywords
  | clauses .paging => KeywordFound pagingKeywords
  | clauses .foreign => KeywordFound foreignKeywords

/-- The position that the search gives. -/
def position (text : List Char) : Surplus → Nat
  | statement => (firstOccurrence [';'] text).getD (byteLength text)
  | clauses .grouping => keywordPosition groupingKeywords text
  | clauses .paging => keywordPosition pagingKeywords text
  | clauses .foreign => keywordPosition foreignKeywords text

theorem stopsAt_position (text : List Char) (what : Surplus) :
    StopsAt what.searched text (what.position text) := by
  cases what with
  | statement => exact stopsAt_firstOccurrence _ text
  | clauses kind =>
      cases kind with
      | grouping => exact stopsAt_keywordPosition (by simp [groupingKeywords, isKeywordPart]) text
      | paging => exact stopsAt_keywordPosition (by simp [pagingKeywords, isKeywordPart]) text
      | foreign => exact stopsAt_keywordPosition (by simp [foreignKeywords, isKeywordPart]) text

/-- What is expected in its place. -/
def expected : Surplus → String
  | statement => "end of input"
  | clauses _ => "end of condition"

end Surplus

/-- What a text that can be read is refused for, as a bare condition or as a query. A combination of
queries is refused as a whole, whatever clauses it has. -/
def surplus? (bare : Bool) (s : Statement) (further : Nat) : Option Surplus :=
  if further ≠ 0 then some .statement
  else if s.combined then none
  else if s.has .grouping then some (.clauses .grouping)
  else if s.has .foreign then some (.clauses .foreign)
  else if bare && s.has .paging then some (.clauses .paging)
  else none

section

variable {text : String} {s : Statement} {further : Nat} {what : Surplus}

theorem surplus?_eq_some {bare : Bool} (surplus : surplus? bare s further = some what) :
    match what with
    | .statement => further ≠ 0
    | .clauses kind => s.has kind := by
  unfold surplus? at surplus
  repeat' split at surplus
  all_goals cases surplus
  all_goals simp_all

/-- What a query may not have is refused before anything is narrowed. -/
theorem statement_of_read (read : ConditionText.read text = .ok (s, further)) :
    statement text.toList = match surplus? false s further with
      | some what => refusal (what.position text.toList) what.expected
      | none => if s.combined then refusal 0 "a condition" else .ok s := by
  rw [statement, String.ofList_toList, read]
  by_cases another : further ≠ 0
  · simp [surplus?, another, Surplus.position, Surplus.expected]
  by_cases combined : s.combined
  · simp [surplus?, another, combined]
  by_cases grouped : s.select.grouped
  · simp [surplus?, another, combined, grouped, Surplus.position, Surplus.expected, Statement.has,
      SelectTail.has]
  by_cases others : s.select.further || s.tail.further
  · simp [surplus?, another, combined, grouped, others, Surplus.position, Surplus.expected,
      Statement.has, SelectTail.has, QueryTail.has]
  simp [surplus?, another, combined, grouped, others, Statement.has, SelectTail.has, QueryTail.has]

/-- What the statements of a text that can be read are read from. -/
theorem statements_of_read (read : ConditionText.read text = .ok (s, further)) :
    ∃ ls left rest, lex textStart text.toList = .ok ls ∧ Parse.statement ls = .ok (s, left) ∧
      Parse.statementsWithin (level nestingBudget) left.length true left = .ok (further, rest) := by
  unfold ConditionText.read at read
  obtain ⟨ls, lexed, whole⟩ := EntityQuery.bind_eq_ok.1 read
  obtain ⟨⟨⟨s', further'⟩, rest⟩, parsed, done⟩ := EntityQuery.bind_eq_ok.1 whole
  cases done
  obtain ⟨s', left, readFirst, behind⟩ := Parse.bind_eq_ok.1 parsed
  rw [Parse.bind_of_ok (Parse.get_apply left)] at behind
  obtain ⟨count, rest', readFurther, done⟩ := Parse.bind_eq_ok.1 behind
  cases done
  exact ⟨ls, left, _, lexed, readFirst, readFurther⟩

/-- What a query is refused for, a bare condition is refused for as well. The other way, only the
clauses that a query has are missing. -/
theorem surplus?_eq_some_iff {bare : Bool} :
    surplus? bare s further = some what ↔
      surplus? false s further = some what ∨
        surplus? false s further = none ∧ s.combined = false ∧ bare = true ∧
          what = .clauses .paging ∧ s.has .paging := by
  unfold surplus?
  by_cases another : further ≠ 0
  · simp [another]
  by_cases combined : s.combined
  · simp [another, combined]
  by_cases grouping : s.has .grouping
  · simp [another, combined, grouping]
  by_cases foreign : s.has .foreign
  · simp [another, combined, grouping, foreign]
  cases bare <;> simp [another, combined, grouping, foreign, and_comm, eq_comm (a := what)]

section

variable {bare : Bool} {p : Persister} {position : Nat} {expected : String}

/-- What stands behind a condition and is not allowed is refused, at the position that the search for
it gives. -/
theorem refusedAs_of_surplus (read : ConditionText.read text = .ok (s, further))
    (surplus : surplus? bare s further = some what) :
    RefusedAs bare p text (.syntaxError (what.position text.toList) what.expected) := by
  have written := written_of_read read
  rw [RefusedAs, condition_of_written written, query_of_written written, statement_of_read read]
  obtain early | ⟨late, single, rfl, rfl, paging⟩ := surplus?_eq_some_iff.1 surplus
  · rw [early]
    cases bare <;> exact ⟨{}, {}, rfl⟩
  · have clauses :
        (s.tail.order.isSome || s.tail.limit.isSome || s.tail.offset.isSome) = true := by
      simpa only [Statement.has, SelectTail.has, QueryTail.has, Bool.false_or] using paging
    refine ⟨{}, {}, ?_⟩
    rw [late, single]
    exact (Lookup.perform_bind ..).trans (congrArg (Lookup.perform · {}) (if_pos clauses))

/-- A text that can be read is refused for what is behind its condition if and only if there is
something that is not allowed, and the position is that of the search for it. -/
theorem refusedAs_iff_surplus (read : ConditionText.read text = .ok (s, further))
    (behind : expected = "end of input" ∨ expected = "end of condition") :
    RefusedAs bare p text (.syntaxError position expected) ↔
      ∃ what, surplus? bare s further = some what ∧ expected = what.expected ∧
        position = what.position text.toList := by
  constructor
  · intro refused
    have accepted := statement_of_read read
    obtain early | ⟨s', late, paging | fault⟩ := refused.syntax_cases (written_of_read read)
    · rw [accepted] at early
      split at early
      · next what surplus =>
          cases early
          exact ⟨what, surplus?_eq_some_iff.2 (.inl surplus), rfl, rfl⟩
      · split at early
        · cases early
          simp at behind
        · cases early
    · obtain ⟨rfl, paging, rfl, rfl⟩ := paging
      rw [accepted] at late
      split at late
      · cases late
      · next none =>
          split at late
          · cases late
          · next single =>
              cases late
              exact ⟨.clauses .paging, surplus?_eq_some_iff.2 (.inr ⟨none, by simpa using single,
                rfl, rfl, by simpa [Statement.has, SelectTail.has, QueryTail.has] using paging⟩),
                rfl, rfl⟩
    · obtain ⟨d, -, -, -, rfl, -⟩ := fault
      cases d <;> simp [Demand.expected] at behind
  · rintro ⟨what, surplus, rfl, rfl⟩
    exact refusedAs_of_surplus read surplus

end

/-- What is refused starts with a token of the text. -/
theorem token?_of_surplus {bare : Bool} (read : ConditionText.read text = .ok (s, further))
    (surplus : surplus? bare s further = some what) :
    ∃ ls x, lex textStart text.toList = .ok ls ∧ what.token? text.toList = some x ∧ x ∈ ls ∧
      (what = .statement → x.token.isSymbol ";") := by
  obtain ⟨ls, left, rest, lexed, readFirst, readFurther⟩ := statements_of_read read
  obtain ⟨starts, readStarts, sublist, suffix, told⟩ := Parse.clauseStarts_of_statement readFirst
  have token : what.token? text.toList = what.start? starts left := by
    rw [Surplus.token?, lexed]
    simp [Except.toOption, readStarts]
  have present := surplus?_eq_some surplus
  cases what with
  | statement =>
      obtain ⟨x, head, semicolon⟩ := Parse.head?_of_statementsWithin readFurther present
      exact ⟨ls, x, lexed, token.trans head, suffix.subset (List.mem_of_mem_head? head),
        fun _ => semicolon⟩
  | clauses kind =>
      have some : starts.any (Lexeme.opens kind) := (told kind).symm.trans present
      obtain ⟨x, found⟩ :=
        Option.isSome_iff_exists.1 (List.find?_isSome.2 (List.any_eq_true.1 some))
      exact ⟨ls, x, lexed, token.trans found,
        sublist.subset (List.mem_of_find?_eq_some found), fun same => nomatch same⟩

/-- The position of what is refused behind a condition: a text that can be read, but is refused for
what is behind its condition, has a further statement or clauses that are not allowed, and the
position is where the search for these stops. What is refused starts with a token, and the position
is that of this token if and only if the search succeeds at the token and at no place in front of
it. A semicolon is always found at the separating one, so only an earlier one leads astray. -/
theorem position_of_surplus {bare : Bool} {p : Persister} {position : Nat} {expected : String}
    (read : ConditionText.read text = .ok (s, further))
    (behind : expected = "end of input" ∨ expected = "end of condition")
    (refused : RefusedAs bare p text (.syntaxError position expected)) :
    ∃ what x front own back, surplus? bare s further = some what ∧ expected = what.expected ∧
      what.token? text.toList = some x ∧ Stands text.toList x front own back ∧
      StopsAt what.searched text.toList position ∧
      (position = byteLength front ↔ what.searched front (own ++ back) ∧
        FailsBefore what.searched text.toList front) ∧
      (what = .statement → what.searched front (own ++ back)) := by
  obtain ⟨what, surplus, rfl, rfl⟩ := (refusedAs_iff_surplus read behind).1 refused
  obtain ⟨ls, x, lexed, token, mem, semicolon⟩ := token?_of_surplus read surplus
  obtain ⟨front, own, back, stands, -⟩ := (laid_of_lex lexed).stands mem
  have stops := what.stopsAt_position text.toList
  refine ⟨what, x, front, own, back, surplus, rfl, token, stands, stops,
    stops.eq_iff stands.text_eq (List.append_ne_nil_of_left_ne_nil stands.nonempty back), ?_⟩
  rintro rfl
  exact stands.occurs_semicolon (semicolon rfl)

end

/-- An entity with a field that is named like the start of a clause. -/
def files : Persister where
  handle := 1
  catalog := ⟨[⟨"File", "files", none, ["id"], [⟨"format", none, .identity⟩]⟩]⟩
  entity := "File"
  casing := .lower

theorem position_of_grouping :
    let text := "format = 'HAVING' HAVING format > 1"
    ∃ s position what x front own back, ConditionText.read text = .ok (s, 0) ∧
      RefusedAs true files text (.syntaxError position "end of condition") ∧
      surplus? true s 0 = some what ∧ "end of condition" = what.expected ∧
      what.token? text.toList = some x ∧ Stands text.toList x front own back ∧
      StopsAt what.searched text.toList position ∧
      (position = byteLength front ↔ what.searched front (own ++ back) ∧
        FailsBefore what.searched text.toList front) := by
  intro text
  have told : (ConditionText.read text).toOption.map Prod.snd = some 0 := by decide +kernel
  have refused : RefusedAs true files text (.syntaxError 10 "end of condition") := by
    have outcome : ((condition files text).perform {}).1.map Condition.display =
        .error (.syntaxError 10 "end of condition") := by decide +kernel
    exact refusedAs_of_perform outcome
  cases read : ConditionText.read text with
  | error failure =>
      rw [read] at told
      cases told
  | ok r =>
      obtain ⟨s, n⟩ := r
      rw [read] at told
      obtain rfl : n = 0 := Option.some.inj told
      obtain ⟨what, x, front, own, back, surplus, said, token, stands, stops, right, -⟩ :=
        position_of_surplus read (.inr rfl) refused
      exact ⟨s, 10, what, x, front, own, back, rfl, refused, surplus, said, token, stands, stops,
        right⟩

/-- The lock starts behind eleven bytes and the second statement behind fourteen. Both are reported
somewhere else. -/
theorem position_of_lock :
    let locked := "format > 1 FOR UPDATE"
    let twice := "format = 'a;b'; SELECT 1"
    ((Surplus.clauses .foreign).token? locked.toList).map
        (fun x => (x.token, x.offset locked.toList)) = some (.bareWord "FOR", 11) ∧
      ((condition files locked).perform {}).1.map Condition.display =
        .error (.syntaxError 0 "end of condition") ∧
      (Surplus.statement.token? twice.toList).map
        (fun x => (x.token, x.offset twice.toList)) = some (.symbol ";", 14) ∧
      ((condition files twice).perform {}).1.map Condition.display =
        .error (.syntaxError 11 "end of input") := by
  decide +kernel

end EntityQuery.QueryText
