import EntityQuery.Double.Reader
import EntityQuery.ConditionText.Position
import EntityQuery.Query

/-!
# Query text

Query text is a condition with an optional order, limit and offset in the notation of SQL. The text
is read with the whole grammar first and narrowed down afterwards: to comparisons of a field with a
literal, connectives and parentheses. Everything else is refused with the position where it stands.
A blank text is the condition that always holds.
-/

namespace EntityQuery

namespace QueryText

open ConditionText

/-- The error of a text in which something else was expected at a position. -/
def refusal {α : Type} (position : Nat) (expected : String) : QueryResult α :=
  .error (.syntaxError position expected)

/-- The value of the digits of a number, with a sign in front. -/
def number? (digits : String) (negative : Bool) : Option Value :=
  let written := if negative then '-' :: digits.toList else digits.toList
  match Numeral.int64? written with
  | some i => some (.integer i)
  | none => (Double.ofText? written).map .float

/-- The value of a literal, possibly with a sign. -/
def value? : Expr → Option Value
  | .constant .null => some .null
  | .constant (.boolean b) => some (.bool b)
  | .constant (.number digits _) => number? digits false
  | .constant (.plainText s) => some (.text s)
  | .constant (.escapedText s) => some (.text s)
  | .signed .minus (.constant (.number digits _)) => number? digits true
  | .signed .plus (.constant (.number digits _)) => number? digits false
  | _ => none

/-- Whether a value is a float that is no number. -/
def isInfinite : Value → Bool
  | .float d => !d.isFinite
  | _ => false

/-- The value that an expression denotes as a literal. -/
def literal (text : List Char) (e : Expr) : QueryResult Value :=
  match value? e with
  | none => refusal (e.position text) "a literal"
  | some v => if isInfinite v then refusal (e.position text) "a finite number" else .ok v

/-- The field that an expression names, if it names one; a name in front of it is dropped. -/
def field? : Expr → Option String
  | .ident name => some name.value
  | .compound [_, name] => some name.value
  | .compound [name] => some name.value
  | _ => none

/-- The field that an expression has to name. -/
def field (text : List Char) (e : Expr) : QueryResult String :=
  match field? e with
  | some name => .ok name
  | none => refusal (e.position text) "a field reference"

/-- The natural number that an expression denotes, if it denotes one. -/
def natural? : Expr → Option Nat
  | .constant (.number digits _) => Numeral.natBelow? Numeral.wordBound digits.toList
  | _ => none

/-- The natural number that an expression has to denote. -/
def natural (text : List Char) (e : Expr) : QueryResult Nat :=
  match natural? e with
  | some n => .ok n
  | none => refusal (e.position text) "a non-negative integer"

/-- The comparison operator that an operator is, if it is one. -/
def comparisonOperator? : BinaryOp → Option Operator
  | .eq => some .eq
  | .notEq => some .notEq
  | .lt => some .lt
  | .ltEq => some .ltEq
  | .gt => some .gt
  | .gtEq => some .gtEq
  | _ => none

/-- The comparison of the field that an expression names with a value. -/
def comparison (p : Persister) (text : List Char) (target : Expr) (op : Operator) (value : Value) :
    Lookup Condition := do
  let name ← Lookup.ofResult (field text target)
  let mapping ← p.resolve name
  Lookup.ofResult (mapping.comparison name op value)

/-- The condition that an expression denotes. -/
def narrow (p : Persister) (text : List Char) : Expr → Lookup Condition
  | .binary left .and right => do
    let a ← narrow p text left
    let b ← narrow p text right
    pure (.conj [a, b])
  | .binary left .or right => do
    let a ← narrow p text left
    let b ← narrow p text right
    pure (.disj [a, b])
  | .nested inner => narrow p text inner
  | .binary left op right =>
    match comparisonOperator? op with
    | none => Lookup.ofResult (refusal (operatorPosition text left) "a comparison")
    | some op => do
      let value ← Lookup.ofResult (literal text right)
      comparison p text left op value
  | .like negated _ operand pattern _ => do
    let value ← Lookup.ofResult (literal text pattern)
    comparison p text operand (if negated then .notLike else .like) value
  | .inList operand items negated => do
    let values ← Lookup.ofResult (items.mapM (literal text))
    comparison p text operand (if negated then .notIn else .isIn) (.list values)
  | .isNull operand negated => comparison p text operand (if negated then .notEq else .eq) .null
  | e => Lookup.ofResult (refusal (e.position text) "a comparison")

theorem literal_eq_ok {text : List Char} {e : Expr} {v : Value} :
    literal text e = .ok v ↔ value? e = some v ∧ isInfinite v = false := by
  rw [literal]
  cases value? e with
  | none => simp [refusal]
  | some w =>
      cases infinite : isInfinite w <;> simp [refusal, infinite] <;>
        · rintro rfl
          exact infinite

theorem field_eq_ok {text : List Char} {e : Expr} {name : String} :
    field text e = .ok name ↔ field? e = some name := by
  rw [field]
  cases field? e <;> simp [refusal]

section

variable {p : Persister} {text : List Char} {left right : Expr} {op : BinaryOp}

theorem narrow_connective (p : Persister) (text : List Char) (left right : Expr)
    (connects : op = .and ∨ op = .or) : ∃ join : List Condition → Condition,
    narrow p text (.binary left op right) = (do
      let a ← narrow p text left
      let b ← narrow p text right
      pure (join [a, b])) := by
  obtain rfl | rfl := connects
  · exact ⟨.conj, by rw [narrow]⟩
  · exact ⟨.disj, by rw [narrow]⟩

theorem narrow_operator {operator : Operator} (known : comparisonOperator? op = some operator) :
    narrow p text (.binary left op right) = (do
      let value ← Lookup.ofResult (literal text right)
      comparison p text left operator value) := by
  rw [narrow, known]
  all_goals
    rintro rfl
    cases known

theorem narrow_noOperator (notAnd : op ≠ .and) (notOr : op ≠ .or)
    (unknown : comparisonOperator? op = none) :
    narrow p text (.binary left op right) =
      Lookup.ofResult (refusal (operatorPosition text left) "a comparison") := by
  rw [narrow, unknown]
  · exact notAnd
  · exact notOr

/-- What refusals and comparisons have, and connected conditions if both sides have it, is true of
whatever an expression is narrowed to. -/
theorem narrow_induction {P : Lookup Condition → Prop}
    (conj : ∀ a b, P a → P b → P (do pure (.conj [← a, ← b])))
    (disj : ∀ a b, P a → P b → P (do pure (.disj [← a, ← b])))
    (single : ∀ target op operand, P (do
      comparison p text target op (← Lookup.ofResult (literal text operand))))
    (several : ∀ target op (items : List Expr), P (do
      comparison p text target op (.list (← Lookup.ofResult (items.mapM (literal text))))))
    (missing : ∀ target op, P (comparison p text target op .null))
    (refused : ∀ position, P (Lookup.ofResult (refusal position "a comparison")))
    (e : Expr) : P (narrow p text e) := by
  induction e using narrow.induct with
  | case1 left right ihl ihr =>
      rw [narrow]
      exact conj _ _ ihl ihr
  | case2 left right ihl ihr =>
      rw [narrow]
      exact disj _ _ ihl ihr
  | case3 inner ih =>
      rw [narrow]
      exact ih
  | case4 left op right notAnd notOr unknown =>
      rw [narrow_noOperator notAnd notOr unknown]
      exact refused _
  | case5 left op right notAnd notOr operator known =>
      rw [narrow_operator known]
      exact single left operator right
  | case6 negated any target pattern escape =>
      rw [narrow]
      exact single target _ pattern
  | case7 target items negated =>
      rw [narrow]
      exact several target _ items
  | case8 target negated =>
      rw [narrow]
      exact missing target _
  | case9 e notAnd notOr notNested notBinary notLike notList notNull =>
      rw [narrow.eq_8 p text e notAnd notOr notNested notBinary notLike notList notNull]
      exact refused _

end

/-- The sort key that a term denotes. -/
def sortKey (p : Persister) (text : List Char) (term : OrderTerm) : Lookup SortKey := do
  let name ← Lookup.ofResult (field text term.key)
  let mapping ← p.resolve name
  pure ⟨mapping.column, if term.ascending = some false then .desc else .asc⟩

/-- The keywords of the clauses that group rows. -/
def groupingKeywords : List String := ["GROUP", "HAVING"]

/-- The keywords of the other clauses that no query has. -/
def foreignKeywords : List String :=
  ["FETCH", "FOR", "LIMIT", "SETTINGS", "FORMAT", "QUALIFY", "WINDOW", "CLUSTER", "DISTRIBUTE",
   "SORT", "CONNECT", "START"]

/-- The keywords of the clauses behind a bare condition. -/
def pagingKeywords : List String := ["ORDER", "LIMIT", "OFFSET"]

/-- The statement of a text, if it is a single selection without clauses that no query has. -/
def statement (text : List Char) : QueryResult Statement :=
  match read (String.ofList text) with
  | .error f => .error (f.toQueryError text)
  | .ok (s, further) =>
    if further ≠ 0 then
      refusal ((firstOccurrence [';'] text).getD (byteLength text)) "end of input"
    else if s.combined then refusal 0 "a condition"
    else if s.select.grouped then
      refusal (keywordPosition groupingKeywords text) "end of condition"
    else if s.select.further || s.tail.further then
      refusal (keywordPosition foreignKeywords text) "end of condition"
    else .ok s

/-- The condition of a text that is a bare condition. -/
def condition (p : Persister) (text : String) : Lookup Condition :=
  let cs := text.toList
  if Unicode.allBlank text then pure .always
  else do
    let s ← Lookup.ofResult (statement cs)
    if s.tail.order.isSome || s.tail.limit.isSome || s.tail.offset.isSome then
      Lookup.ofResult (refusal (keywordPosition pagingKeywords cs) "end of condition")
    else narrow p cs s.condition

/-- The query that a statement denotes. -/
def narrowQuery (p : Persister) (text : List Char) (s : Statement) : Lookup Query := do
  let condition ← narrow p text s.condition
  let order ← (s.tail.order.getD []).mapM (sortKey p text)
  let limit ← Lookup.ofResult (s.tail.limit.mapM (natural text))
  let offset ← Lookup.ofResult (s.tail.offset.mapM (natural text))
  pure (.ofParts condition order limit offset)

/-- The query of a text. -/
def query (p : Persister) (text : String) : Lookup Query :=
  let cs := text.toList
  if Unicode.allBlank text then pure (.ofParts .always [] none none)
  else do
    let s ← Lookup.ofResult (statement cs)
    narrowQuery p cs s

end QueryText

end EntityQuery
