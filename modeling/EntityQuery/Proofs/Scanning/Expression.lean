import EntityQuery.Proofs.Provenance.Statement
import EntityQuery.Proofs.Reading.Literal
import EntityQuery.Proofs.Scanning.Scanned

/-!
# The tokens of expressions

What the scanner makes of the expressions that filters consist of. The tokens follow the structure
of the expression, so a literal that is a text is one token wherever it stands, and nothing else is
one.
-/

namespace EntityQuery

open Scanner

namespace Sql

/-! ## Tokens -/

/-- A token behind a minus sign, if there is one. -/
def signed (negative : Bool) (t : Token) : List Token :=
  if negative then [.symbol "-", t] else [t]

/-- The tokens of a literal. -/
def Literal.tokens : Literal → List Token
  | .null => [.name "NULL"]
  | .boolean b => [.name (if b then "TRUE" else "FALSE")]
  | .integer i => signed (i.toInt < 0) (.number (toString i.toInt.natAbs))
  | .float d =>
    match d.form with
    | .nan => [.name "NaN"]
    | .infinite negative => signed negative (.name "inf")
    | .finite negative mantissa scale =>
      let digits := if mantissa = 0 then ['0'] else (Double.shortest mantissa scale).positional
      signed negative (.number (String.ofList digits))
  | .string s => [.text s]

/-- The tokens of an operator. -/
def BinaryOperator.tokens : BinaryOperator → List Token
  | .and => [.name "AND"]
  | .or => [.name "OR"]
  | .like => [.name "LIKE"]
  | .notLike => [.name "NOT", .name "LIKE"]
  | .eq => [.symbol "="]
  | .notEq => [.symbol "<>"]
  | .lt => [.symbol "<"]
  | .ltEq => [.symbol "<="]
  | .gt => [.symbol ">"]
  | .gtEq => [.symbol ">="]

mutual

/-- The tokens of an expression; those of a piece of SQL are not known. -/
@[simp] def Expr.tokens : Expr → List Token
  | .column none name => [.name name]
  | .column (some table) name => [.name table, .symbol ".", .name name]
  | .literal l => l.tokens
  | .binary left op right => left.tokens ++ (op.tokens ++ right.tokens)
  | .aggregate name arguments distinct =>
    .name name :: .symbol "(" :: (if distinct then [.name "DISTINCT"] else []) ++
      separated (Expr.tokenLists arguments) ++ [.symbol ")"]
  | .inList operand items negated =>
    operand.tokens ++ ((if negated then [.name "NOT", .name "IN"] else [.name "IN"]) ++
      (.symbol "(" :: (separated (Expr.tokenLists items) ++ [.symbol ")"])))
  | .isNull operand negated =>
    operand.tokens ++
      if negated then [.name "IS", .name "NOT", .name "NULL"] else [.name "IS", .name "NULL"]
  | .wildcard => [.symbol "*"]
  | .nested inner => .symbol "(" :: (inner.tokens ++ [.symbol ")"])
  | .raw _ => []

/-- The tokens of expressions. -/
@[simp] def Expr.tokenLists : List Expr → List (List Token)
  | [] => []
  | e :: rest => e.tokens :: Expr.tokenLists rest

end

/-- Whether a part that is written as it is is a column whose names need no quotes. -/
def Verbatim.isPlain : Verbatim → Bool
  | .column table name => table.all (isName ·.toList) && isName name.toList
  | .function _ | .fragment _ => false

/-! ## Literals -/

section

variable {after : List Char}

theorem scanned_signed (negative : Bool) {body : List Char} {t : Token}
    (unsigned : ∀ c ∈ (body ++ after).head?, operatorChars.contains c = false)
    (scanned : Scanned body [t] after) :
    Scanned ((if negative then ['-'] else []) ++ body) (signed negative t) after := by
  cases negative with
  | false => exact scanned
  | true => exact (scanned_single (by decide) unsigned).append scanned

theorem scanned_signed_number (negative : Bool) {digits : List Char}
    (plain : ConditionText.IsPlainNumber digits) (ends : Ends after) :
    Scanned ((if negative then ['-'] else []) ++ digits)
      (signed negative (.number (String.ofList digits))) after := by
  refine scanned_signed negative ?_ (scanned_number plain ends.breaks)
  obtain ⟨c, more, rfl, digit⟩ := plain.exists_cons
  rintro _ ⟨⟩
  have plain : c ∉ operatorChars := ConditionText.not_mem_of_all digit (by decide)
  simpa using plain

theorem scanned_integer (i : Int64) (ends : Ends after) :
    Scanned (Literal.integer i).text.toList (Literal.integer i).tokens after := by
  have plain := ConditionText.isPlainNumber_toString i.toInt.natAbs
  have scanned := scanned_signed_number (i.toInt < 0) plain ends
  rw [String.ofList_toList] at scanned
  rw [Literal.text]
  obtain nonneg | neg := (Int.lt_or_le i.toInt 0).symm
  · have same : i.toInt.natAbs = i.toInt.toNat := by omega
    rw [Numeral.ofInt64_of_nonneg nonneg, ← same]
    simpa [Int.not_lt.2 nonneg, Literal.tokens] using scanned
  · rw [Numeral.ofInt64_of_neg neg]
    simpa [neg, Literal.tokens] using scanned

theorem scanned_float (d : Double) (ends : Ends after) :
    Scanned (Literal.float d).text.toList (Literal.float d).tokens after := by
  rw [Literal.text, Literal.tokens, Double.text]
  cases d.form with
  | nan => exact scanned_name (by decide) ends.endsName
  | infinite negative =>
      have word : Scanned "inf".toList [.name "inf"] after :=
        scanned_name (by decide) ends.endsName
      have scanned := scanned_signed negative (by rintro _ ⟨⟩; decide) word
      cases negative <;> exact scanned
  | finite negative mantissa scale =>
      dsimp only
      have plain : ConditionText.IsPlainNumber
          (if mantissa = 0 then ['0'] else (Double.shortest mantissa scale).positional) := by
        split
        · exact .of_digits (by simp) (by decide)
        · exact (Double.Decimal.positional_spec (Double.shortest_all_isDigit mantissa scale)).1
      have scanned := scanned_signed_number negative plain ends
      cases negative <;> simpa using scanned

theorem scanned_literal (l : Literal) (ends : Ends after) :
    Scanned l.text.toList l.tokens after := by
  cases l with
  | null => exact scanned_name (by decide) ends.endsName
  | boolean b => cases b <;> exact scanned_name (by decide) ends.endsName
  | string s => exact scanned_text s ends
  | integer i => exact scanned_integer i ends
  | float d => exact scanned_float d ends

/-! ## Expressions -/

theorem scanned_binaryOperator (op : BinaryOperator) (after : List Char) :
    Scanned op.text.toList op.tokens (' ' :: after) := by
  have word (word : String) (plain : isName word.toList) :
      Scanned word.toList [.name word] (' ' :: after) := scanned_name plain (endsName_blank after)
  cases op with
  | and => exact word "AND" (by decide)
  | or => exact word "OR" (by decide)
  | like => exact word "LIKE" (by decide)
  | notLike =>
      have first : Scanned "NOT".toList [.name "NOT"] (' ' :: ("LIKE".toList ++ ' ' :: after)) :=
        scanned_name (by decide) (endsName_blank _)
      exact first.append (.blank (word "LIKE" (by decide)))
  | _ => exact scanned_operator (by decide) after

/-- What stands behind an operand: a blank and an operator. -/
theorem ends_binaryOperator (op : BinaryOperator) (rest : List Char) :
    Ends (' ' :: (op.text.toList ++ rest)) := by
  cases op <;> exact .blank (by decide) (by decide) (by decide)

/-- A point and the name of a member. -/
theorem scanned_member {name : String} (plain : isName name.toList) (ends : EndsName after) :
    Scanned ('.' :: name.toList) [.symbol ".", .name name] after := by
  have noDigit : ∀ c ∈ (name.toList ++ after).head?, c.isDigit = false ∧ c ≠ '.' := by
    obtain ⟨c, rest, spelled, start⟩ := exists_cons_of_isName plain
    rw [spelled]
    rintro _ ⟨⟩
    refine ⟨?_, fun point => ?_⟩
    · by_contra digit
      rw [Bool.not_eq_false] at digit
      rw [startsName_eq_false_of_isDigit digit] at start
      cases start
    · rw [point] at start
      cases start
  exact Scanned.append (a := ['.']) (scanned_point noDigit) (scanned_name plain ends)

/-- A name with the name of a member behind a point. -/
theorem scanned_qualified {table name : String} (plain : isName table.toList)
    (member : isName name.toList) (ends : EndsName after) :
    Scanned (table.toList ++ '.' :: name.toList) [.name table, .symbol ".", .name name] after := by
  refine .append (scanned_name plain ?_) (scanned_member member ends)
  rintro _ ⟨⟩
  decide

/-- The mark for everything. -/
theorem scanned_everything (ends : Ends after) : Scanned ['*'] [.symbol "*"] after := by
  refine scanned_single (c := '*') (by decide) fun d first => ?_
  obtain rfl | rfl | rfl := ends.breaks d first <;> decide

/-- A word in front of a blank and further text. -/
theorem scanned_word {word : String} {cs : List Char} {ts : List Token}
    (plain : isName word.toList) (h : Scanned cs ts after) :
    Scanned (word.toList ++ ' ' :: cs) (.name word :: ts) after :=
  (scanned_name plain (endsName_blank _)).append h.blank

end

section

variable {left right operand inner : Expr} {items : List Expr}

theorem complete_binary (op : BinaryOperator) (first : Complete left.text left.tokens)
    (second : Complete right.text right.tokens) :
    Complete (Expr.binary left op right).text (Expr.binary left op right).tokens := by
  intro after ends
  have text : (Expr.binary left op right).text.toList =
      left.text.toList ++ (' ' :: (op.text.toList ++ (' ' :: right.text.toList))) := by
    simp [Expr.text]
  rw [text, Expr.tokens]
  refine .append (first _ ?_) (.blank (.append ?_ (.blank (second after ends))))
  · rw [List.cons_append, List.append_assoc]
    exact ends_binaryOperator op _
  · exact scanned_binaryOperator op _

theorem complete_inList (negated : Bool) (first : Complete operand.text operand.tokens)
    (each : List.Forall₂ Complete (Expr.texts items) (Expr.tokenLists items)) :
    Complete (Expr.inList operand items negated).text
      (Expr.inList operand items negated).tokens := by
  intro after ends
  let listed := '(' :: ((", ".intercalate (Expr.texts items)).toList ++ [')'])
  have inside : Scanned listed
      (.symbol "(" :: (separated (Expr.tokenLists items) ++ [.symbol ")"])) after :=
    .mark (by decide) (.append (Complete.separated each _ (.parenthesis after))
      (.mark (by decide) .nil))
  have text : (Expr.inList operand items negated).text.toList = operand.text.toList ++
      (' ' :: (if negated then "NOT".toList ++ ' ' :: ("IN".toList ++ ' ' :: listed)
        else "IN".toList ++ ' ' :: listed)) := by
    cases negated <;> simp [Expr.text, listed]
  rw [text, Expr.tokens]
  refine .append (first _ ?_) (.blank ?_)
  · cases negated <;> exact .blank (by decide) (by decide) (by decide)
  · cases negated with
    | false => exact scanned_word (by decide) inside
    | true => exact scanned_word (by decide) (scanned_word (by decide) inside)

theorem complete_isNull (negated : Bool) (first : Complete operand.text operand.tokens) :
    Complete (Expr.isNull operand negated).text (Expr.isNull operand negated).tokens := by
  intro after ends
  have null : Scanned "NULL".toList [.name "NULL"] after :=
    scanned_name (by decide) ends.endsName
  have text : (Expr.isNull operand negated).text.toList = operand.text.toList ++
      (' ' :: (if negated then "IS".toList ++ ' ' :: ("NOT".toList ++ ' ' :: "NULL".toList)
        else "IS".toList ++ ' ' :: "NULL".toList)) := by
    cases negated <;> simp [Expr.text]
  rw [text, Expr.tokens]
  refine .append (first _ ?_) (.blank ?_)
  · cases negated <;> exact .blank (by decide) (by decide) (by decide)
  · cases negated with
    | false => exact scanned_word (by decide) null
    | true => exact scanned_word (by decide) (scanned_word (by decide) null)

theorem complete_nested (inside : Complete inner.text inner.tokens) :
    Complete (Expr.nested inner).text (Expr.nested inner).tokens := by
  intro after ends
  have text : (Expr.nested inner).text.toList = '(' :: (inner.text.toList ++ [')']) := by
    simp [Expr.text]
  rw [text, Expr.tokens]
  exact .mark (by decide) (.append (inside _ (.parenthesis after)) (.mark (by decide) .nil))

end

theorem complete_column (table : Option String) (name : String)
    (plain : (Verbatim.column table name).isPlain) :
    Complete (Expr.column table name).text (Expr.column table name).tokens := by
  intro after ends
  rw [Verbatim.isPlain, Bool.and_eq_true] at plain
  cases table with
  | none =>
      rw [Expr.text, Expr.tokens]
      exact scanned_name plain.2 ends.endsName
  | some table =>
      have text : (Expr.column (some table) name).text.toList =
          table.toList ++ ('.' :: name.toList) := by
        simp [Expr.text]
      rw [text, Expr.tokens]
      exact scanned_qualified plain.1 plain.2 ends.endsName

mutual

/-- The tokens of an expression that writes plain columns only are its own ones, wherever something
follows that ends it. -/
theorem complete_expr : ∀ e : Expr, (∀ x ∈ e.verbatim, x.isPlain) → Complete e.text e.tokens
  | .column table name, plain => by
      rw [Expr.verbatim, List.forall_mem_singleton] at plain
      exact complete_column table name plain
  | .literal l, _ => by
      intro after ends
      rw [Expr.text, Expr.tokens]
      exact scanned_literal l ends
  | .wildcard, _ => by
      intro after ends
      rw [Expr.text, Expr.tokens]
      exact scanned_everything ends
  | .binary left op right, plain => by
      rw [Expr.verbatim, List.forall_mem_append] at plain
      exact complete_binary op (complete_expr left plain.1) (complete_expr right plain.2)
  | .inList operand items negated, plain => by
      rw [Expr.verbatim, List.forall_mem_append] at plain
      exact complete_inList negated (complete_expr operand plain.1) (complete_exprs items plain.2)
  | .isNull operand negated, plain => by
      rw [Expr.verbatim] at plain
      exact complete_isNull negated (complete_expr operand plain)
  | .nested inner, plain => by
      rw [Expr.verbatim] at plain
      exact complete_nested (complete_expr inner plain)
  -- Functions and pieces of SQL are no plain columns.
  | .aggregate name arguments _, plain => by
      rw [Expr.verbatim] at plain
      cases plain (.function name) List.mem_cons_self
  | .raw fragment, plain => by
      rw [Expr.verbatim] at plain
      cases plain (.fragment fragment) List.mem_cons_self

theorem complete_exprs : ∀ es : List Expr, (∀ x ∈ Expr.allVerbatim es, x.isPlain) →
    List.Forall₂ Complete (Expr.texts es) (Expr.tokenLists es)
  | [], _ => by
      rw [Expr.texts, Expr.tokenLists]
      exact .nil
  | e :: rest, plain => by
      rw [Expr.allVerbatim, List.forall_mem_append] at plain
      rw [Expr.texts, Expr.tokenLists]
      exact .cons (complete_expr e plain.1) (complete_exprs rest plain.2)

end

end Sql

end EntityQuery
