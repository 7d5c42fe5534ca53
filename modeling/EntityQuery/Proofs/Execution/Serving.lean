import EntityQuery.Backend
import EntityQuery.Sql.Printer
import EntityQuery.Proofs.Numeral
import EntityQuery.Proofs.Reading.Written

/-!
# Backends that serve pages

A backend serves a statement from a list of rows if it answers every page of the statement with this
page of the rows, whatever way it finds out which page is asked for. A page is written at the end
of a statement and can be read back from there, so every statement can be served from every list.
-/

namespace EntityQuery

/-- The rows of a page: the offset leaves out rows in front, and the limit keeps some of the
others. -/
def pageOf {α : Type} (limit offset : Option Nat) (rows : List α) : List α :=
  let rest := rows.drop (offset.getD 0)
  match limit with
  | some n => rest.take n
  | none => rest

/-- Every page of a statement is answered from the same rows. -/
structure Backend.Serves (b : Backend) (s : Sql.Select) (rows : List Row) : Prop where
  all : ∀ limit offset, b.all (s.paginated limit offset).text = .ok (pageOf limit offset rows)
  one : ∀ limit offset,
    b.one (s.paginated limit offset).text = exactlyOne (pageOf limit offset rows)

namespace Sql

/-! ## The text of a page -/

/-- The text of a number behind its keyword, where there is one. -/
def countText (keyword : String) (n : Option Nat) : String :=
  match n with
  | some n => " " ++ (keyword ++ " " ++ toString n)
  | none => ""

/-- What the page adds to the text of a statement. -/
def pageText (limit offset : Option Nat) : String :=
  countText "LIMIT" limit ++ countText "OFFSET" offset

theorem foldl_clause (front keyword : String) (n : Option Nat) :
    (clause keyword (n.map toString)).foldl (fun s t => s ++ " " ++ t) front =
      front ++ countText keyword n := by
  cases n with
  | none => simp [clause, countText]
  | some n => simp [clause, countText, String.append_assoc]

theorem assemble_page (distinct : Bool) (projections : List Projection) (source : Option String)
    (filter : Option Expr) (order : List OrderTerm) (limit offset : Option Nat) :
    assemble distinct projections source filter order limit offset =
      assemble distinct projections source filter order none none ++ pageText limit offset := by
  simp only [assemble, List.append_assoc, List.cons_append, List.nil_append,
    ConditionText.intercalate_cons_eq_foldl, List.foldl_append, foldl_clause]
  simp only [countText, pageText, String.append_assoc, String.append_empty]

theorem Select.text_paginated (s : Select) (limit offset : Option Nat) :
    (s.paginated limit offset).text =
      (s.paginated none none).text ++ pageText limit offset := by
  obtain ⟨distinct, projections, source, filter, order, _, _⟩ := s
  cases source <;>
    simp only [Select.paginated, Select.text] <;>
    exact assemble_page ..

/-! ## Reading a page back -/

/-- The number behind a keyword and the rest, if the keyword is next. -/
def readCount (keyword cs : List Char) : Option Nat × List Char :=
  if keyword.isPrefixOf cs then
    let rest := cs.drop keyword.length
    (Numeral.nat? (rest.takeWhile Char.isDigit), rest.dropWhile Char.isDigit)
  else (none, cs)

/-- The page that stands at the end of a statement. -/
def readPage (cs : List Char) : Option Nat × Option Nat :=
  let (limit, rest) := readCount " LIMIT ".toList cs
  (limit, (readCount " OFFSET ".toList rest).1)

theorem readCount_of_not_prefix {keyword cs : List Char} (other : keyword.isPrefixOf cs = false) :
    readCount keyword cs = (none, cs) := by
  simp [readCount, other]

theorem readCount_append (keyword : List Char) (n : Nat) {rest : List Char}
    (stop : ∀ c, rest.head? = some c → c.isDigit = false) :
    readCount keyword (keyword ++ (Nat.toDigits 10 n ++ rest)) = (some n, rest) := by
  have digits : ∀ c ∈ Nat.toDigits 10 n, c.isDigit = true :=
    List.all_eq_true.mp (Numeral.toDigits_all_isDigit n)
  have next : keyword.isPrefixOf (keyword ++ (Nat.toDigits 10 n ++ rest)) = true := by
    simp [List.isPrefixOf_iff_prefix]
  have ended : rest.takeWhile Char.isDigit = [] ∧ rest.dropWhile Char.isDigit = rest := by
    cases rest with
    | nil => exact ⟨rfl, rfl⟩
    | cons c rest => simp [stop c rfl]
  rw [readCount, if_pos next, List.drop_left]
  simp [List.takeWhile_append_of_pos digits, List.dropWhile_append_of_pos digits, ended]

theorem toList_countText_some (keyword : String) (n : Nat) :
    (countText keyword (some n)).toList =
      (" " ++ keyword ++ " ").toList ++ Nat.toDigits 10 n := by
  simp [countText]

/-- What is written as the page of a statement is read back. -/
theorem readPage_pageText (limit offset : Option Nat) :
    readPage (pageText limit offset).toList = (limit, offset) := by
  have behind (rest : Option Nat) (c : Char)
      (first : (countText "OFFSET" rest).toList.head? = some c) : c.isDigit = false := by
    cases rest with
    | none => cases first
    | some n => simp [countText] at first; subst first; rfl
  have back (rest : Option Nat) :
      (readCount " OFFSET ".toList (countText "OFFSET" rest).toList).1 = rest := by
    cases rest with
    | none => rfl
    | some n =>
        have read : readCount " OFFSET ".toList (" OFFSET ".toList ++ (Nat.toDigits 10 n ++ [])) =
            (some n, []) := readCount_append _ n (by simp)
        rw [toList_countText_some, ← List.append_nil (Nat.toDigits 10 n)]
        exact congrArg Prod.fst read
  cases limit with
  | none =>
      have other : " LIMIT ".toList.isPrefixOf (countText "OFFSET" offset).toList = false := by
        cases offset <;> simp [countText, List.isPrefixOf]
      have empty : countText "LIMIT" none = "" := rfl
      simp only [readPage, pageText, empty, String.empty_append, readCount_of_not_prefix other, back]
  | some n =>
      have read := readCount_append " LIMIT ".toList n (behind offset)
      have same : (pageText (some n) offset).toList =
          " LIMIT ".toList ++ (Nat.toDigits 10 n ++ (countText "OFFSET" offset).toList) := by
        rw [pageText, String.toList_append, toList_countText_some, List.append_assoc]
        rfl
      simp only [readPage, same, read, back]

end Sql

/-! ## A backend for every list -/

namespace Backend

/-- The rows of the page that stands behind a statement. -/
def answer (s : Sql.Select) (rows : List Row) (sql : String) : List Row :=
  let front := (s.paginated none none).text
  let (limit, offset) := Sql.readPage (sql.toList.drop front.toList.length)
  pageOf limit offset rows

/-- The backend that serves a statement from some rows, and counts them. -/
def serving (s : Sql.Select) (rows : List Row) : Backend where
  all sql := .ok (answer s rows sql)
  one sql := exactlyOne (answer s rows sql)
  scalar _ _ := .ok (.ofNat rows.length)

theorem answer_paginated (s : Sql.Select) (rows : List Row) (limit offset : Option Nat) :
    answer s rows (s.paginated limit offset).text = pageOf limit offset rows := by
  have read := Sql.readPage_pageText limit offset
  rw [answer, Sql.Select.text_paginated s limit offset, String.toList_append, List.drop_left, read]

theorem serves_serving (s : Sql.Select) (rows : List Row) : (serving s rows).Serves s rows where
  all limit offset := congrArg Except.ok (answer_paginated s rows limit offset)
  one limit offset := congrArg exactlyOne (answer_paginated s rows limit offset)

end Backend

end EntityQuery
