import EntityQuery.Proofs.Filter.Collecting
import EntityQuery.Proofs.Scanning.Statement
import EntityQuery.Proofs.Texts.Mapped

/-!
# Texts among tokens

An expression with other texts is split into the same tokens but for its text tokens, and the text
tokens of the expression of a condition are the texts that the condition compares with, from left to
right. A statement of whole rows has no text tokens but those of its filter.
-/

namespace EntityQuery

/-! ## Tokens -/

namespace Scanner

namespace Token

/-- The token with the contents changed, if it is a text. -/
def mapText (f : String → String) : Token → Token
  | text contents => text (f contents)
  | t => t

/-- The contents of a text. -/
def contents? : Token → Option String
  | text contents => some contents
  | _ => none

/-- The texts among some tokens. -/
def texts (ts : List Token) : List String := ts.filterMap contents?

/-- Two tokens that are the same or both texts. -/
def Alike (t t' : Token) : Prop := t = t' ∨ ∃ s s', t = text s ∧ t' = text s'

theorem alike_of_mapText {f : String → String} {t t' : Token} (h : t.mapText f = t'.mapText f) :
    Alike t t' := by
  cases t <;> cases t' <;>
    first
      | exact .inl h
      | exact .inr ⟨_, _, rfl, rfl⟩
      | cases h

/-- Tokens that are the same without the contents of texts. -/
theorem forall₂_alike {f : String → String} {ts ts' : List Token}
    (h : ts.map (mapText f) = ts'.map (mapText f)) : List.Forall₂ Alike ts ts' := by
  rw [← List.forall₂_eq_eq_eq, List.forall₂_map_left_iff, List.forall₂_map_right_iff] at h
  exact h.imp fun _ _ => alike_of_mapText

theorem texts_append (ts us : List Token) : texts (ts ++ us) = texts ts ++ texts us :=
  List.filterMap_append

end Token

theorem map_separated (f : Token → Token) (same : f (.symbol ",") = .symbol ",")
    (tss : List (List Token)) : (separated tss).map f = separated (tss.map (List.map f)) := by
  induction tss with
  | nil => rfl
  | cons ts rest ih =>
      cases rest with
      | nil => rfl
      | cons us rest =>
          rw [separated, List.map_append, List.map_cons, same, ih]
          rfl

theorem texts_separated (tss : List (List Token)) :
    Token.texts (separated tss) = tss.flatMap Token.texts := by
  induction tss with
  | nil => rfl
  | cons ts rest ih =>
      cases rest with
      | nil => rw [List.flatMap_singleton, separated]
      | cons us rest =>
          have comma : Token.texts (.symbol "," :: separated (us :: rest)) =
              Token.texts (separated (us :: rest)) := rfl
          rw [separated, Token.texts_append, comma, ih, ← List.flatMap_cons]

end Scanner

open Scanner (Token separated)

namespace Sql

variable (f : String → String)

theorem map_signed (negative : Bool) {t : Token} (same : t.mapText f = t) :
    (signed negative t).map (Token.mapText f) = signed negative t := by
  cases negative <;> simp [signed, same, show (Token.symbol "-").mapText f = .symbol "-" from rfl]

theorem texts_signed (negative : Bool) {t : Token} (noText : t.contents? = none) :
    Token.texts (signed negative t) = [] := by
  have single : Token.texts [t] = [] := by
    rw [Token.texts, List.filterMap_cons_none noText, List.filterMap_nil]
  cases negative <;> exact single

theorem Literal.tokens_mapText (l : Literal) :
    (l.mapText f).tokens = l.tokens.map (Token.mapText f) := by
  cases l with
  | null => rfl
  | boolean b => rfl
  | string s => rfl
  | integer i => exact (map_signed f _ rfl).symm
  | float d =>
      change (Literal.float d).tokens = _
      rw [tokens]
      cases d.form with
      | nan => rfl
      | infinite negative => exact (map_signed f _ rfl).symm
      | finite negative mantissa scale => exact (map_signed f _ rfl).symm

theorem BinaryOperator.map_tokens (op : BinaryOperator) :
    op.tokens.map (Token.mapText f) = op.tokens := by
  cases op <;> rfl

mutual

/-- Changing the texts of an expression changes its text tokens only. -/
theorem tokens_mapTexts : ∀ e : Expr, (e.mapTexts f).tokens = e.tokens.map (Token.mapText f)
  | .column none name => by rw [Expr.mapTexts, Expr.tokens]; rfl
  | .column (some table) name => by rw [Expr.mapTexts, Expr.tokens]; rfl
  | .literal l => by
      rw [Expr.mapTexts, Expr.tokens, Expr.tokens]
      exact l.tokens_mapText f
  | .binary left op right => by
      rw [Expr.mapTexts, Expr.tokens, Expr.tokens, tokens_mapTexts left, tokens_mapTexts right,
        List.map_append, List.map_append, op.map_tokens]
  | .aggregate name arguments distinct => by
      rw [Expr.mapTexts, Expr.tokens, Expr.tokens, tokenLists_mapAllTexts arguments]
      cases distinct <;> simp [Scanner.map_separated (Token.mapText f) rfl, Token.mapText]
  | .inList operand items negated => by
      rw [Expr.mapTexts, Expr.tokens, Expr.tokens, tokens_mapTexts operand,
        tokenLists_mapAllTexts items]
      cases negated <;> simp [Scanner.map_separated (Token.mapText f) rfl, Token.mapText]
  | .isNull operand negated => by
      rw [Expr.mapTexts, Expr.tokens, Expr.tokens, tokens_mapTexts operand]
      cases negated <;> simp [Token.mapText]
  | .wildcard => by rw [Expr.mapTexts, Expr.tokens]; rfl
  | .nested inner => by
      rw [Expr.mapTexts, Expr.tokens, Expr.tokens, tokens_mapTexts inner]
      simp [Token.mapText]
  | .raw _ => by rw [Expr.mapTexts, Expr.tokens]; rfl

theorem tokenLists_mapAllTexts : ∀ es : List Expr,
    Expr.tokenLists (Expr.mapAllTexts f es) = (Expr.tokenLists es).map (List.map (Token.mapText f))
  | [] => by rw [Expr.mapAllTexts, Expr.tokenLists, List.map_nil]
  | e :: rest => by
      rw [Expr.mapAllTexts, Expr.tokenLists, Expr.tokenLists, tokens_mapTexts e,
        tokenLists_mapAllTexts rest, List.map_cons]

end

/-- The texts of the literals of an expression, from left to right. -/
def Expr.contents (e : Expr) : List String := Token.texts e.tokens

namespace Expr

theorem contents_literal (l : Literal) : contents (.literal l) = Token.texts l.tokens := by
  rw [contents, tokens]

theorem contents_rootColumn (column : String) : contents (rootColumn column) = [] := by
  rw [rootColumn, contents, tokens]
  rfl

theorem contents_binary (left right : Expr) (op : BinaryOperator) :
    contents (.binary left op right) = left.contents ++ right.contents := by
  have none : Token.texts op.tokens = [] := by
    cases op <;> rfl
  rw [contents, tokens, Token.texts_append, Token.texts_append, none, List.nil_append]
  rfl

theorem contents_nested (inner : Expr) : contents (.nested inner) = inner.contents := by
  have whole : (Expr.nested inner).tokens = [.symbol "("] ++ (inner.tokens ++ [.symbol ")"]) := by
    rw [tokens]
    rfl
  rw [contents, whole, Token.texts_append, Token.texts_append]
  exact List.append_nil _

theorem contents_isNull (operand : Expr) (negated : Bool) :
    contents (.isNull operand negated) = operand.contents := by
  rw [contents, tokens, Token.texts_append]
  cases negated <;> exact List.append_nil _

theorem contents_inList (operand : Expr) (items : List Expr) (negated : Bool) :
    contents (.inList operand items negated) = operand.contents ++ items.flatMap contents := by
  have listed : Expr.tokenLists items = items.map tokens := by
    induction items with
    | nil => rw [tokenLists, List.map_nil]
    | cons e rest ih => rw [tokenLists, ih, List.map_cons]
  have inside : Token.texts (.symbol "(" :: (separated (items.map tokens) ++ [.symbol ")"])) =
      items.flatMap contents := by
    change Token.texts (separated (items.map tokens) ++ [.symbol ")"]) = _
    rw [Token.texts_append, Scanner.texts_separated, List.flatMap_map]
    exact List.append_nil _
  rw [contents, tokens, listed, Token.texts_append, Token.texts_append, inside]
  cases negated <;> rfl

end Expr

end Sql

/-! ## Filters -/

theorem Lowering.contents_of_literal? {v : Value} {l : Sql.Literal} (h : literal? v = some l) :
    Sql.Expr.contents (.literal l) = v.texts := by
  rw [Sql.Expr.contents_literal]
  cases v with
  | null | bool b | text s =>
      cases h
      rw [Value.texts]
      rfl
  | integer i =>
      cases h
      rw [Value.texts, Sql.Literal.tokens, Sql.texts_signed _ rfl]
  | float d =>
      cases h
      rw [Value.texts, Sql.Literal.tokens]
      cases d.form with
      | nan => rfl
      | infinite negative => exact Sql.texts_signed negative rfl
      | finite negative mantissa scale => exact Sql.texts_signed negative rfl
  | list items => cases h

/-- The texts in an expression are collected from the texts of values. -/
theorem Sql.Expr.contents_collects : Collects contents Value.texts where
  literal := Lowering.contents_of_literal?
  boolean b := contents_literal _
  null := by rw [Value.texts]
  list := Value.texts_list
  rootColumn := contents_rootColumn
  binary left op right := contents_binary left right op
  inList := contents_inList
  isNull := contents_isNull
  nested := contents_nested
  raw fragment := by
    rw [contents, tokens]
    rfl

/-- The texts of a filter are those of its condition. -/
theorem Lowering.contents_filter {c : Condition} {e? : Option Sql.Expr} (h : filter c = .ok e?) :
    e?.elim [] Sql.Expr.contents = c.texts :=
  Sql.Expr.contents_collects.filter h

/-! ## Statements -/

namespace Sql.Select

variable {t : TableName} {filter filter' : Option Expr} {keys : SortOrder}
  {limit offset : Option Nat}

theorem texts_front : Token.texts (frontTokens t).flatten = [] := by
  obtain ⟨schema, name⟩ := t
  cases schema <;> rfl

theorem texts_tail : Token.texts (tailTokens keys limit offset).flatten = [] := by
  have ordered : Token.texts (if keys.isEmpty then []
      else [.name "ORDER" :: .name "BY" :: separated (keys.map SortKey.tokens)]).flatten = [] := by
    split
    · rfl
    · change Token.texts (separated (keys.map SortKey.tokens) ++ []) = []
      rw [List.append_nil, Scanner.texts_separated, List.flatMap_map, List.flatMap_eq_nil_iff]
      exact fun k _ => rfl
  have paged (word : String) (page : Option Nat) : Token.texts
      (page.map fun n => [.name word, .number (toString n)]).toList.flatten = [] := by
    cases page <;> rfl
  rw [tailTokens, List.flatten_append, List.flatten_append, Token.texts_append,
    Token.texts_append, ordered, paged, paged]
  rfl

/-- The texts of a statement are those of its filter. -/
theorem texts_rowTokens :
    Token.texts (rowTokens t filter keys limit offset) = filter.elim [] Expr.contents := by
  have filtered : Token.texts (filterTokens filter).flatten = filter.elim [] Expr.contents := by
    cases filter with
    | none => rfl
    | some e =>
        change Token.texts (e.tokens ++ []) = Token.texts e.tokens
        rw [List.append_nil]
  rw [rowTokens, List.flatten_append, List.flatten_append, Token.texts_append,
    Token.texts_append, texts_front, texts_tail, filtered, List.nil_append, List.append_nil]

/-- Statements with filters that are the same but for texts have tokens that are. -/
theorem alike_rowTokens {f : String → String}
    (same : filter.map (Expr.mapTexts f) = filter'.map (Expr.mapTexts f)) :
    List.Forall₂ Token.Alike (rowTokens t filter keys limit offset)
      (rowTokens t filter' keys limit offset) := by
  have mapped (filter : Option Expr) : (filterTokens filter).flatten.map (Token.mapText f) =
      (filterTokens (filter.map (Expr.mapTexts f))).flatten := by
    cases filter with
    | none => rfl
    | some e =>
        change _ = .name "WHERE" :: (e.mapTexts f).tokens ++ []
        rw [tokens_mapTexts, List.append_nil]
        simp [filterTokens, Token.mapText]
  refine Token.forall₂_alike (f := f) ?_
  simp only [rowTokens, List.flatten_append, List.map_append, mapped, same]

end Sql.Select

end EntityQuery
