import EntityQuery.Proofs.Memory.Operation

/-!
# How expressions are narrowed

What narrowing makes of an expression is told by a derivation: tests compare the field that their
operand names with a literal or a list of literals, connectives join, and parentheses are dropped.
What holds of every narrowed expression is shown by induction on it, and so of every condition that
text is read to.
-/

namespace EntityQuery.QueryText

open ConditionText Lookup

/-- An expression is narrowed to a condition. -/
inductive Narrows (p : Persister) (text : List Char) : Expr → Condition → Prop
  | symbol {left right : Expr} {binary : BinaryOp} {op : Operator} {v : Value} {c : Condition}
      (known : comparisonOperator? binary = some op) (read : literal text right = .ok v)
      (compared : (comparison p text left op v).fresh = .ok c) :
      Narrows p text (.binary left binary right) c
  | pattern {negated any : Bool} {operand pattern : Expr} {escape : Option String} {v : Value}
      {c : Condition} (read : literal text pattern = .ok v)
      (compared : (comparison p text operand (if negated then .notLike else .like) v).fresh =
        .ok c) :
      Narrows p text (.like negated any operand pattern escape) c
  | membership {operand : Expr} {items : List Expr} {negated : Bool} {vs : List Value}
      {c : Condition} (read : items.mapM (literal text) = .ok vs)
      (compared : (comparison p text operand (if negated then .notIn else .isIn) (.list vs)).fresh =
        .ok c) :
      Narrows p text (.inList operand items negated) c
  | nullTest {operand : Expr} {negated : Bool} {c : Condition}
      (compared : (comparison p text operand (if negated then .notEq else .eq) .null).fresh =
        .ok c) :
      Narrows p text (.isNull operand negated) c
  | conj {left right : Expr} {a b : Condition} (first : Narrows p text left a)
      (second : Narrows p text right b) :
      Narrows p text (.binary left .and right) (.conj [a, b])
  | disj {left right : Expr} {a b : Condition} (first : Narrows p text left a)
      (second : Narrows p text right b) :
      Narrows p text (.binary left .or right) (.disj [a, b])
  | nested {inner : Expr} {c : Condition} (narrowed : Narrows p text inner c) :
      Narrows p text (.nested inner) c

variable {p : Persister} {text : List Char}

/-- Whatever an expression is narrowed to has a derivation. -/
theorem narrows_of_narrow {e : Expr} {c : Condition} (h : (narrow p text e).fresh = .ok c) :
    Narrows p text e c := by
  induction e using narrow.induct generalizing c with
  | case1 left right ihl ihr =>
      rw [narrow, fresh_both_eq_ok (settled_narrow left) (settled_narrow right)] at h
      obtain ⟨a, b, first, second, rfl⟩ := h
      exact .conj (ihl first) (ihr second)
  | case2 left right ihl ihr =>
      rw [narrow, fresh_both_eq_ok (settled_narrow left) (settled_narrow right)] at h
      obtain ⟨a, b, first, second, rfl⟩ := h
      exact .disj (ihl first) (ihr second)
  | case3 inner ih =>
      rw [narrow] at h
      exact .nested (ih h)
  | case4 left op right notAnd notOr unknown =>
      rw [narrow_noOperator notAnd notOr unknown] at h
      cases h
  | case5 left op right notAnd notOr operator known =>
      rw [narrow_operator known, fresh_ofResult_bind] at h
      obtain ⟨v, read, compared⟩ := bind_eq_ok.1 h
      exact .symbol known read compared
  | case6 negated any operand pattern escape =>
      rw [narrow, fresh_ofResult_bind] at h
      obtain ⟨v, read, compared⟩ := bind_eq_ok.1 h
      exact .pattern read compared
  | case7 operand items negated =>
      rw [narrow, fresh_ofResult_bind] at h
      obtain ⟨vs, read, compared⟩ := bind_eq_ok.1 h
      exact .membership read compared
  | case8 operand negated =>
      rw [narrow] at h
      exact .nullTest h
  | case9 e notAnd notOr notNested notBinary notLike notList notNull =>
      rw [narrow.eq_8 p text e notAnd notOr notNested notBinary notLike notList notNull] at h
      cases h

/-- A text that is read to a condition is blank and the condition always holds, or it is a statement
without order and page whose expression is narrowed. -/
theorem condition_cases {text : String} {c : Condition} (h : (condition p text).fresh = .ok c) :
    (Unicode.allBlank text ∧ c = .always) ∨
      ∃ s, ¬ Unicode.allBlank text ∧ statement text.toList = .ok s ∧ s.tail.order = none ∧
        Narrows p text.toList s.condition c := by
  unfold condition at h
  dsimp only at h
  split at h
  · next blank =>
      cases h
      exact .inl ⟨blank, rfl⟩
  · next notBlank =>
      rw [fresh_ofResult_bind] at h
      obtain ⟨s, read, h⟩ := bind_eq_ok.1 h
      split at h
      · cases h
      · next bare =>
          have noOrder : s.tail.order = none := by
            cases order : s.tail.order with
            | none => rfl
            | some ts => simp [order] at bare
          exact .inr ⟨s, notBlank, read, noOrder, narrows_of_narrow h⟩

end EntityQuery.QueryText
