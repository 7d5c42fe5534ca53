import EntityQuery.Proofs.Passing.Formed

/-!
# Where expressions are read

An expression grows from an operand by one operation after the other, and it is read from the tokens
between the first one of the operand and the last one of the last operation. Its parts are read from
tokens inside these, so every part has a first token, and its places are those of tokens behind it.
-/

namespace EntityQuery.ConditionText

namespace Parse

-- An instance for a reading holds one for each of its parts.
set_option synthInstance.maxSize 2048

/-! ## Operands take tokens -/

/-- At least one token is taken. -/
def TakesSome {α : Type} : Outcome α := fun ls _ rest => rest.length < ls.length

section

variable {α β : Type} [Placed α] [Placed β] {K : Known} {p : Parse α} {f : α → Parse β}

instance : Outcome.IsOpen (TakesSome : Outcome α) :=
  ⟨fun takes passed => Nat.lt_of_lt_of_le takes passed.length_le⟩

/-- What takes tokens first takes tokens. -/
theorem takesSome_bind [passes : Passes K p] [first : ComesTo K TakesSome p]
    [second : ∀ a, Passes (K.and a) (f a)] : ComesTo K TakesSome (p >>= f) := by
  constructor
  intro before ls b rest known read
  obtain ⟨a, middle, readA, readB⟩ := bind_eq_ok.1 read
  have takes := first.outcome known readA
  obtain ⟨ts, rfl, places⟩ := passes.passes before ls a middle known readA
  obtain ⟨us, rfl, -⟩ := (second a).passes (before ++ ts) middle b rest
    (Known.holds_and.2 ⟨known.mono (List.subset_append_left _ _), places⟩) readB
  exact Nat.lt_of_le_of_lt (List.suffix_append us rest).length_le takes

theorem takesSome_cons {l : Lexeme} {ls rest : List Lexeme} {before : List Lexeme} {b : β}
    {q : Parse β}
    [second : Passes (K.and (some l)) q] (known : K.Holds before) (read : q ls = .ok (b, rest)) :
    rest.length < (l :: ls).length := by
  obtain ⟨us, rfl, -⟩ := second.passes (before ++ [l]) ls b rest (known.token l) read
  exact Nat.lt_succ_of_le (List.suffix_append us rest).length_le

end

section

variable {K : Known}

theorem take?_eq_some {kind : Token → Bool} {l : Lexeme} {ls rest : List Lexeme}
    (read : take? kind ls = .ok (some l, rest)) : ls = l :: rest := by
  unfold take? at read
  split at read
  · split at read <;> cases read
    rfl
  · cases read

instance takesSome_literalText : ComesTo K TakesSome literalText := by
  constructor
  intro before ls s rest _ read
  obtain ⟨l?, middle, taken, read⟩ := bind_eq_ok.1 read
  cases l? with
  | none => cases read
  | some l =>
      cases read
      obtain rfl := take?_eq_some taken
      exact Nat.lt_succ_self _

instance takesSome_timeSpan (amount : Parse Expr) [Passes K amount] [ComesTo K TakesSome amount] :
    ComesTo K TakesSome (timeSpan amount) := by
  unfold timeSpan
  dsimp only
  exact takesSome_bind

instance takesSome_typedText (span : Parse Expr) [h : ComesTo K TakesSome span] :
    ComesTo K TakesSome (typedText span) := by
  unfold typedText
  refine .bind inferInstance fun type => ?_
  have := h.weaken type
  split
  · infer_instance
  · infer_instance
  · exact takesSome_bind

variable {inner : Level} [inner.IsSound]

instance takesSome_untypedOperand (amount : Parse Expr) [h : Passes K amount] :
    ComesTo K TakesSome (untypedOperand inner amount) := by
  constructor
  intro before ls e rest known read
  obtain ⟨l?, middle, taken, behind⟩ := bind_eq_ok.1 read
  cases l? with
  | none => cases behind
  | some l =>
      obtain rfl := take?_eq_some taken
      have := h.weaken (some l)
      obtain ⟨token, extent⟩ := l
      cases token with
      | word value quoted capitals =>
          have := Known.Has.of_ident? (l := ⟨.word value quoted capitals, extent⟩) rfl K
          exact takesSome_cons (q := wordOperand inner amount _ capitals) known behind
      | symbol text =>
          exact takesSome_cons (q := symbolOperand inner text extent.first >>= collated) known
            behind
      | _ =>
          dsimp only at behind
          generalize Token.constant? _ = c? at behind
          cases c? with
          | some c => exact takesSome_cons (q := collated _) known behind
          | none => cases behind

instance takesSome_operandWithin (n : Nat) : ComesTo K TakesSome (operandWithin inner n) := by
  induction n with
  | zero => exact comesTo_expected _
  | succ n ih =>
      constructor
      intro before ls e rest known read
      obtain ⟨e?, middle, tried, behind⟩ := bind_eq_ok.1 read
      cases e? with
      | some e =>
          cases behind
          exact (takesSome_typedText _).outcome known (attempt_eq_some tried)
      | none =>
          obtain rfl := attempt_eq_none tried
          exact (takesSome_untypedOperand _).outcome known behind

/-- An operand takes at least one token. -/
theorem length_lt_of_operand {e : Expr} {ls rest : List Lexeme}
    (read : operand inner ls = .ok (e, rest)) : rest.length < ls.length :=
  (takesSome_operandWithin (K := .nothing) (ls.length + 1)).outcome (Known.holds_nothing []) read

end

end Parse

/-! ## Growing -/

/-- An expression that grows from an operand by operations, read from the front of some tokens. -/
inductive Grown (ls : List Lexeme) : Expr → List Lexeme → Prop
  | operand {n : Nat} {e : Expr} {rest : List Lexeme}
      (read : Parse.operand (level n) ls = .ok (e, rest)) : Grown ls e rest
  | operation {n rank : Nat} {left e : Expr} {middle rest : List Lexeme}
      (front : Grown ls left middle)
      (read : Parse.operation (level n) left rank middle = .ok (e, rest)) : Grown ls e rest

/-- An expression that is grown from tokens inside those that are passed. -/
def GrownInside (e : Expr) (ls rest : List Lexeme) : Prop :=
  ∃ start later, Grown start e later ∧ start <:+ ls ∧ rest <:+ later

namespace Grown

variable {e : Expr} {ls middle rest : List Lexeme}

theorem of_operations {n rank count : Nat} {left : Expr} (front : Grown ls left middle)
    (read : Parse.operations (level n) rank count left middle = .ok (e, rest)) :
    Grown ls e rest := by
  induction count generalizing left middle with
  | zero =>
      cases read
      exact front
  | succ count ih =>
      unfold Parse.operations at read
      dsimp only at read
      split at read
      · cases read
        exact front
      · obtain ⟨larger, later, first, further⟩ := Parse.bind_eq_ok.1 read
        exact ih (.operation front first) further

/-- What is read at any level is grown. -/
theorem of_tighter {n rank : Nat} (read : (level n).tighter rank ls = .ok (e, rest)) :
    Grown ls e rest := by
  cases n with
  | zero => cases read
  | succ n =>
      obtain ⟨first, middle, operand, further⟩ := Parse.bind_eq_ok.1 read
      rw [Parse.bind_of_ok (Parse.get_apply middle)] at further
      exact of_operations (.operand operand) further

/-- An operation passes tokens, and its places are those of tokens that are passed. -/
theorem within_of_operation {n rank : Nat} {left : Expr} {before : List Lexeme}
    (places : Within before left.span)
    (read : Parse.operation (level n) left rank middle = .ok (e, rest)) :
    ∃ ts, middle = ts ++ rest ∧ Within (before ++ ts) e.span := by
  have known : (Known.nothing.and left).Holds before :=
    Known.holds_and.2 ⟨Known.holds_nothing _, by rintro _ (_ | ⟨_, ⟨⟩⟩); exact places⟩
  obtain ⟨ts, same, within⟩ :=
    (Parse.passes_operation left rank).passes before middle e rest known read
  exact ⟨ts, same, within _ (List.mem_singleton_self _)⟩

/-- An expression has its places from the tokens that it is grown from, and these are some. -/
theorem tokens (h : Grown ls e rest) :
    ∃ x ts, ls = x :: (ts ++ rest) ∧ Within (x :: ts) e.span := by
  induction h with
  | operand read =>
      have shorter := Parse.length_lt_of_operand read
      obtain ⟨ts, rfl, places⟩ := Passes.within read
      cases ts with
      | nil => exact absurd shorter (Nat.lt_irrefl _)
      | cons x ts => exact ⟨x, ts, rfl, places _ (List.mem_singleton_self _)⟩
  | operation _ read ih =>
      obtain ⟨x, ts, rfl, places⟩ := ih
      obtain ⟨us, rfl, within⟩ := within_of_operation places read
      exact ⟨x, ts ++ us, by rw [List.append_assoc], within⟩

theorem suffix (h : Grown ls e rest) : rest <:+ ls := by
  obtain ⟨x, ts, rfl, -⟩ := h.tokens
  exact List.suffix_append (x :: ts) rest

end Grown

theorem GrownInside.mono {e : Expr} {ls ls' rest rest' : List Lexeme} (h : GrownInside e ls rest)
    (front : ls <:+ ls') (behind : rest' <:+ rest) : GrownInside e ls' rest' := by
  obtain ⟨start, later, grown, starts, ends⟩ := h
  exact ⟨start, later, grown, starts.trans front, behind.trans ends⟩

theorem GrownInside.of_inside {n : Nat} {e : Expr} {ls rest : List Lexeme}
    (inside : Inside (level n) e ls rest) : GrownInside e ls rest := by
  obtain ⟨rank, start, later, read, starts, ends⟩ := inside
  exact ⟨start, later, .of_tighter read, starts, ends⟩

/-! ## Parts -/

/-- The expressions that an expression is formed of. -/
def Expr.parts : Expr → List Expr
  | nested e => [e]
  | binary left _ right => [left, right]
  | like _ _ left right _ => [left, right]
  | inList left items _ => left :: items
  | isNull left _ => [left]
  | _ => []

theorem Expr.parts_of_isAtom {e : Expr} (atom : e.isAtom) : e.parts = [] := by
  cases e <;> first | rfl | cases atom

/-- A part that is formed behind another one is that one, or it is grown inside. -/
theorem Formed.part {n : Nat} {front? : Option Expr} {ops : BinaryOp → Prop} {e c : Expr}
    {ls rest : List Lexeme} (h : Formed (level n) front? ops ls e rest) (mem : c ∈ e.parts) :
    front? = some e ∨ front? = some c ∨ GrownInside c ls rest := by
  cases h with
  | unchanged front => exact .inl front
  | atom atom =>
      rw [Expr.parts_of_isAtom atom] at mem
      cases mem
  | nested inside =>
      obtain rfl := List.mem_singleton.1 mem
      exact .inr (.inr (.of_inside inside))
  | binary front _ inside =>
      obtain rfl | rfl : c = _ ∨ c = _ := by simpa [Expr.parts] using mem
      · exact .inr (.inl front)
      · exact .inr (.inr (.of_inside inside))
  | like front inside =>
      obtain rfl | rfl : c = _ ∨ c = _ := by simpa [Expr.parts] using mem
      · exact .inr (.inl front)
      · exact .inr (.inr (.of_inside inside))
  | inList front inside =>
      obtain rfl | item : c = _ ∨ c ∈ _ := by simpa [Expr.parts] using mem
      · exact .inr (.inl front)
      · exact .inr (.inr (.of_inside (inside c item)))
  | isNull front =>
      obtain rfl := List.mem_singleton.1 mem
      exact .inr (.inl front)

namespace Grown

variable {e : Expr} {ls middle rest : List Lexeme}

theorem formed_of_operand {n : Nat} (read : Parse.operand (level n) ls = .ok (e, rest)) :
    Formed (level n) none (fun _ => False) ls e rest :=
  Parse.forms_operand.outcome (Known.holds_nothing []) read

theorem formed_of_operation {n rank : Nat} {left : Expr} (front : Grown ls left middle)
    (read : Parse.operation (level n) left rank middle = .ok (e, rest)) :
    e = left ∨ ∃ x later, middle = x :: later ∧
      Formed (level n) (some left) x.token.operates middle e rest := by
  cases middle with
  | nil => exact .inl (Parse.operation_nil read)
  | cons x later =>
      obtain ⟨y, ts, rfl, places⟩ := front.tokens
      exact .inr ⟨x, later, rfl, Parse.formed_operation places read⟩

theorem suffix_of_operation {n rank : Nat} {left : Expr} (front : Grown ls left middle)
    (read : Parse.operation (level n) left rank middle = .ok (e, rest)) : rest <:+ middle := by
  obtain ⟨y, ts, rfl, places⟩ := front.tokens
  obtain ⟨us, rfl, -⟩ := within_of_operation places read
  exact List.suffix_append us rest

/-- A part of an expression is grown from tokens inside those of the whole. -/
theorem part {c : Expr} (h : Grown ls e rest) (mem : c ∈ e.parts) : GrownInside c ls rest := by
  induction h with
  | operand read =>
      obtain ⟨⟨⟩⟩ | ⟨⟨⟩⟩ | inside := (formed_of_operand read).part mem
      exact inside
  | operation front read ih =>
      have behind := front.suffix_of_operation read
      obtain rfl | ⟨x, later, rfl, formed⟩ := front.formed_of_operation read
      · exact (ih mem).mono List.suffix_rfl behind
      · obtain ⟨⟨⟩⟩ | ⟨⟨⟩⟩ | inside := formed.part mem
        · exact (ih mem).mono List.suffix_rfl behind
        · exact ⟨_, _, front, List.suffix_rfl, behind⟩
        · exact inside.mono front.suffix List.suffix_rfl

/-- The token behind the left side of an operation is its operator, or names it. -/
theorem operator {left right : Expr} {op : BinaryOp} (h : Grown ls (.binary left op right) rest) :
    ∃ x later, Grown ls left (x :: later) ∧ x.token.operates op ∧ rest <:+ x :: later := by
  generalize whole : Expr.binary left op right = e at h
  induction h with
  | operand read =>
      subst whole
      cases formed_of_operand read with
      | unchanged front => cases front
      | atom atom => cases atom
      | binary front _ _ => cases front
  | operation front read ih =>
      subst whole
      have behind := front.suffix_of_operation read
      obtain same | ⟨x, later, rfl, formed⟩ := front.formed_of_operation read
      · obtain ⟨x, later, grown, operates, ends⟩ := ih same
        exact ⟨x, later, grown, operates, behind.trans ends⟩
      · cases formed with
        | unchanged same =>
            obtain ⟨x, later, grown, operates, ends⟩ := ih (Option.some.inj same).symm
            exact ⟨x, later, grown, operates, behind.trans ends⟩
        | atom atom => cases atom
        | binary same operates _ =>
            cases same
            exact ⟨x, later, front, operates, behind⟩

end Grown

/-! ## Expressions of clauses -/

namespace Parse

variable {inner : Level} {ls rest : List Lexeme}

/-- What is read behind an introduction is read on its own. -/
theorem read_behind {α : Type} {intro? : Parse Bool} [Passes .nothing intro?] {p : Parse α} {a : α}
    (read : (intro? >>= fun found => if found then some <$> p else pure none) ls =
      .ok (some a, rest)) :
    ∃ start, p start = .ok (a, rest) ∧ start <:+ ls := by
  obtain ⟨found, start, first, behind⟩ := bind_eq_ok.1 read
  cases found with
  | false => cases behind
  | true =>
      obtain ⟨b, later, inside, done⟩ := bind_eq_ok (p := p) (f := fun a => pure (some a)).1 behind
      cases done
      exact ⟨start, inside, Passes.suffix first⟩

/-- A sort key stays what it is behind its expression. -/
def HasKey (e : Expr) : Outcome OrderTerm := fun ls t rest => rest <:+ ls ∧ t.key = e

instance (e : Expr) : (HasKey e).IsOpen := ⟨fun has passed => ⟨has.1.trans passed, has.2⟩⟩

instance {K : Known} (e : Expr) (ascending nullsFirst : Option Bool) :
    ComesTo K (HasKey e) (pure ⟨e, ascending, nullsFirst⟩) :=
  ⟨by rintro _ _ _ _ _ ⟨⟩; exact ⟨List.suffix_rfl, rfl⟩⟩

theorem inside_of_orderTerm [inner.IsSound] {t : OrderTerm}
    (read : orderTerm inner ls = .ok (t, rest)) :
    Inside inner t.key ls rest := by
  obtain ⟨key, later, first, behind⟩ := bind_eq_ok.1 read
  dsimp only at behind
  obtain ⟨ends, rfl⟩ := @ComesTo.outcome _ .nothing (HasKey key) _ (by
    refine .bind inferInstance fun _ => ?_
    split <;> infer_instance) _ _ _ _ (Known.holds_nothing []) behind
  exact ⟨0, ls, later, first, List.suffix_rfl, ends⟩

theorem suffix_of_limitClause [inner.IsSound] {known e? : Option Expr}
    (read : limitClause inner known ls = .ok (e?, rest)) : rest <:+ ls := by
  cases known with
  | none => exact Passes.suffix read
  | some e =>
      cases read
      exact List.suffix_rfl

theorem suffix_of_offsetClause [inner.IsSound] {known e? : Option (Expr × String)}
    (read : offsetClause inner known ls = .ok (e?, rest)) : rest <:+ ls := by
  cases known with
  | none => exact Passes.suffix read
  | some e =>
      cases read
      exact List.suffix_rfl

theorem inside_of_limitClause {known : Option Expr} {e : Expr}
    (read : limitClause inner known ls = .ok (some e, rest)) :
    known = some e ∨ Inside inner e ls rest := by
  cases known with
  | some e =>
      cases read
      exact .inl rfl
  | none =>
      obtain ⟨found, start, first, behind⟩ := bind_eq_ok.1 read
      cases found with
      | false => cases behind
      | true =>
          obtain ⟨every, start', second, behind⟩ := bind_eq_ok.1 behind
          cases every with
          | true => cases behind
          | false =>
              obtain ⟨e', later, inside, done⟩ :=
                bind_eq_ok (p := inner.expr) (f := fun e => pure (some e)).1 behind
              cases done
              exact .inr ⟨0, start', rest, inside,
                (Passes.suffix second).trans (Passes.suffix first), List.suffix_rfl⟩

theorem inside_of_offsetClause {known : Option (Expr × String)} {e : Expr} {unit : String}
    (read : offsetClause inner known ls = .ok (some (e, unit), rest)) :
    known = some (e, unit) ∨ Inside inner e ls rest := by
  cases known with
  | some e =>
      cases read
      exact .inl rfl
  | none =>
      obtain ⟨start, inside, starts⟩ := read_behind read
      obtain ⟨e', later, first, behind⟩ := bind_eq_ok.1 inside
      obtain ⟨unit, _, second, done⟩ := bind_eq_ok.1 behind
      cases done
      exact .inr ⟨0, start, later, first, starts, Passes.suffix second⟩

/-- The sort keys, the limit and the offset of a query are read on their own. -/
theorem inside_of_queryTail [inner.IsSound] {t : QueryTail}
    (read : queryTail inner ls = .ok (t, rest)) :
    (∀ term ∈ t.order.getD [], Inside inner term.key ls rest) ∧
      (∀ e ∈ t.limit, Inside inner e ls rest) ∧ ∀ e ∈ t.offset, Inside inner e ls rest := by
  obtain ⟨order?, t₁, readOrder, read⟩ := bind_eq_ok.1 read
  obtain ⟨limit?, t₂, readLimit, read⟩ := bind_eq_ok.1 read
  obtain ⟨offset?, t₃, readOffset, read⟩ := bind_eq_ok.1 read
  obtain ⟨limit', t₄, readLimit', read⟩ := bind_eq_ok.1 read
  obtain ⟨offset', t₅, readOffset', read⟩ := bind_eq_ok.1 read
  obtain ⟨fetch?, t₆, readFetch, read⟩ := bind_eq_ok.1 read
  rw [bind_of_ok (get_apply _)] at read
  obtain ⟨others, t₇, readOthers, done⟩ := bind_eq_ok.1 read
  cases done
  -- Each clause stands behind the ones before and in front of the ones after it.
  have s₁ : t₁ <:+ ls := Passes.suffix readOrder
  have s₂ : t₂ <:+ ls := (Passes.suffix readLimit).trans s₁
  have s₃ : t₃ <:+ ls := (Passes.suffix readOffset).trans s₂
  have s₄ : t₄ <:+ ls := (suffix_of_limitClause readLimit').trans s₃
  have e₅ : rest <:+ t₅ := (Passes.suffix readOthers).trans (Passes.suffix readFetch)
  have e₄ : rest <:+ t₄ := e₅.trans (suffix_of_offsetClause readOffset')
  have e₃ : rest <:+ t₃ := e₄.trans (suffix_of_limitClause readLimit')
  have e₂ : rest <:+ t₂ := e₃.trans (Passes.suffix readOffset)
  have e₁ : rest <:+ t₁ := e₂.trans (Passes.suffix readLimit)
  refine ⟨fun term mem => ?_, fun e mem => ?_, fun e mem => ?_⟩
  · cases order? with
    | none => cases mem
    | some terms =>
        obtain ⟨start, inside, starts⟩ := read_behind readOrder
        obtain ⟨first, later, readTerm, starts', ends⟩ := mem_of_separated inside term mem
        exact (inside_of_orderTerm readTerm).mono (starts'.trans starts) (e₁.trans ends)
  · obtain rfl : limit' = some e := mem
    obtain rfl | inside := inside_of_limitClause readLimit'
    · obtain ⟨⟨⟩⟩ | inside := inside_of_limitClause readLimit
      exact inside.mono s₁ e₂
    · exact inside.mono s₃ e₄
  · obtain ⟨⟨e', unit⟩, rfl, rfl⟩ := Option.map_eq_some_iff.1 mem
    obtain rfl | inside := inside_of_offsetClause readOffset'
    · obtain ⟨⟨⟩⟩ | inside := inside_of_offsetClause readOffset
      exact inside.mono s₂ e₃
    · exact inside.mono s₄ e₅

end Parse

end EntityQuery.ConditionText
