import EntityQuery.Proofs.Passing.Query
import EntityQuery.Proofs.QueryText.Grammar

/-!
# How expressions are formed

An operand is no operation on other expressions: it has no parts that count, or it is an expression
in parentheses. An operation makes an expression of the one in front of it and of those that it
reads behind its operator. So whatever part of an expression counts has been read on its own, from
tokens inside those of the whole.
-/

namespace EntityQuery.ConditionText

/-- What a reading can give, told by the tokens in front of it and those that it leaves. -/
abbrev Outcome (α : Type) : Type := List Lexeme → α → List Lexeme → Prop

/-- An outcome that stays possible when tokens have been passed before. -/
class Outcome.IsOpen {α : Type} (R : Outcome α) : Prop where
  passed : ∀ {ls middle rest a}, R middle a rest → middle <:+ ls → R ls a rest

/-- A reading that has no other outcomes, where some places are known. -/
class ComesTo {α : Type} (K : Known) (R : Outcome α) (p : Parse α) : Prop where
  outcome : ∀ {before ls a rest}, K.Holds before → p ls = .ok (a, rest) → R ls a rest

/-- The outcomes of a reading that may give nothing. -/
def Outcome.orNothing {α : Type} (R : Outcome α) : Outcome (Option α) := fun ls a? rest =>
  ∀ a ∈ a?, R ls a rest

section

variable {α β : Type} [Placed α] {K : Known} {R : Outcome β} {p : Parse α}
  {q : Parse β} {f : α → Parse β}

instance [h : R.IsOpen] : R.orNothing.IsOpen :=
  ⟨fun here front b mem => h.passed (here b mem) front⟩

namespace ComesTo

/-- What is read first is passed. -/
theorem bind [R.IsOpen] (first : Passes K p) (next : ∀ a, ComesTo (K.and a) R (f a)) :
    ComesTo K R (p >>= f) := by
  constructor
  intro before ls b rest known read
  obtain ⟨a, middle, readA, readB⟩ := Parse.bind_eq_ok.1 read
  obtain ⟨ts, rfl, places⟩ := first.passes before ls a middle known readA
  have known' : (K.and a).Holds (before ++ ts) :=
    Known.holds_and.2 ⟨known.mono (List.subset_append_left _ _), places⟩
  exact Outcome.IsOpen.passed ((next a).outcome known' readB) (List.suffix_append ts middle)

theorem get {f : List Lexeme → Parse β} (next : ∀ ts, ComesTo K R (f ts)) :
    ComesTo K R (get >>= f) :=
  ⟨fun {_ ls _ _} known read => (next ls).outcome known read⟩

/-- More places may be known. -/
theorem weaken (b : α) (h : ComesTo K R q) : ComesTo (K.and b) R q :=
  ⟨fun known read => h.outcome (Known.holds_and.1 known).1 read⟩

end ComesTo

namespace Parse

instance comesTo_bind [R.IsOpen] [first : Passes K p] [next : ∀ a, ComesTo (K.and a) R (f a)] :
    ComesTo K R (p >>= f) := .bind first next

instance comesTo_map [R.IsOpen] [Passes K p] {g : α → β} [∀ a, ComesTo (K.and a) R (pure (g a))] :
    ComesTo K R (g <$> p) :=
  inferInstanceAs (ComesTo K R (p >>= fun a => pure (g a)))

instance comesTo_none : ComesTo K R.orNothing (pure none) :=
  ⟨by rintro _ _ _ _ _ ⟨⟩ b ⟨⟩⟩

instance comesTo_some {b : β} [h : ComesTo K R (pure b)] :
    ComesTo K R.orNothing (pure (some b)) := by
  constructor
  rintro before ls _ rest known ⟨⟩ _ ⟨⟩
  exact h.outcome known rfl

instance comesTo_map_some {q : Parse β} [h : ComesTo K R q] :
    ComesTo K R.orNothing (some <$> q) := by
  constructor
  intro before ls b? rest known read
  obtain ⟨b, middle, first, done⟩ := bind_eq_ok (f := fun b => pure (some b)).1 read
  cases done
  rintro _ ⟨⟩
  exact h.outcome known first

instance comesTo_get {f : List Lexeme → Parse β} [next : ∀ ts, ComesTo K R (f ts)] :
    ComesTo K R (get >>= f) := .get next

instance comesTo_ite {c : Prop} [Decidable c] {p q : Parse β} [yes : ComesTo K R p]
    [no : ComesTo K R q] : ComesTo K R (if c then p else q) := by
  split
  · exact yes
  · exact no

instance comesTo_fail (fault : Failure) : ComesTo K R (fail fault : Parse β) :=
  ⟨by rintro _ _ _ _ _ ⟨⟩⟩

instance comesTo_expected (what : String) : ComesTo K R (expected what : Parse β) :=
  ⟨by rintro _ _ _ _ _ ⟨⟩⟩

end Parse

end

/-! ## Forms of expressions -/

/-- Whether a token is the operator of an operation, or names it. -/
def Token.operates (t : Token) (op : BinaryOp) : Prop :=
  Parse.binaryOp? t = some op ∨ ∃ value quoted, t = .word value quoted "OPERATOR"

/-- An expression that is read on its own, from tokens inside those that are passed. -/
def Inside (inner : Level) (e : Expr) (ls rest : List Lexeme) : Prop :=
  ∃ rank start later, inner.tighter rank start = .ok (e, later) ∧ start <:+ ls ∧ rest <:+ later

theorem inside_of_read {inner : Level} {e : Expr} {rank : Nat} {ls rest : List Lexeme}
    (read : inner.tighter rank ls = .ok (e, rest)) : Inside inner e ls rest :=
  ⟨rank, ls, rest, read, List.suffix_rfl, List.suffix_rfl⟩

theorem Inside.mono {inner : Level} {e : Expr} {ls ls' rest rest' : List Lexeme}
    (h : Inside inner e ls rest) (front : ls <:+ ls') (behind : rest' <:+ rest) :
    Inside inner e ls' rest' := by
  obtain ⟨rank, start, later, read, starts, ends⟩ := h
  exact ⟨rank, start, later, read, starts.trans front, behind.trans ends⟩

/-- How an expression is formed behind another one, or behind none: of what stands in front, and of
expressions that are read on their own. -/
inductive Formed (inner : Level) (front? : Option Expr) (ops : BinaryOp → Prop)
    (ls : List Lexeme) : Expr → List Lexeme → Prop
  | unchanged {e : Expr} {rest : List Lexeme} (front : front? = some e) :
      Formed inner front? ops ls e rest
  | atom {e : Expr} {rest : List Lexeme} (atom : e.isAtom) : Formed inner front? ops ls e rest
  | nested {e : Expr} {rest : List Lexeme} (inside : Inside inner e ls rest) :
      Formed inner front? ops ls (.nested e) rest
  | binary {left right : Expr} {op : BinaryOp} {rest : List Lexeme} (front : front? = some left)
      (operator : ops op) (inside : Inside inner right ls rest) :
      Formed inner front? ops ls (.binary left op right) rest
  | like {left right : Expr} {negated any : Bool} {escape : Option String} {rest : List Lexeme}
      (front : front? = some left) (inside : Inside inner right ls rest) :
      Formed inner front? ops ls (.like negated any left right escape) rest
  | inList {left : Expr} {items : List Expr} {negated : Bool} {rest : List Lexeme}
      (front : front? = some left) (inside : ∀ e ∈ items, Inside inner e ls rest) :
      Formed inner front? ops ls (.inList left items negated) rest
  | isNull {left : Expr} {negated : Bool} {rest : List Lexeme} (front : front? = some left) :
      Formed inner front? ops ls (.isNull left negated) rest

theorem Formed.mono {inner : Level} {front? : Option Expr} {ops : BinaryOp → Prop} {e : Expr}
    {ls ls' rest rest' : List Lexeme} (h : Formed inner front? ops ls e rest) (front : ls <:+ ls')
    (behind : rest' <:+ rest) : Formed inner front? ops ls' e rest' := by
  cases h with
  | unchanged same => exact .unchanged same
  | atom atom => exact .atom atom
  | nested inside => exact .nested (inside.mono front behind)
  | binary same operator inside => exact .binary same operator (inside.mono front behind)
  | like same inside => exact .like same (inside.mono front behind)
  | inList same inside => exact .inList same fun e mem => (inside e mem).mono front behind
  | isNull same => exact .isNull same

instance {inner : Level} {front? : Option Expr} {ops : BinaryOp → Prop} :
    Outcome.IsOpen (Formed inner front? ops) :=
  ⟨fun formed passed => formed.mono passed List.suffix_rfl⟩

/-- A reading of an expression behind another one, or behind none. -/
abbrev Forms (K : Known) (inner : Level) (front? : Option Expr) (ops : BinaryOp → Prop)
    (p : Parse Expr) : Prop :=
  ComesTo K (Formed inner front? ops) p

namespace Parse

-- An instance for a reading holds one for each of its parts.
set_option synthInstance.maxSize 2048

section

variable {K : Known} {inner : Level} {front? : Option Expr} {ops : BinaryOp → Prop}

theorem forms_atom {e : Expr} (atom : e.isAtom) : Forms K inner front? ops (pure e) :=
  ⟨by rintro _ _ _ _ _ ⟨⟩; exact .atom atom⟩

instance (name : Ident) : Forms K inner front? ops (pure (.ident name)) := forms_atom rfl
instance (parts : List Ident) : Forms K inner front? ops (pure (.compound parts)) := forms_atom rfl
instance (c : Constant) : Forms K inner front? ops (pure (.constant c)) := forms_atom rfl
instance (op : SignOp) (e : Expr) : Forms K inner front? ops (pure (.signed op e)) := forms_atom rfl
instance (query : Fragment) : Forms K inner front? ops (pure (.subquery query)) := forms_atom rfl
instance (f : Fragment) : Forms K inner front? ops (pure (.other f)) := forms_atom rfl

/-- An expression stays, or it becomes an atom. -/
def Kept (e : Expr) : Outcome Expr := fun ls e' rest => rest <:+ ls ∧ (e' = e ∨ e'.isAtom)

instance (e : Expr) : Outcome.IsOpen (Kept e) :=
  ⟨fun kept passed => ⟨kept.1.trans passed, kept.2⟩⟩

instance (e : Expr) : ComesTo K (Kept e) (pure e) :=
  ⟨by rintro _ _ _ _ _ ⟨⟩; exact ⟨List.suffix_rfl, .inl rfl⟩⟩

instance (e : Expr) (f : Fragment) : ComesTo K (Kept e) (pure (.other f)) :=
  ⟨by rintro _ _ _ _ _ ⟨⟩; exact ⟨List.suffix_rfl, .inr rfl⟩⟩

/-- What is kept stays formed as it is. -/
theorem formed_kept {e e' : Expr} {ls middle rest : List Lexeme} {q : Parse Expr}
    (formed : Formed inner front? ops ls e middle) (kept : ComesTo .nothing (Kept e) q)
    (read : q middle = .ok (e', rest)) : Formed inner front? ops ls e' rest := by
  obtain ⟨behind, rfl | atom⟩ := kept.outcome (Known.holds_nothing []) read
  · exact formed.mono List.suffix_rfl behind
  · exact .atom atom

theorem forms_kept {p : Parse Expr} {f : Expr → Parse Expr} [first : Forms K inner front? ops p]
    (kept : ∀ e, ComesTo .nothing (Kept e) (f e)) : Forms K inner front? ops (p >>= f) := by
  constructor
  intro before ls e rest known read
  obtain ⟨plain, middle, readPlain, readRest⟩ := bind_eq_ok.1 read
  exact formed_kept (first.outcome known readPlain) (kept plain) readRest

/-- A reading that is tried first. -/
theorem forms_attempt {p : Parse Expr} {f : Option Expr → Parse Expr}
    [first : Forms K inner front? ops p] (found : ∀ e, f (some e) = pure e)
    (other : Forms K inner front? ops (f none)) : Forms K inner front? ops (attempt p >>= f) := by
  constructor
  intro before ls e rest known read
  obtain ⟨e?, middle, tried, done⟩ := bind_eq_ok.1 read
  cases e? with
  | some e =>
      rw [found] at done
      cases done
      exact first.outcome known (attempt_eq_some tried)
  | none =>
      obtain rfl := attempt_eq_none tried
      exact other.outcome known done

instance comesTo_collated (e : Expr) : ComesTo K (Kept e) (collated e) := by
  unfold collated
  infer_instance

theorem forms_collated {e : Expr} (atom : e.isAtom) : Forms K inner front? ops (collated e) :=
  ⟨fun _ read => formed_kept (.atom atom) (comesTo_collated e) read⟩

end

/-- Each of some readings between commas is a reading of its own. -/
theorem mem_of_separated {α : Type} [Placed α] {p : Parse α} [Passes .nothing p] {as : List α}
    {ls rest : List Lexeme} (read : separated p ls = .ok (as, rest)) :
    ∀ a ∈ as, ∃ start later, p start = .ok (a, later) ∧ start <:+ ls ∧ rest <:+ later := by
  have most (n : Nat) : ∀ {as ls}, separatedAtMost p n ls = .ok (as, rest) →
      ∀ a ∈ as, ∃ start later, p start = .ok (a, later) ∧ start <:+ ls ∧ rest <:+ later := by
    induction n with
    | zero =>
        intro as ls read
        obtain ⟨a, later, first, done⟩ := bind_eq_ok.1 read
        cases done
        rintro _ (_ | ⟨_, ⟨⟩⟩)
        exact ⟨ls, rest, first, List.suffix_rfl, List.suffix_rfl⟩
    | succ n ih =>
        intro as ls read
        obtain ⟨a, later, first, read⟩ := bind_eq_ok.1 read
        obtain ⟨comma, middle, separator, read⟩ := bind_eq_ok.1 read
        have ends : middle <:+ later := Passes.suffix separator
        cases comma with
        | false =>
            cases read
            rintro _ (_ | ⟨_, ⟨⟩⟩)
            exact ⟨ls, later, first, List.suffix_rfl, ends⟩
        | true =>
            obtain ⟨more, last, further, done⟩ := bind_eq_ok (p := separatedAtMost p n)
              (f := fun more => pure (a :: more)).1 read
            cases done
            have passed : middle <:+ ls := ends.trans (Passes.suffix first)
            have behind : rest <:+ middle :=
              (passes_separatedAtMost (K := .nothing) inferInstance n).suffix further
            rintro _ (_ | ⟨_, mem⟩)
            · exact ⟨ls, later, first, List.suffix_rfl, behind.trans ends⟩
            · obtain ⟨start, last, readA, starts, ends⟩ := ih further _ mem
              exact ⟨start, last, readA, starts.trans passed, ends⟩
  exact most ls.length read

theorem inside_of_exprs {inner : Level} [inner.IsSound] {es : List Expr} {ls rest : List Lexeme}
    (read : inner.exprs ls = .ok (es, rest)) : ∀ e ∈ es, Inside inner e ls rest := fun e mem =>
  let ⟨start, later, readE, starts, ends⟩ := mem_of_separated read e mem
  ⟨0, start, later, readE, starts, ends⟩

/-! ## Operands -/

section

variable {K : Known} {inner : Level} [inner.IsSound] {front? : Option Expr}
  {ops : BinaryOp → Prop}

instance forms_timeSpan (amount : Parse Expr) [Passes K amount] :
    Forms K inner front? ops (timeSpan amount) := by
  unfold timeSpan
  infer_instance

instance forms_typedText (span : Parse Expr) [h : Forms K inner front? ops span] :
    Forms K inner front? ops (typedText span) := by
  unfold typedText
  refine .bind inferInstance fun type => ?_
  have := h.weaken type
  split <;> infer_instance

instance forms_caseDistinction : Forms K inner front? ops (caseDistinction inner) := by
  unfold caseDistinction
  dsimp only
  infer_instance

instance forms_conversion : Forms K inner front? ops (conversion inner) := by
  unfold conversion
  infer_instance

instance forms_cast (word : String) : Forms K inner front? ops (cast inner word) := by
  unfold cast
  infer_instance

instance forms_existence (negated : Bool) : Forms K inner front? ops (existence inner negated) := by
  unfold existence
  infer_instance

instance forms_extraction : Forms K inner front? ops (extraction inner) := by
  unfold extraction
  infer_instance

instance forms_rounding (word : String) : Forms K inner front? ops (rounding inner word) := by
  unfold rounding
  dsimp only
  repeat' first | refine .bind inferInstance fun _ => ?_ | split | infer_instance

instance forms_position (name : Ident) [K.Has name] :
    Forms K inner front? ops (position inner name) := by
  unfold position
  refine forms_attempt (fun _ => rfl) ?_
  dsimp only
  infer_instance

instance forms_substring : Forms K inner front? ops (substring inner) := by
  unfold substring
  infer_instance

instance forms_overlay : Forms K inner front? ops (overlay inner) := by
  unfold overlay
  infer_instance

instance forms_trimming : Forms K inner front? ops (trimming inner) := by
  unfold trimming
  infer_instance

instance forms_arrayItems (start : String) : Forms K inner front? ops (arrayItems inner start) := by
  unfold arrayItems
  infer_instance

instance forms_negation : Forms K inner front? ops (negation inner) := by
  unfold negation
  infer_instance

instance forms_construct? (amount : Parse Expr) [Passes K amount] (name : Ident) [K.Has name]
    (word : String) :
    ComesTo K (Outcome.orNothing (Formed inner front? ops))
      (construct? inner amount name word) := by
  unfold construct?
  split <;> infer_instance

instance forms_named (name : Ident) [K.Has name] : Forms K inner front? ops (named inner name) := by
  unfold named
  refine .bind inferInstance fun _ => ?_
  split
  · refine .get fun _ => .bind inferInstance fun _ => ?_
    split <;> infer_instance
  · split
    · refine .bind inferInstance fun _ => ?_
      split <;> infer_instance
    · infer_instance

instance forms_callInBraces (start : Location) :
    Forms K inner front? ops (callInBraces inner start) := by
  unfold callInBraces
  refine .bind inferInstance fun _ => ?_
  split <;> infer_instance

instance forms_inParentheses : Forms K inner front? ops (inParentheses inner) := by
  unfold inParentheses
  dsimp only
  -- Behind the contents everything is kept, and only a single expression is a part.
  have kept (e : Expr) : ComesTo .nothing (Kept e) (expectSymbol ")" >>= fun _ => symbol "." >>=
      fun point => if point then (take? fun | .word _ _ _ => true | _ => false) >>= fun
        | some l => match l.ident? with
          | some key => pure (.other (e.fragment ++ "." ++ key.fragment))
          | none => pure e
        | none => peek? >>= fun t => place >>= fun l =>
          fail (.expected ("Expected identifier, found: " ++ (t.map Token.text).getD "EOF") l)
        else pure e) := by
    refine .bind inferInstance fun _ => .bind inferInstance fun _ => ?_
    split
    · refine .bind inferInstance fun _ => ?_
      split
      · split <;> infer_instance
      · infer_instance
    · infer_instance
  refine .bind inferInstance fun _ => ?_
  split
  · exact forms_kept kept
  · constructor
    intro before ls e rest known read
    obtain ⟨es, middle, contents, read⟩ := bind_eq_ok.1 read
    have inside := inside_of_exprs contents
    have passed : middle <:+ ls := Passes.suffix contents
    split at read
    · next e =>
        obtain ⟨_, _, done, read⟩ := bind_eq_ok.1 read
        cases done
        exact formed_kept (.nested (inside e (List.mem_singleton_self e))) (kept _) read
    · obtain ⟨_, _, done, read⟩ := bind_eq_ok.1 read
      cases done
      exact (formed_kept (.atom rfl) (kept _) read).mono passed List.suffix_rfl

instance forms_symbolOperand (text : String) (start : Location) :
    Forms K inner front? ops (symbolOperand inner text start) := by
  unfold symbolOperand
  infer_instance

/-- A construct, or else what a word starts as a name. -/
instance forms_wordOperand (amount : Parse Expr) [Passes K amount] (name : Ident) [K.Has name]
    (word : String) : Forms K inner front? ops (wordOperand inner amount name word) := by
  constructor
  intro before ls e rest known read
  unfold wordOperand at read
  split at read
  · next found =>
      exact formed_kept ((forms_construct? amount name word).outcome known found _ rfl)
        (comesTo_collated _) read
  · have plain : Forms K inner front? ops (named inner name >>= collated) :=
      forms_kept comesTo_collated
    exact plain.outcome known read
  · split at read
    · cases read
    · split at read
      · next found =>
          cases read
          exact (forms_named name).outcome known found
      · cases read

instance forms_untypedOperand (amount : Parse Expr) [h : Passes K amount] :
    Forms K inner front? ops (untypedOperand inner amount) := by
  unfold untypedOperand
  refine .bind inferInstance fun l? => ?_
  have := h.weaken l?
  split
  · next value quoted capitals extent =>
      have := Known.Has.of_ident? (l := ⟨.word value quoted capitals, extent⟩) rfl K
      infer_instance
  · exact forms_kept comesTo_collated
  · split
    · exact forms_collated rfl
    · infer_instance
  · infer_instance

instance forms_operandWithin (n : Nat) : Forms K inner front? ops (operandWithin inner n) := by
  cases n with
  | zero => exact comesTo_expected _
  | succ n => exact forms_attempt (fun _ => rfl) (forms_untypedOperand _)

instance forms_operand : Forms K inner front? ops (operand inner) :=
  ⟨fun {_ ls _ _} known read => (forms_operandWithin (ls.length + 1)).outcome known read⟩

end

/-! ## Operations -/

section

variable {K : Known} {inner : Level} {ops : BinaryOp → Prop}

/-- Without tokens there is no operation. -/
theorem operation_nil {left e : Expr} {rank : Nat} {rest : List Lexeme}
    (read : operation inner left rank [] = .ok (e, rest)) : e = left := by
  cases read
  rfl

theorem inside_of_pattern {any : Bool} {e : Expr} {escape : Option String} {ls rest : List Lexeme}
    (read : pattern inner ls = .ok ((any, e, escape), rest)) : Inside inner e ls rest := by
  obtain ⟨any', start, word, read⟩ := bind_eq_ok.1 read
  obtain ⟨e', later, readPattern, read⟩ := bind_eq_ok.1 read
  obtain ⟨escape', _, readEscape, done⟩ := bind_eq_ok.1 read
  cases done
  exact (inside_of_read readPattern).mono (Passes.suffix word) (Passes.suffix readEscape)

theorem forms_rightSide (left : Expr) [K.Has left] {op : BinaryOp} (place : Location)
    (rank : Nat) (operator : ops op) :
    Forms K inner (some left) ops (rightSide inner left op place rank) := by
  unfold rightSide
  dsimp only
  refine .bind inferInstance fun _ => ?_
  split
  · constructor
    intro before ls e rest known read
    obtain ⟨right, later, readRight, done⟩ :=
      bind_eq_ok (f := fun right => pure (Expr.binary left op right)).1 read
    cases done
    exact .binary rfl operator (inside_of_read readRight)
  · constructor
    intro before ls e rest known read
    rw [bind_of_ok (get_apply ls)] at read
    obtain ⟨_, _, -, read⟩ := bind_eq_ok.1 read
    obtain ⟨isQuery, _, -, read⟩ := bind_eq_ok.1 read
    -- A query and a list between the parentheses are read the same way here.
    split at read <;>
      · obtain ⟨_, _, -, read⟩ := bind_eq_ok.1 read
        obtain ⟨_, _, -, read⟩ := bind_eq_ok.1 read
        obtain ⟨_, _, -, read⟩ := bind_eq_ok.1 read
        split at read <;> cases read
        exact .atom rfl

variable [inner.IsSound]

instance forms_test (left : Expr) [K.Has left] :
    Forms K inner (some left) ops (test inner left) := by
  have isNull (K : Known) (negated : Bool) :
      Forms K inner (some left) ops (pure (.isNull left negated)) :=
    ⟨by rintro _ _ _ _ _ ⟨⟩; exact .isNull rfl⟩
  unfold test
  dsimp only
  infer_instance

instance forms_membership (left : Expr) [K.Has left] (negated : Bool) :
    Forms K inner (some left) ops (membership inner left negated) := by
  unfold membership
  dsimp only
  refine .bind inferInstance fun _ => ?_
  split
  · infer_instance
  · refine .bind inferInstance fun _ => .bind inferInstance fun _ => ?_
    split
    · infer_instance
    · constructor
      intro before ls e rest known read
      obtain ⟨items, later, readItems, read⟩ := bind_eq_ok.1 read
      obtain ⟨_, _, closed, done⟩ := bind_eq_ok.1 read
      cases done
      exact .inList rfl fun e mem =>
        (inside_of_exprs readItems e mem).mono List.suffix_rfl (Passes.suffix closed)

instance forms_membershipOrPattern (left : Expr) [K.Has left] (negated : Bool) :
    Forms K inner (some left) ops (membershipOrPattern inner left negated) := by
  unfold membershipOrPattern
  refine .bind inferInstance fun _ => .bind inferInstance fun _ => ?_
  split
  · infer_instance
  · refine .bind inferInstance fun _ => ?_
    split
    · infer_instance
    · infer_instance
    · constructor
      intro before ls e rest known read
      obtain ⟨⟨any, right, escape⟩, later, readPattern, done⟩ := bind_eq_ok.1 read
      cases done
      exact .like rfl (inside_of_pattern readPattern)
    · infer_instance
    · infer_instance

instance forms_subscript (left : Expr) [K.Has left] :
    Forms K inner (some left) ops (subscript inner left) := by
  unfold subscript
  dsimp only
  infer_instance

theorem forms_wordOperation (left : Expr) [K.Has left] (rank : Nat) (value : String) {word : String}
    (place : Location) (operator : word = "OPERATOR" → ∀ op, ops op) :
    Forms K inner (some left) ops (wordOperation inner left rank value word place) := by
  unfold wordOperation
  split
  · infer_instance
  · infer_instance
  · have named (K : Known) [K.Has left] (op : BinaryOp) :
        Forms K inner (some left) ops (rightSide inner left op place rank) :=
      forms_rightSide left place rank (operator rfl op)
    infer_instance
  · infer_instance
  · infer_instance

/-- An operation starts with the token of its operator. -/
theorem formed_operation {left e : Expr} {rank : Nat} {x : Lexeme} {more rest : List Lexeme}
    {before : List Lexeme} (places : Within before left.span)
    (read : operation inner left rank (x :: more) = .ok (e, rest)) :
    Formed inner (some left) (x.token.operates) (x :: more) e rest := by
  have known : (Known.nothing.and left).Holds before :=
    Known.holds_and.2 ⟨Known.holds_nothing before, by rintro _ (_ | ⟨_, ⟨⟩⟩); exact places⟩
  obtain ⟨token, extent⟩ := x
  unfold operation at read
  obtain ⟨negatable, _, next, read⟩ := bind_eq_ok.1 read
  obtain rfl := nextIs_unmoved next
  split at read
  · exact (forms_membershipOrPattern left false).outcome known read
  · rw [bind_of_ok (p := take? fun _ => true) (a := some ⟨token, extent⟩) rfl] at read
    refine Formed.mono ?_ (List.suffix_cons _ more) List.suffix_rfl
    dsimp only at read
    cases operator : binaryOp? token with
    | some op =>
        simp only [operator] at read
        exact (forms_rightSide left _ rank (.inl operator)).outcome known read
    | none =>
        simp only [operator] at read
        split at read
        · have cast : Forms (Known.nothing.and left) inner (some left)
              (Token.operates (.symbol "::")) (dataType >>= fun type =>
                pure (.other (left.fragment ++ Fragment.words ("::" ++ type.text)))) :=
            inferInstance
          exact cast.outcome known read
        · exact (forms_subscript left).outcome known read
        · cases read
          exact .atom rfl
        · next value quoted word _ =>
            have named : word = "OPERATOR" → ∀ op, Token.operates (.word value quoted word) op :=
              fun same _ => .inr ⟨value, quoted, by rw [same]⟩
            exact (forms_wordOperation left rank value _ named).outcome known read
        · cases read
          exact .unchanged rfl

end

end Parse

end EntityQuery.ConditionText
