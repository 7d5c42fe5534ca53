import EntityQuery.Proofs.Reading.Step
import EntityQuery.Proofs.Result
import EntityQuery.ConditionText.Statement
import Mathlib.Data.List.TakeWhile

/-!
# Clauses that are not there

A clause that is read as missing has taken nothing, and so has a selection, a combination or a list
of statements without any part. The words that ask for all rows are the exception: they are taken
and read as no limit. What the absence of all clauses leaves in the text follows from these facts.
-/

namespace EntityQuery.ConditionText

/-- Words that ask for all rows, at most the given number of times, between some tokens and what
stands behind these words. -/
inductive AllRows : Nat → List Lexeme → List Lexeme → Prop
  | none {n : Nat} {rest : List Lexeme} : AllRows n rest rest
  | limit {n : Nat} {limit all : Lexeme} {rest left : List Lexeme}
      (limited : limit.token.isKeyword "LIMIT") (unlimited : all.token.isKeyword "ALL")
      (further : AllRows n rest left) : AllRows (n + 1) (limit :: all :: rest) left

/-- A statement ends in front of some tokens, and these are left: nothing, behind semicolons, or
everything from a closing keyword on. -/
def EndsStatement (rest left : List Lexeme) : Prop :=
  (left = [] ∧ ∀ l ∈ rest, l.token.isSymbol ";") ∨
    (left = rest ∧ ∃ l ∈ rest.head?, l.token.isKeyword "END")

namespace Parse

variable {α β : Type} {inner : Level} {rest left : List Lexeme}

/-- A step of reading and what follows it, taken apart. -/
theorem bind_eq_ok {p : Parse α} {f : α → Parse β} {b : β} :
    (p >>= f) rest = .ok (b, left) ↔ ∃ a middle, p rest = .ok (a, middle) ∧
      f a middle = .ok (b, left) := by
  rw [bind_apply, EntityQuery.bind_eq_ok]
  constructor
  · rintro ⟨⟨a, middle⟩, first, second⟩
    exact ⟨a, middle, first, second⟩
  · rintro ⟨a, middle, first, second⟩
    exact ⟨(a, middle), first, second⟩

theorem accept_eq_false {p : Token → Bool} (h : accept p rest = .ok (false, left)) :
    left = rest := by
  cases rest with
  | nil =>
      cases h
      rfl
  | cons x more =>
      simp only [accept] at h
      split at h
      · cases h
      · cases h
        rfl

theorem accept_eq_true {p : Token → Bool} (h : accept p rest = .ok (true, left)) :
    ∃ x, rest = x :: left ∧ p x.token := by
  cases rest with
  | nil => cases h
  | cons x more =>
      simp only [accept] at h
      split at h
      · next taken =>
          cases h
          exact ⟨x, rfl, taken⟩
      · cases h

theorem keywords_eq_false {keys : List String} (h : keywords keys rest = .ok (false, left)) :
    left = rest := by
  simp only [keywords] at h
  split at h
  · cases h
  · cases h
    rfl

/-- What is read behind a mark is only missing where the mark is. -/
theorem eq_false_of_none {mark : Parse Bool} {p : Parse α}
    (h : (do if ← mark then some <$> p else pure none : Parse (Option α)) rest =
      .ok (none, left)) : mark rest = .ok (false, left) := by
  obtain ⟨found, middle, first, second⟩ := bind_eq_ok.1 h
  cases found with
  | true =>
      obtain ⟨⟨a, more⟩, -, whole⟩ := EntityQuery.bind_eq_ok.1 second
      cases whole
  | false =>
      cases second
      exact first

theorem afterKeyword?_eq_none {key : String} {p : Parse α}
    (h : afterKeyword? key p rest = .ok (none, left)) : left = rest :=
  accept_eq_false (eq_false_of_none h)

theorem afterKeywords?_eq_none {keys : List String} {p : Parse α}
    (h : afterKeywords? keys p rest = .ok (none, left)) : left = rest :=
  keywords_eq_false (eq_false_of_none h)

/-- A selection without clauses of its own ends behind its condition. -/
theorem selectTail_eq_bare {t : SelectTail} (read : selectTail inner rest = .ok (t, left))
    (ungrouped : t.grouped = false) (nothing : t.further = false) :
    t = ⟨false, false, ""⟩ ∧ left = rest := by
  unfold selectTail at read
  rw [bind_eq_ok] at read
  obtain ⟨group, t₁, readGroup, read⟩ := read
  rw [bind_eq_ok] at read
  obtain ⟨cluster, t₂, readCluster, read⟩ := read
  rw [bind_eq_ok] at read
  obtain ⟨distribute, t₃, readDistribute, read⟩ := read
  rw [bind_eq_ok] at read
  obtain ⟨sort, t₄, readSort, read⟩ := read
  rw [bind_eq_ok] at read
  obtain ⟨having, t₅, readHaving, read⟩ := read
  rw [bind_eq_ok] at read
  obtain ⟨windows, t₆, readWindows, read⟩ := read
  rw [bind_eq_ok] at read
  obtain ⟨qualify, t₇, readQualify, read⟩ := read
  split at read
  · next qualified =>
      obtain ⟨last, t₈, -, whole⟩ := bind_eq_ok.1 read
      cases whole
      simp_all
  · cases read
    simp only [List.any_cons, List.any_nil, Bool.or_eq_false_iff, Option.isSome_eq_false_iff,
      Option.isNone_iff_eq_none] at ungrouped nothing
    obtain ⟨rfl, rfl⟩ := ungrouped
    obtain ⟨rfl, rfl, rfl, rfl, rfl, -⟩ := nothing
    refine ⟨rfl, ?_⟩
    obtain rfl := afterKeywords?_eq_none readGroup
    obtain rfl := afterKeywords?_eq_none readCluster
    obtain rfl := afterKeywords?_eq_none readDistribute
    obtain rfl := afterKeywords?_eq_none readSort
    obtain rfl := afterKeyword?_eq_none readHaving
    obtain rfl := afterKeyword?_eq_none readWindows
    exact afterKeyword?_eq_none readQualify

/-- A query that is combined with no other takes nothing. -/
theorem combinations_eq_false {body : Nat → Parse Fragment} {rank n : Nat} {first whole : Fragment}
    (h : combinations body rank n first rest = .ok ((whole, false), left)) : left = rest := by
  cases n with
  | zero =>
      cases h
      rfl
  | succ n =>
      simp only [combinations] at h
      split at h
      · cases h
        rfl
      · split at h
        · cases h
          rfl
        · obtain ⟨quantifier, t₁, -, h⟩ := bind_eq_ok.1 h
          obtain ⟨right, t₂, -, h⟩ := bind_eq_ok.1 h
          obtain ⟨all, t₃, -, h⟩ := bind_eq_ok.1 h
          cases h

/-- No limit is either no clause or the words that ask for all rows. -/
theorem limitClause_eq_none {known : Option Expr}
    (h : limitClause inner known rest = .ok (none, left)) : known = none ∧ AllRows 1 rest left := by
  cases known with
  | some e => cases h
  | none =>
      refine ⟨rfl, ?_⟩
      obtain ⟨found, t₁, first, second⟩ := bind_eq_ok.1 h
      cases found with
      | false =>
          cases second
          obtain rfl := accept_eq_false first
          exact .none
      | true =>
          obtain ⟨limit, rfl, limited⟩ := accept_eq_true first
          obtain ⟨every, t₂, third, fourth⟩ := bind_eq_ok.1 second
          cases every with
          | false =>
              obtain ⟨⟨e, more⟩, -, whole⟩ := EntityQuery.bind_eq_ok.1 fourth
              cases whole
          | true =>
              obtain ⟨all, rfl, unlimited⟩ := accept_eq_true third
              cases fourth
              exact .limit limited unlimited .none

theorem offsetClause_eq_none {known : Option (Expr × String)}
    (h : offsetClause inner known rest = .ok (none, left)) : known = none ∧ left = rest := by
  cases known with
  | some e => cases h
  | none => exact ⟨rfl, afterKeyword?_eq_none h⟩

theorem forClauses_eq_nil {n : Nat} (h : forClauses n rest = .ok ([], left)) : left = rest := by
  cases n with
  | zero =>
      cases h
      rfl
  | succ n =>
      obtain ⟨found, middle, first, second⟩ := bind_eq_ok.1 h
      cases found with
      | true =>
          obtain ⟨⟨clause, isLock⟩, t, -, second⟩ := bind_eq_ok.1 second
          cases isLock with
          | true =>
              obtain ⟨⟨others, more⟩, -, whole⟩ := EntityQuery.bind_eq_ok.1 second
              cases whole
          | false => cases second
      | false =>
          cases second
          exact accept_eq_false first

theorem semicolons_cons {x : Lexeme} {more : List Lexeme} (h : x.token.isSymbol ";" = true) :
    semicolons (x :: more) = .ok (true, more.dropWhile (·.token.isSymbol ";")) := by
  have shorter := List.length_dropWhile_le (fun l : Lexeme => l.token.isSymbol ";") more
  simp only [semicolons, List.dropWhile_cons, h, if_true, List.length_cons, Except.ok.injEq,
    Prod.mk.injEq, decide_eq_true_eq, and_true]
  omega

section

variable {n : Nat} {x : Lexeme} {more : List Lexeme}

theorem statementsWithin_of_end {separated : Bool} (h : semicolons rest = .ok (separated, [])) :
    statementsWithin inner (n + 1) true rest = .ok (0, []) := by
  rw [statementsWithin, bind_of_ok h]
  rfl

/-- Behind a semicolon everything is a statement. -/
theorem statementsWithin_of_semicolon (h : semicolons rest = .ok (true, x :: more)) :
    statementsWithin inner (n + 1) true rest ≠ .ok (0, left) := by
  rw [statementsWithin, bind_of_ok h, bind_of_ok (p := peek?) rfl]
  intro read
  obtain ⟨⟨⟩, t₁, -, read⟩ := bind_eq_ok.1 read
  obtain ⟨⟨count, t₂⟩, -, whole⟩ := EntityQuery.bind_eq_ok.1 read
  cases whole

/-- Right behind a statement only the closing keyword ends it. -/
theorem statementsWithin_of_not_semicolon (h : semicolons rest = .ok (false, x :: more)) :
    statementsWithin inner (n + 1) true rest = .ok (0, left) ↔
      left = x :: more ∧ x.token.isKeyword "END" := by
  rw [statementsWithin, bind_of_ok h, bind_of_ok (p := peek?) rfl]
  cases closing : x.token.isKeyword "END" with
  | false => simp [closing, expected]
  | true =>
      simp only [List.head?_cons, Option.map_some, Bool.not_true, Bool.or_self, Bool.false_eq_true,
        if_false, closing, if_true, pure_apply, and_true, Except.ok.injEq, Prod.mk.injEq, true_and]
      exact eq_comm

/-- Behind a semicolon no statement stands if only further semicolons do. -/
theorem statementsWithin_of_semicolons (h : x.token.isSymbol ";") :
    statementsWithin inner (n + 1) true (x :: more) = .ok (0, left) ↔
      left = [] ∧ ∀ l ∈ more, l.token.isSymbol ";" := by
  have behind : semicolons (x :: more) = .ok (true, more.dropWhile (·.token.isSymbol ";")) :=
    semicolons_cons h
  rw [← List.dropWhile_eq_nil_iff]
  cases further : more.dropWhile (·.token.isSymbol ";") with
  | nil =>
      rw [further] at behind
      rw [statementsWithin_of_end behind]
      constructor
      · intro read
        cases read
        exact ⟨rfl, rfl⟩
      · rintro ⟨rfl, -⟩
        rfl
  | cons y later =>
      rw [further] at behind
      constructor
      · intro read
        exact absurd read (statementsWithin_of_semicolon behind)
      · rintro ⟨-, ⟨⟩⟩

theorem endsStatement_of_semicolon (h : x.token.isSymbol ";") :
    EndsStatement (x :: more) left ↔ left = [] ∧ ∀ l ∈ more, l.token.isSymbol ";" := by
  constructor
  · rintro (⟨rfl, all⟩ | ⟨-, l, ⟨⟩, closing⟩)
    · exact ⟨rfl, (List.forall_mem_cons.1 all).2⟩
    · cases token : x.token <;> simp_all [Token.isSymbol, Token.isKeyword]
  · rintro ⟨rfl, all⟩
    exact .inl ⟨rfl, List.forall_mem_cons.2 ⟨h, all⟩⟩

theorem endsStatement_of_not_semicolon (h : x.token.isSymbol ";" = false) :
    EndsStatement (x :: more) left ↔ left = x :: more ∧ x.token.isKeyword "END" := by
  constructor
  · rintro (⟨-, all⟩ | ⟨rfl, l, ⟨⟩, closing⟩)
    · rw [all x List.mem_cons_self] at h
      cases h
    · exact ⟨rfl, closing⟩
  · rintro ⟨rfl, closing⟩
    exact .inr ⟨rfl, x, rfl, closing⟩

end

/-- No further statement stands behind a statement exactly if it ends there. -/
theorem statementsWithin_eq_zero :
    statementsWithin inner rest.length true rest = .ok (0, left) ↔ EndsStatement rest left := by
  cases rest with
  | nil =>
      constructor
      · intro read
        cases read
        exact .inl ⟨rfl, List.forall_mem_nil _⟩
      · rintro (⟨rfl, -⟩ | ⟨rfl, l, mem, -⟩)
        · rfl
        · cases mem
  | cons x more =>
      rw [List.length_cons]
      cases separator : x.token.isSymbol ";" with
      | false =>
          have alone : semicolons (x :: more) = .ok (false, x :: more) := by
            simp [semicolons, separator]
          rw [statementsWithin_of_not_semicolon alone, endsStatement_of_not_semicolon separator]
      | true =>
          rw [statementsWithin_of_semicolons separator, endsStatement_of_semicolon separator]

end Parse

end EntityQuery.ConditionText
