import EntityQuery.Proofs.Passing.Known
import EntityQuery.Proofs.Reading.Tail

/-!
# What reading passes

Reading something passes the tokens at the front, and the places of what it gives back are those of
tokens that have been passed: by this reading, or before it if they were known. That is `Passes`,
the contract of all readings whose results end up in an expression. It is kept by every way to put
readings together, where what a part gives back is known to the rest. So the contract of a reading
that is made of others is found by its form, and needs a proof of its own only where the tokens that
are left are looked at themselves.
-/

namespace EntityQuery.ConditionText

theorem Parse.attempt_eq_some {α : Type} {p : Parse α} {ls rest : List Lexeme} {a : α}
    (h : attempt p ls = .ok (some a, rest)) : p ls = .ok (a, rest) := by
  unfold attempt at h
  split at h
  · next success =>
      cases h
      exact success
  · cases h
  · cases h

theorem Parse.attempt_eq_none {α : Type} {p : Parse α} {ls rest : List Lexeme}
    (h : attempt p ls = .ok (none, rest)) : rest = ls := by
  unfold attempt at h
  split at h <;> cases h
  rfl

variable {α β γ : Type} [Placed α] [Placed β] [Placed γ] {K : Known}

/-- A reading passes tokens, and the places of its results are those of tokens that are passed or of
what is known. -/
class Passes (K : Known) (p : Parse α) : Prop where
  passes : ∀ before ls a rest, K.Holds before → p ls = .ok (a, rest) →
    ∃ ts, ls = ts ++ rest ∧ ∀ s ∈ spans a, Within (before ++ ts) s

namespace Passes

variable {p : Parse α} {f : α → Parse β} {q : Parse β}

/-- What is left is an end of what was there. -/
theorem suffix [h : Passes .nothing p] {ls rest : List Lexeme} {a : α}
    (read : p ls = .ok (a, rest)) : rest <:+ ls := by
  obtain ⟨ts, rfl, -⟩ := h.passes [] ls a rest (Known.holds_nothing []) read
  exact List.suffix_append ts rest

/-- What is read has its places from the tokens that it is read from. -/
theorem within [h : Passes .nothing p] {ls rest : List Lexeme} {a : α}
    (read : p ls = .ok (a, rest)) : ∃ ts, ls = ts ++ rest ∧ ∀ s ∈ spans a, Within ts s :=
  h.passes [] ls a rest (Known.holds_nothing []) read

/-- Every result is the result of a reading that keeps the contract. -/
theorem of_results (h : ∀ {ls a rest}, p ls = .ok (a, rest) →
    ∃ q : Parse α, Passes K q ∧ q ls = .ok (a, rest)) : Passes K p := by
  constructor
  intro before ls a rest known read
  obtain ⟨q, keeps, same⟩ := h read
  exact keeps.passes before ls a rest known same

theorem bind (first : Passes K p) (next : ∀ a, Passes (K.and a) (f a)) : Passes K (p >>= f) := by
  constructor
  intro before ls b rest known read
  obtain ⟨a, middle, readA, readB⟩ := Parse.bind_eq_ok.1 read
  obtain ⟨ts, rfl, places⟩ := first.passes before ls a middle known readA
  obtain ⟨us, rfl, places'⟩ := (next a).passes (before ++ ts) middle b rest
    (Known.holds_and.2 ⟨known.mono (List.subset_append_left _ _), places⟩) readB
  exact ⟨ts ++ us, (List.append_assoc _ _ _).symm, by rwa [← List.append_assoc]⟩

/-- What is left may be looked at. -/
theorem get {f : List Lexeme → Parse β} (next : ∀ ts, Passes K (f ts)) : Passes K (get >>= f) :=
  ⟨fun before ls => (next ls).passes before ls⟩

theorem ite {c : Prop} [Decidable c] {p q : Parse α} (yes : Passes K p) (no : Passes K q) :
    Passes K (if c then p else q) := by
  split
  · exact yes
  · exact no

/-- A reading that passes nothing. -/
theorem of_unmoved (unmoved : ∀ {ls a rest}, p ls = .ok (a, rest) → rest = ls ∧ K.Has a) :
    Passes K p := by
  constructor
  intro before ls a rest known read
  obtain ⟨rfl, has⟩ := unmoved read
  exact ⟨[], rfl, fun s mem => (has.tells s mem before known).mono (List.subset_append_left _ _)⟩

/-- A reading that passes tokens and gives nothing that has a place. -/
theorem of_suffix (unplaced : ∀ a : α, spans a = [])
    (suffix : ∀ {ls a rest}, p ls = .ok (a, rest) → rest <:+ ls) : Passes K p := by
  constructor
  intro before ls a rest _ read
  obtain ⟨ts, rfl⟩ := suffix read
  exact ⟨ts, rfl, by rw [unplaced]; rintro _ ⟨⟩⟩

/-- More may be known in front. -/
theorem weaken (b : γ) (h : Passes K p) : Passes (K.and b) p :=
  ⟨fun before ls a rest known => h.passes before ls a rest (Known.holds_and.1 known).1⟩

end Passes

namespace Parse

variable {p : Parse α} {f : α → Parse β} {q : Parse β}

/-! ## Putting readings together -/

instance passes_bind [first : Passes K p] [next : ∀ a, Passes (K.and a) (f a)] :
    Passes K (p >>= f) := first.bind next

instance passes_pure {a : α} [has : K.Has a] : Passes K (pure a : Parse α) :=
  .of_unmoved fun read => by
    cases read
    exact ⟨rfl, has⟩

instance passes_map {f : α → β} [Passes K p] [∀ a, (K.and a).Has (f a)] : Passes K (f <$> p) :=
  inferInstanceAs (Passes K (p >>= fun a => pure (f a)))

instance passes_discard [Passes K p] : Passes K (Functor.discard p) :=
  inferInstanceAs (Passes K (p >>= fun _ => pure ()))

instance passes_seqLeft [Passes K p] [second : Passes K q] : Passes K (p <* q) := by
  have (a : α) : Passes (K.and a) q := second.weaken a
  exact inferInstanceAs (Passes K (p >>= fun a => q >>= fun _ => pure a))

instance passes_ite {c : Prop} [Decidable c] {p q : Parse α} [yes : Passes K p]
    [no : Passes K q] : Passes K (if c then p else q) := yes.ite no

instance passes_get {f : List Lexeme → Parse β} [next : ∀ ts, Passes K (f ts)] :
    Passes K (get >>= f) := .get next

instance passes_fail (fault : Failure) : Passes K (fail fault : Parse α) :=
  .of_unmoved fun read => by cases read

instance passes_expected (what : String) : Passes K (expected what : Parse α) :=
  .of_unmoved fun read => by cases read

/-! ## Single tokens -/

instance passes_place : Passes K place :=
  .of_unmoved fun read => by
    cases read
    exact ⟨rfl, ⟨by simp [spans]⟩⟩

instance passes_peek? : Passes K peek? :=
  .of_unmoved fun read => by
    cases read
    exact ⟨rfl, ⟨by simp [spans]⟩⟩

instance passes_nextIs (kind : Token → Bool) : Passes K (nextIs kind) :=
  .of_unmoved fun read => by
    unfold nextIs at read
    split at read <;> cases read <;> exact ⟨rfl, inferInstance⟩

instance passes_take? (kind : Token → Bool) : Passes K (take? kind) := by
  constructor
  intro before ls l? rest _ read
  unfold take? at read
  split at read
  · next l more =>
      split at read
      · cases read
        refine ⟨[l], rfl, fun s mem => ?_⟩
        obtain rfl : s = some l.extent := by simpa [spans] using mem
        exact .token (List.mem_append_right _ (List.mem_singleton_self l))
      · cases read
        exact ⟨[], rfl, by rintro _ ⟨⟩⟩
  · cases read
    exact ⟨[], rfl, by rintro _ ⟨⟩⟩

instance passes_accept (kind : Token → Bool) : Passes K (accept kind) :=
  .of_suffix (fun _ => rfl) fun {_ taken _} read => by
    cases taken with
    | false =>
        obtain rfl := accept_eq_false read
        exact List.suffix_rfl
    | true =>
        obtain ⟨x, rfl, -⟩ := accept_eq_true read
        exact List.suffix_cons x _

instance passes_keyword (key : String) : Passes K (keyword key) := passes_accept _

instance passes_symbol (text : String) : Passes K (symbol text) := passes_accept _

theorem suffix_of_afterKeywords {keys : List String} {ls rest : List Lexeme}
    (h : afterKeywords keys ls = some rest) : rest <:+ ls := by
  induction keys generalizing ls with
  | nil =>
      cases h
      exact List.suffix_rfl
  | cons key keys ih =>
      cases ls with
      | nil => cases h
      | cons l ls =>
          simp only [afterKeywords] at h
          split at h
          · exact (ih h).trans (List.suffix_cons l ls)
          · cases h

instance passes_keywords (keys : List String) : Passes K (keywords keys) :=
  .of_suffix (fun _ => rfl) fun read => by
    unfold keywords at read
    split at read
    · next after =>
        cases read
        exact suffix_of_afterKeywords after
    · cases read
      exact List.suffix_rfl

instance passes_oneOf? (keys : List String) : Passes K (oneOf? keys) :=
  .of_suffix (fun | none => rfl | some _ => rfl) fun read => by
    unfold oneOf? at read
    split at read
    · split at read <;> cases read
      · exact List.suffix_cons _ _
      · exact List.suffix_rfl
    · cases read
      exact List.suffix_rfl

instance passes_skipAny : Passes K skipAny :=
  .of_suffix (fun _ => rfl) fun read => by
    cases read
    exact List.drop_suffix 1 _

instance passes_expectKeyword (key : String) : Passes K (expectKeyword key) := by
  unfold expectKeyword
  infer_instance

instance passes_expectKeywords (keys : List String) : Passes K (expectKeywords keys) := by
  induction keys generalizing K with
  | nil => exact passes_pure
  | cons key keys ih => exact inferInstanceAs (Passes K (expectKeyword key >>= fun _ => _))

instance passes_expectOneOf (keys : List String) : Passes K (expectOneOf keys) := by
  unfold expectOneOf
  refine .bind inferInstance fun _ => ?_
  split <;> infer_instance

instance passes_expectSymbol (text : String) : Passes K (expectSymbol text) := by
  unfold expectSymbol
  infer_instance

/-- A token that is looked at and then asked for is passed. -/
theorem passes_asked {text : String} {f : List Lexeme → Parse β}
    (next : ∀ l ls, Passes (K.and (some l)) (f (l :: ls))) :
    Passes K (get >>= fun ls => expectSymbol text >>= fun _ => f ls) := by
  constructor
  intro before ls b rest known read
  rw [bind_of_ok (get_apply ls)] at read
  obtain ⟨_, middle, asked, read⟩ := bind_eq_ok.1 read
  obtain ⟨taken, _, found, done⟩ := bind_eq_ok.1 asked
  cases taken with
  | false => cases done
  | true =>
      cases done
      obtain ⟨l, rfl, -⟩ := accept_eq_true found
      obtain ⟨ts, same, places⟩ :=
        (next l middle).passes (before ++ [l]) middle b rest (known.token l) read
      refine ⟨l :: ts, congrArg (l :: ·) same, ?_⟩
      rwa [List.append_assoc] at places

/-! ## Forms of readings -/

instance passes_attempt [h : Passes K p] : Passes K (attempt p) := by
  constructor
  intro before ls a? rest known read
  unfold attempt at read
  split at read
  · next success =>
      cases read
      obtain ⟨ts, same, places⟩ := h.passes before ls _ _ known success
      exact ⟨ts, same, by rwa [spans_some]⟩
  · cases read
  · cases read
    exact ⟨[], rfl, by rintro _ ⟨⟩⟩

theorem passes_separatedAtMost (h : Passes K p) (n : Nat) : Passes K (separatedAtMost p n) := by
  induction n with
  | zero => exact inferInstanceAs (Passes K (p >>= fun a => pure [a]))
  | succ n ih =>
      unfold separatedAtMost
      refine .bind h fun a => .bind inferInstance fun comma => ?_
      have := (ih.weaken a).weaken comma
      infer_instance

instance passes_separated [h : Passes K p] : Passes K (separated p) :=
  ⟨fun before ls => (passes_separatedAtMost h ls.length).passes before ls⟩

theorem passes_whileSomeAtMost {p : Parse (Option α)} (h : Passes K p) (n : Nat) :
    Passes K (whileSomeAtMost p n) := by
  induction n with
  | zero => exact passes_pure
  | succ n ih =>
      unfold whileSomeAtMost
      refine .bind h fun a? => ?_
      split
      · next a =>
          have := ih.weaken (some a)
          infer_instance
      · infer_instance

instance passes_whileSome {p : Parse (Option α)} [h : Passes K p] : Passes K (whileSome p) :=
  ⟨fun before ls => (passes_whileSomeAtMost h ls.length).passes before ls⟩

instance passes_parenthesised [h : Passes K p] : Passes K (parenthesised p) := by
  have := h.weaken ()
  unfold parenthesised
  infer_instance

instance passes_afterKeyword? (key : String) [h : Passes K p] : Passes K (afterKeyword? key p) := by
  have (found : Bool) := h.weaken found
  unfold afterKeyword?
  infer_instance

instance passes_afterKeywords? (keys : List String) [h : Passes K p] :
    Passes K (afterKeywords? keys p) := by
  have (found : Bool) := h.weaken found
  unfold afterKeywords?
  infer_instance

instance passes_afterSymbol? (text : String) [h : Passes K p] : Passes K (afterSymbol? text p) := by
  have (found : Bool) := h.weaken found
  unfold afterSymbol?
  infer_instance

end Parse

end EntityQuery.ConditionText
