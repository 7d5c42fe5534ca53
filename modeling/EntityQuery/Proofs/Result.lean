import Mathlib.Data.List.Forall2

/-!
# Results taken apart

A computation that may fail gives a result exactly if each of its steps does. Two computations
correspond if they fail with the same error or give related results; what is put together of
corresponding steps corresponds again.
-/

namespace EntityQuery

variable {ε α β : Type}

theorem bind_eq_ok {x : Except ε α} {f : α → Except ε β} {b : β} :
    (x >>= f) = .ok b ↔ ∃ a, x = .ok a ∧ f a = .ok b := by
  cases x with
  | error e =>
      constructor
      · intro h
        cases h
      · rintro ⟨_, h, _⟩
        cases h
  | ok a =>
      constructor
      · intro h
        exact ⟨a, rfl, h⟩
      · rintro ⟨_, h, rest⟩
        cases h
        exact rest

theorem fails_iff {x : Except ε α} : (∃ e, x = .error e) ↔ ¬ ∃ a, x = .ok a := by
  cases x <;> simp

theorem map_eq_ok {x : Except ε α} {f : α → β} {b : β} :
    x.map f = .ok b ↔ ∃ a, x = .ok a ∧ f a = b := by
  cases x <;> simp [Except.map]

theorem mapM_eq_ok {f : α → Except ε β} {as : List α} {bs : List β} :
    as.mapM f = .ok bs ↔ List.Forall₂ (fun a b => f a = .ok b) as bs := by
  induction as generalizing bs with
  | nil => cases bs <;> simp [pure, Except.pure]
  | cons a as ih =>
      rw [List.mapM_cons, bind_eq_ok]
      constructor
      · rintro ⟨b, first, rest⟩
        obtain ⟨bs, further, last⟩ := bind_eq_ok.1 rest
        cases last
        exact .cons first (ih.1 further)
      · rintro (_ | ⟨first, further⟩)
        exact ⟨_, first, bind_eq_ok.2 ⟨_, ih.2 further, rfl⟩⟩

/-- A computation on each of some values succeeds exactly if it does on every one of them. -/
theorem mapM_ok_iff {f : α → Except ε β} {as : List α} :
    (∃ bs, as.mapM f = .ok bs) ↔ ∀ a ∈ as, ∃ b, f a = .ok b := by
  induction as with
  | nil => simp [pure, Except.pure]
  | cons a as ih =>
      rw [List.forall_mem_cons, ← ih, List.mapM_cons]
      simp only [bind_eq_ok]
      constructor
      · rintro ⟨_, b, first, bs, rest, -⟩
        exact ⟨⟨b, first⟩, bs, rest⟩
      · rintro ⟨⟨b, first⟩, bs, rest⟩
        exact ⟨b :: bs, b, first, bs, rest, rfl⟩

/-- A computation on each of some values fails exactly if it fails on one of them and on none in
front of it. -/
theorem mapM_eq_error {f : α → Except ε β} {as : List α} {e : ε} :
    as.mapM f = .error e ↔
      ∃ before a after, as = before ++ a :: after ∧ (∀ b ∈ before, ∃ c, f b = .ok c) ∧
        f a = .error e := by
  induction as with
  | nil => simp [pure, Except.pure]
  | cons a as ih =>
      rw [List.mapM_cons]
      cases first : f a with
      | error e' =>
          constructor
          · rintro ⟨⟩
            exact ⟨[], a, as, rfl, by simp, first⟩
          · rintro ⟨_ | ⟨b, before⟩, c, after, split, passed, failed⟩
            · obtain ⟨rfl, -⟩ := List.cons.inj split
              rw [first] at failed
              cases failed
              rfl
            · obtain ⟨rfl, -⟩ := List.cons.inj split
              obtain ⟨d, passed⟩ := passed a List.mem_cons_self
              cases first.symm.trans passed
      | ok b =>
          have rest : (Except.ok b >>= fun b => as.mapM f >>= fun bs => pure (b :: bs)) = .error e ↔
              as.mapM f = .error e := by
            cases as.mapM f with
            | error e' => exact Iff.rfl
            | ok bs => exact iff_of_false (by rintro ⟨⟩) (by rintro ⟨⟩)
          rw [rest, ih]
          constructor
          · rintro ⟨before, c, after, rfl, passed, failed⟩
            exact ⟨a :: before, c, after, rfl, List.forall_mem_cons.2 ⟨⟨b, first⟩, passed⟩, failed⟩
          · rintro ⟨_ | ⟨d, before⟩, c, after, split, passed, failed⟩
            · obtain ⟨rfl, -⟩ := List.cons.inj split
              cases first.symm.trans failed
            · obtain ⟨rfl, rfl⟩ := List.cons.inj split
              exact ⟨before, c, after, rfl, (List.forall_mem_cons.1 passed).2, failed⟩

/-- A computation on each of some values fails only if it fails on one of them. -/
theorem mapM_error {f : α → Except ε β} {as : List α} {e : ε} (h : as.mapM f = .error e) :
    ∃ a ∈ as, f a = .error e := by
  obtain ⟨before, a, after, rfl, -, failed⟩ := mapM_eq_error.1 h
  exact ⟨a, List.mem_append_cons_self, failed⟩

theorem mapM_eq_some {f : α → Option β} {as : List α} {bs : List β} :
    as.mapM f = some bs ↔ List.Forall₂ (fun a b => f a = some b) as bs := by
  induction as generalizing bs with
  | nil => cases bs <;> simp
  | cons a as ih =>
      rw [List.mapM_cons, Option.bind_eq_bind, Option.bind_eq_some_iff]
      constructor
      · rintro ⟨b, first, rest⟩
        obtain ⟨bs, further, last⟩ := Option.bind_eq_some_iff.1 rest
        cases last
        exact .cons first (ih.1 further)
      · rintro (_ | ⟨first, further⟩)
        exact ⟨_, first, Option.bind_eq_some_iff.2 ⟨_, ih.2 further, rfl⟩⟩

/-- What a relation says of the right sides alone holds of every one of them. -/
theorem forall_of_forall₂ {R : α → β → Prop} {P : β → Prop} {as : List α} {bs : List β}
    (each : List.Forall₂ R as bs) (right : ∀ a b, R a b → P b) : ∀ b ∈ bs, P b := by
  induction each with
  | nil => simp
  | cons first further ih => exact List.forall_mem_cons.2 ⟨right _ _ first, ih⟩

/-- Two computations fail with the same error, or give related results. -/
inductive Corresponds (R : α → β → Prop) : Except ε α → Except ε β → Prop
  | ok {a : α} {b : β} (related : R a b) : Corresponds R (.ok a) (.ok b)
  | error (e : ε) : Corresponds R (.error e) (.error e)

namespace Corresponds

variable {γ δ : Type} {R : α → β → Prop} {S : γ → δ → Prop} {x : Except ε α} {y : Except ε β}

theorem bind {f : α → Except ε γ} {g : β → Except ε δ} (first : Corresponds R x y)
    (second : ∀ a b, R a b → Corresponds S (f a) (g b)) : Corresponds S (x >>= f) (y >>= g) := by
  cases first with
  | ok related => exact second _ _ related
  | error e => exact .error e

theorem mapM {f : γ → Except ε α} {g : δ → Except ε β} {as : List γ} {bs : List δ}
    (each : List.Forall₂ (fun a b => Corresponds R (f a) (g b)) as bs) :
    Corresponds (List.Forall₂ R) (as.mapM f) (bs.mapM g) := by
  induction each with
  | nil => exact .ok .nil
  | cons first further ih =>
      rw [List.mapM_cons, List.mapM_cons]
      refine first.bind fun a b related => ?_
      refine ih.bind fun as bs relatedAll => ?_
      exact .ok (.cons related relatedAll)

end Corresponds

/-- Two computations fail with the same error, or neither of them fails. -/
abbrev FailsAs (x : Except ε α) (y : Except ε β) : Prop := Corresponds (fun _ _ => True) x y

namespace FailsAs

variable {γ δ : Type} {x : Except ε α} {y : Except ε β} {z : Except ε γ}

theorem error_iff (h : FailsAs x y) {e : ε} : x = .error e ↔ y = .error e := by
  cases h with
  | ok => exact iff_of_false (by rintro ⟨⟩) (by rintro ⟨⟩)
  | error e' => simp only [Except.error.injEq]

theorem ok_iff (h : FailsAs x y) : (∃ a, x = .ok a) ↔ ∃ b, y = .ok b := by
  cases h with
  | ok => exact iff_of_true ⟨_, rfl⟩ ⟨_, rfl⟩
  | error e => exact iff_of_false (by rintro ⟨_, ⟨⟩⟩) (by rintro ⟨_, ⟨⟩⟩)

theorem trans (h : FailsAs x y) (h' : FailsAs y z) : FailsAs x z := by
  cases h with
  | ok =>
      cases h' with
      | ok => exact .ok trivial
  | error e =>
      cases h' with
      | error => exact .error e

/-- What succeeds with one result or another fails as it did. -/
theorem map (h : FailsAs x y) (f : α → γ) (g : β → δ) :
    FailsAs (x >>= fun a => .ok (f a)) (y >>= fun b => .ok (g b)) :=
  h.bind fun _ _ _ => .ok trivial

theorem of_map (h : FailsAs x y) (f : α → γ) : FailsAs (x >>= fun a => .ok (f a)) y := by
  cases h with
  | ok => exact .ok trivial
  | error e => exact .error e

theorem single (f : γ → Except ε α) (a : γ) : FailsAs (f a) ([a].mapM f) := by
  rw [List.mapM_cons, List.mapM_nil]
  cases f a with
  | ok b => exact .ok trivial
  | error e => exact .error e

/-- What is done with some values, and then with others, fails as with all of them. -/
theorem append {f : γ → Except ε δ} {as bs : List γ} (first : FailsAs x (as.mapM f))
    (second : FailsAs y (bs.mapM f)) {α' : Type} (g : α → β → α') :
    FailsAs (x >>= fun a => y >>= fun b => .ok (g a b)) ((as ++ bs).mapM f) := by
  rw [List.mapM_append]
  exact first.bind fun a cs _ => second.map (g a) (cs ++ ·)

/-- What is done with each of some values fails as with all their parts in a row, if it fails on
every one of them as with the parts of that one. -/
theorem flatMap {f : γ → Except ε α} {g : δ → Except ε β} {parts : γ → List δ} {as : List γ}
    (each : ∀ a ∈ as, FailsAs (f a) ((parts a).mapM g)) :
    FailsAs (as.mapM f) ((as.flatMap parts).mapM g) := by
  induction as with
  | nil => exact .ok trivial
  | cons a as ih =>
      obtain ⟨own, others⟩ := List.forall_mem_cons.1 each
      rw [List.mapM_cons, List.flatMap_cons]
      exact own.append (ih others) List.cons

end FailsAs

end EntityQuery
