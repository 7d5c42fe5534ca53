import EntityQuery.Persister

/-!
# What a persister remembers is true

A cache agrees with a catalog if every mapping in it is the one that the catalog has. An empty cache
agrees, and every resolution keeps agreement; under it a resolution answers what the catalog
answers, so nothing that is read through a persister depends on what has been read before.
-/

namespace EntityQuery

/-- Every remembered mapping is the one of the catalog. -/
def FieldCache.Agrees (cache : FieldCache) (catalog : Catalog) : Prop :=
  ∀ entity field mapping, cache.find? entity field = some mapping →
    catalog.mapping? entity field = some mapping

namespace FieldCache.Agrees

variable {cache : FieldCache} {catalog : Catalog} {entity field : String} {mapping : FieldMapping}

theorem empty (catalog : Catalog) : Agrees {} catalog := by
  intro entity field mapping found
  cases found

theorem keep (h : Agrees cache catalog) (known : catalog.mapping? entity field = some mapping) :
    Agrees (cache.keep entity field mapping).2 catalog := by
  unfold FieldCache.keep
  cases cached : cache.find? entity field with
  | some kept => exact h
  | none =>
      intro entity' field' mapping' found
      simp only [find?, List.find?_cons] at found
      split at found
      · next same =>
          simp only [Bool.and_eq_true, beq_iff_eq] at same
          obtain ⟨rfl, rfl⟩ := same
          cases found
          exact known
      · exact h entity' field' mapping' found

/-- The answer of a resolution is the one of the catalog. -/
theorem resolve_eq (h : Agrees cache catalog)
    (known : catalog.mapping? entity field = some mapping) :
    (cache.resolve catalog entity field).1 = .ok mapping := by
  unfold FieldCache.resolve
  cases cached : cache.find? entity field with
  | some kept =>
      have same := (h entity field kept cached).symm.trans known
      cases same
      rfl
  | none => simp [known, FieldCache.keep, cached]

theorem resolve (h : Agrees cache catalog) :
    Agrees (cache.resolve catalog entity field).2 catalog := by
  unfold FieldCache.resolve
  split
  · exact h
  · have asked : Agrees cache.countLookup catalog := h
    split
    · exact asked
    · next known => exact asked.keep known

end FieldCache.Agrees

namespace Lookup

theorem perform_bind {α β : Type} (l : Lookup α) (f : α → Lookup β) (memo : Memo) :
    (l >>= f).perform memo = match l.perform memo with
      | (.ok a, next) => (f a).perform next
      | (.error e, next) => (.error e, next) := by
  simp only [perform, bind, ExceptT.bind, ExceptT.mk, ExceptT.bindCont, StateT.bind]
  cases l memo with
  | mk result next => cases result <;> rfl

section

variable {α β : Type} {r : QueryResult α} {f : α → Lookup β} {memo after : Memo}

/-- A result in front of an operation has to be there, and what is remembered stays for the
operation. -/
theorem perform_ofResult_bind_ok {b : β} :
    (Lookup.ofResult r >>= f).perform memo = (.ok b, after) ↔
      ∃ a, r = .ok a ∧ (f a).perform memo = (.ok b, after) := by
  cases r with
  | ok a => exact ⟨fun done => ⟨a, rfl, done⟩, fun ⟨_, same, done⟩ => Except.ok.inj same ▸ done⟩
  | error e => exact ⟨nofun, nofun⟩

theorem perform_ofResult_bind_error {e : QueryError}
    (failed : (Lookup.ofResult r >>= f).perform memo = (.error e, after)) :
    r = .error e ∨ ∃ a, r = .ok a ∧ (f a).perform memo = (.error e, after) := by
  cases r with
  | ok a => exact .inr ⟨a, rfl, failed⟩
  | error e' =>
      cases failed
      exact .inl rfl

end

/-- An operation gives a result whatever is remembered of the catalog, and what it leaves behind is
again remembered of the catalog. -/
def Gives {α : Type} (catalog : Catalog) (l : Lookup α) (a : α) : Prop :=
  ∀ memo : Memo, memo.fields.Agrees catalog →
    ∃ after : Memo, l.perform memo = (.ok a, after) ∧ after.fields.Agrees catalog

namespace Gives

variable {α β : Type} {catalog : Catalog} {l : Lookup α} {a : α} {b : β}

theorem ofResult {r : QueryResult α} (h : r = .ok a) : Gives catalog (Lookup.ofResult r) a :=
  fun memo agrees => ⟨memo, by rw [h]; rfl, agrees⟩

theorem pure (a : α) : Gives catalog (Pure.pure a) a := fun memo agrees => ⟨memo, rfl, agrees⟩

theorem bind {f : α → Lookup β} (first : Gives catalog l a) (second : Gives catalog (f a) b) :
    Gives catalog (l >>= f) b := by
  intro memo agrees
  obtain ⟨middle, done, agrees⟩ := first memo agrees
  obtain ⟨after, finished, agrees⟩ := second middle agrees
  refine ⟨after, ?_, agrees⟩
  rw [perform_bind, done]
  exact finished

end Gives

/-- An operation may come to a result: it does for something that is remembered. -/
def Answers {α : Type} (l : Lookup α) (r : QueryResult α) : Prop :=
  ∃ memo after : Memo, l.perform memo = (r, after)

namespace Answers

variable {α β : Type} {l : Lookup α} {f : α → Lookup β} {e : QueryError}

theorem of_ofResult {r s : QueryResult α} (h : (Lookup.ofResult r).Answers s) : r = s := by
  obtain ⟨memo, after, done⟩ := h
  cases done
  rfl

theorem bind_ok {b : β} (h : (l >>= f).Answers (.ok b)) :
    ∃ a, l.Answers (.ok a) ∧ (f a).Answers (.ok b) := by
  obtain ⟨memo, after, done⟩ := h
  rw [perform_bind] at done
  split at done
  · next a middle first => exact ⟨a, ⟨memo, middle, first⟩, middle, after, done⟩
  · cases done

/-- A failure comes from the first step or from the second one. -/
theorem bind_error (h : (l >>= f).Answers (.error e)) :
    l.Answers (.error e) ∨ ∃ a, l.Answers (.ok a) ∧ (f a).Answers (.error e) := by
  obtain ⟨memo, after, done⟩ := h
  rw [perform_bind] at done
  split at done
  · next a middle first => exact .inr ⟨a, ⟨memo, middle, first⟩, middle, after, done⟩
  · next first =>
      cases done
      exact .inl ⟨memo, after, first⟩

section

variable {γ : Type} {m : Lookup β} {g : α → β → γ}

theorem both_ok {c : γ} (h : (l >>= fun a => m >>= fun b => pure (g a b)).Answers (.ok c)) :
    (∃ a, l.Answers (.ok a)) ∧ ∃ b, m.Answers (.ok b) := by
  obtain ⟨a, first, rest⟩ := h.bind_ok
  obtain ⟨b, second, -⟩ := rest.bind_ok
  exact ⟨⟨a, first⟩, b, second⟩

theorem both_error (h : (l >>= fun a => m >>= fun b => pure (g a b)).Answers (.error e)) :
    l.Answers (.error e) ∨ m.Answers (.error e) := by
  obtain first | ⟨a, -, rest⟩ := h.bind_error
  · exact .inl first
  · obtain second | ⟨b, -, memo, after, done⟩ := rest.bind_error
    · exact .inr second
    · cases done

end

theorem mapM_ok {f : α → Lookup β} {as : List α} {bs : List β} (h : (as.mapM f).Answers (.ok bs)) :
    ∀ a ∈ as, ∃ b, (f a).Answers (.ok b) := by
  induction as generalizing bs with
  | nil => exact List.forall_mem_nil _
  | cons a as ih =>
      rw [List.mapM_cons] at h
      obtain ⟨first, bs, further⟩ := h.both_ok
      exact List.forall_mem_cons.2 ⟨first, ih further⟩

theorem mapM_error {f : α → Lookup β} {as : List α} (h : (as.mapM f).Answers (.error e)) :
    ∃ a ∈ as, (f a).Answers (.error e) := by
  induction as with
  | nil =>
      obtain ⟨memo, after, done⟩ := h
      cases done
  | cons a as ih =>
      rw [List.mapM_cons] at h
      obtain first | further := h.both_error
      · exact ⟨a, List.mem_cons_self, first⟩
      · obtain ⟨a', mem, failed⟩ := ih further
        exact ⟨a', List.mem_cons_of_mem a mem, failed⟩

end Answers

end Lookup

/-- A persister resolves every field that its catalog has. -/
theorem Persister.gives_resolve {p : Persister} {field : String} {mapping : FieldMapping}
    (known : p.catalog.mapping? p.entity field = some mapping) :
    Lookup.Gives p.catalog (p.resolve field) mapping := by
  intro memo agrees
  refine ⟨{ memo with fields := (memo.fields.resolve p.catalog p.entity field).2 }, ?_,
    agrees.resolve⟩
  rw [resolve_perform, agrees.resolve_eq known]

end EntityQuery
