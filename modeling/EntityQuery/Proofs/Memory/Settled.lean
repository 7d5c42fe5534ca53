import EntityQuery.Proofs.Memory
import EntityQuery.Proofs.Result

/-!
# Results that do not depend on what is remembered

An operation is settled for a persister if it comes to the same result whatever the persister
remembers, as long as all of it is true, and if it leaves true memories behind. The result of a
settled operation is then the one it has when nothing is remembered, `Lookup.fresh`, and `fresh`
takes operations that are put together to results that are put together the same way. So whatever is
said about such an operation can be said without a memory.
-/

namespace EntityQuery

namespace Lookup

/-- The result of an operation for which nothing is remembered. -/
def fresh {α : Type} (l : Lookup α) : QueryResult α := (l.perform {}).1

end Lookup

/-- Everything that is remembered is what the persister would find out anew. -/
structure Memo.Agrees (memo : Memo) (p : Persister) : Prop where
  fields : memo.fields.Agrees p.catalog
  identity : ∀ i, memo.identity = some i → p.identity.fresh = .ok i

/-- A persister that remembers nothing remembers nothing wrong. -/
theorem Memo.Agrees.empty (p : Persister) : Memo.Agrees {} p where
  fields := .empty p.catalog
  identity := by
    intro i remembered
    cases remembered

namespace Lookup

/-- The result of an operation does not depend on true memories, and it keeps them true. -/
def Settled {α : Type} (p : Persister) (l : Lookup α) : Prop :=
  ∀ memo : Memo, memo.Agrees p → (l.perform memo).1 = l.fresh ∧ (l.perform memo).2.Agrees p

section

variable {α β : Type} {p : Persister} {l : Lookup α} {f : α → Lookup β}

theorem fresh_ofResult_bind (r : QueryResult α) (f : α → Lookup β) :
    (ofResult r >>= f).fresh = (r >>= fun a => (f a).fresh) := by
  cases r <;> rfl

namespace Settled

theorem ofResult (p : Persister) (r : QueryResult α) : Settled p (Lookup.ofResult r) := by
  intro memo agrees
  exact ⟨rfl, agrees⟩

theorem pure (p : Persister) (a : α) : Settled p (Pure.pure a : Lookup α) := ofResult p (.ok a)

theorem throw (p : Persister) (e : QueryError) : Settled p (MonadExcept.throw e : Lookup α) :=
  ofResult p (.error e)

/-- From any true memory, a composed operation comes to the composed results, and the memory stays
true. -/
theorem perform_bind (first : Settled p l) (second : ∀ a, Settled p (f a)) {memo : Memo}
    (agrees : memo.Agrees p) :
    ((l >>= f).perform memo).1 = (l.fresh >>= fun a => (f a).fresh) ∧
      ((l >>= f).perform memo).2.Agrees p := by
  obtain ⟨same, kept⟩ := first memo agrees
  rw [Lookup.perform_bind]
  cases done : l.perform memo with
  | mk result middle =>
      rw [done] at same kept
      cases result with
      | error e =>
          rw [← same]
          exact ⟨rfl, kept⟩
      | ok a =>
          rw [← same]
          exact second a middle kept

end Settled

/-- The result of a composed operation is composed of the results. -/
theorem fresh_bind (first : Settled p l) (second : ∀ a, Settled p (f a)) :
    (l >>= f).fresh = (l.fresh >>= fun a => (f a).fresh) :=
  (first.perform_bind second (.empty p)).1

theorem Settled.bind (first : Settled p l) (second : ∀ a, Settled p (f a)) :
    Settled p (l >>= f) := by
  intro memo agrees
  rw [fresh_bind first second]
  exact first.perform_bind second agrees

theorem Settled.map (g : α → β) (first : Settled p l) : Settled p (g <$> l) := by
  rw [map_eq_pure_bind]
  exact first.bind fun a => .pure p (g a)

theorem fresh_map (g : α → β) (first : Settled p l) : (g <$> l).fresh = l.fresh.map g := by
  rw [map_eq_pure_bind, fresh_bind first fun a => .pure p (g a)]
  cases l.fresh <;> rfl

/-- The result of two operations that are put together is put together of the results. -/
theorem fresh_both {γ : Type} {m : Lookup β} {g : α → β → γ} (first : Settled p l)
    (second : Settled p m) :
    (l >>= fun a => m >>= fun b => Pure.pure (g a b)).fresh =
      (l.fresh >>= fun a => m.fresh >>= fun b => .ok (g a b)) := by
  rw [fresh_bind first fun a => second.bind fun b => .pure p (g a b)]
  refine bind_congr fun a => ?_
  rw [fresh_bind second fun b => .pure p (g a b)]
  rfl

/-- Two operations that are put together succeed exactly if both of them do. -/
theorem fresh_both_eq_ok {γ : Type} {m : Lookup β} {g : α → β → γ} {c : γ} (first : Settled p l)
    (second : Settled p m) :
    (l >>= fun a => m >>= fun b => Pure.pure (g a b)).fresh = .ok c ↔
      ∃ a b, l.fresh = .ok a ∧ m.fresh = .ok b ∧ c = g a b := by
  rw [fresh_both first second, bind_eq_ok]
  constructor
  · rintro ⟨a, done, h⟩
    obtain ⟨b, done', h⟩ := bind_eq_ok.1 h
    cases h
    exact ⟨a, b, done, done', rfl⟩
  · rintro ⟨a, b, done, done', rfl⟩
    exact ⟨a, done, bind_eq_ok.2 ⟨b, done', rfl⟩⟩

theorem Settled.mapM {as : List α} (each : ∀ a, Settled p (f a)) : Settled p (as.mapM f) := by
  induction as with
  | nil => exact .pure p []
  | cons a as ih =>
      rw [List.mapM_cons]
      refine (each a).bind fun b => ih.bind fun bs => ?_
      exact .pure p (b :: bs)

theorem fresh_mapM (each : ∀ a, Settled p (f a)) (as : List α) :
    (as.mapM f).fresh = as.mapM fun a => (f a).fresh := by
  induction as with
  | nil => rfl
  | cons a as ih =>
      have rest (b : β) : Settled p (as.mapM f >>= fun bs => Pure.pure (b :: bs)) :=
        (Settled.mapM each).bind fun bs => .pure p (b :: bs)
      rw [List.mapM_cons, List.mapM_cons, fresh_bind (each a) rest]
      congr 1
      funext b
      rw [fresh_bind (Settled.mapM each) fun bs => .pure p (b :: bs), ih]
      rfl

/-- Changing the error of an operation changes nothing else. -/
theorem Settled.adapt (g : QueryError → QueryError) (first : Settled p l) :
    Settled p (ExceptT.adapt g l) := by
  have performs (memo : Memo) : perform (ExceptT.adapt g l) memo =
      ((l.perform memo).1.mapError g, (l.perform memo).2) := rfl
  intro memo agrees
  obtain ⟨same, kept⟩ := first memo agrees
  rw [performs, fresh, performs, same]
  exact ⟨rfl, kept⟩

end

end Lookup

/-! ## Fields -/

namespace FieldCache.Agrees

variable {cache : FieldCache} {catalog : Catalog} {entity field : String}

/-- A field that the catalog does not have is not remembered either. -/
theorem resolve_eq_unknown (h : Agrees cache catalog)
    (unknown : catalog.mapping? entity field = none) :
    (cache.resolve catalog entity field).1 = .error (.unknownField entity field) := by
  have absent : cache.find? entity field = none := by
    cases cached : cache.find? entity field with
    | none => rfl
    | some kept =>
        have known := h entity field kept cached
        rw [unknown] at known
        cases known
  simp [FieldCache.resolve, absent, unknown]

end FieldCache.Agrees

namespace Persister

variable (p : Persister)

/-- The mapping of a field by the catalog alone. -/
def mapping (field : String) : QueryResult FieldMapping :=
  match p.catalog.mapping? p.entity field with
  | some mapping => .ok mapping
  | none => .error (.unknownField p.entity field)

variable {p}

theorem mapping_eq_ok {field : String} {m : FieldMapping} :
    p.mapping field = .ok m ↔ p.catalog.mapping? p.entity field = some m := by
  rw [mapping]
  cases p.catalog.mapping? p.entity field <;> simp

theorem resolve_perform_fst {memo : Memo} (agrees : memo.fields.Agrees p.catalog)
    (field : String) : ((p.resolve field).perform memo).1 = p.mapping field := by
  rw [resolve_perform, mapping]
  cases known : p.catalog.mapping? p.entity field with
  | some m => exact agrees.resolve_eq known
  | none => exact agrees.resolve_eq_unknown known

/-- A field is resolved to what the catalog says. -/
theorem fresh_resolve (field : String) : (p.resolve field).fresh = p.mapping field :=
  resolve_perform_fst (.empty p.catalog) field

theorem settled_resolve (field : String) : Lookup.Settled p (p.resolve field) := by
  intro memo agrees
  rw [fresh_resolve]
  exact ⟨resolve_perform_fst agrees.fields field, agrees.fields.resolve, agrees.identity⟩

/-! ## Identities -/

theorem settled_identityColumn (field : String) : Lookup.Settled p (p.identityColumn field) :=
  ((settled_resolve field).map (·.column)).adapt _

/-- The columns of the identifier fields, found out anew. -/
def identityColumns (p : Persister) : Lookup (List String) :=
  match p.catalog.identifier? p.entity with
  | none | some [] => throw (.unsupportedEntity p.entity)
  | some fields => fields.mapM p.identityColumn

theorem settled_identityColumns : Lookup.Settled p p.identityColumns := by
  unfold identityColumns
  split
  · exact .throw p _
  · exact .throw p _
  · exact .mapM settled_identityColumn

/-- An identity that is not remembered is found out from the columns, and remembered. -/
theorem identity_perform_of_none {memo : Memo} (absent : memo.identity = none) :
    p.identity.perform memo =
      match p.identityColumns.perform memo with
      | (.ok columns, after) =>
        (.ok (.ofColumns columns), { after with identity := some (.ofColumns columns) })
      | (.error e, after) => (.error e, after) := by
  have read : (get : Lookup Memo).perform memo = (.ok memo, memo) := rfl
  rw [identity, Lookup.perform_bind, read]
  simp only [absent, identityColumns]
  cases p.catalog.identifier? p.entity with
  | none => rfl
  | some fields =>
      cases fields with
      | nil => rfl
      | cons field fields =>
          dsimp only
          rw [Lookup.perform_bind]
          cases (List.mapM p.identityColumn (field :: fields)).perform memo with
          | mk result after => cases result <;> rfl

theorem identity_perform_of_some {memo : Memo} {i : Identity} (present : memo.identity = some i) :
    p.identity.perform memo = (.ok i, memo) := by
  have read : (get : Lookup Memo).perform memo = (.ok memo, memo) := rfl
  rw [identity, Lookup.perform_bind, read]
  simp only [present]
  rfl

/-- The identity is made of the columns of the identifier fields. -/
theorem fresh_identity : p.identity.fresh = p.identityColumns.fresh.map .ofColumns := by
  rw [Lookup.fresh, identity_perform_of_none rfl, Lookup.fresh]
  cases p.identityColumns.perform {} with
  | mk result after => cases result <;> rfl

theorem settled_identity : Lookup.Settled p p.identity := by
  intro memo agrees
  cases remembered : memo.identity with
  | some i =>
      rw [identity_perform_of_some remembered, agrees.identity i remembered]
      exact ⟨rfl, agrees⟩
  | none =>
      obtain ⟨same, kept⟩ := settled_identityColumns memo agrees
      rw [identity_perform_of_none remembered, fresh_identity]
      cases done : p.identityColumns.perform memo with
      | mk result after =>
          rw [done] at same kept
          cases result with
          | error e =>
              rw [← same]
              exact ⟨rfl, kept⟩
          | ok columns =>
              rw [← same]
              refine ⟨rfl, kept.fields, ?_⟩
              rintro i ⟨⟩
              rw [fresh_identity, ← same]
              rfl

end Persister

end EntityQuery
