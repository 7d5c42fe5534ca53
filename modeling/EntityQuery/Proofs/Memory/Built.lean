import EntityQuery.Proofs.Memory.Settled

/-!
# What operations of a persister are built of

An operation does nothing else with what a persister remembers than resolve fields and ask for the
identity. This is said once of every operation, as the way in which it is put together; whatever
resolutions and the identity respect, all operations respect. The first such thing is that true
memories do not matter.
-/

namespace EntityQuery

namespace Lookup

/-- An operation that is put together of resolutions of fields of the catalog, requests for the
identity, and results that need no memory. -/
inductive Built (p : Persister) : {α : Type} → Lookup α → Prop
  | ofResult {α : Type} (r : QueryResult α) : Built p (Lookup.ofResult r)
  | resolve (entity field : String) : Built p (({ p with entity } : Persister).resolve field)
  | identity (columns : Built p p.identityColumns) : Built p p.identity
  | bind {α β : Type} {l : Lookup α} {f : α → Lookup β} (first : Built p l)
    (second : ∀ a, Built p (f a)) : Built p (l >>= f)
  | adapt {α : Type} {l : Lookup α} (g : QueryError → QueryError) (first : Built p l) :
    Built p (ExceptT.adapt g l)

variable {α β : Type} {p : Persister} {l : Lookup α} {f : α → Lookup β}

namespace Built

theorem pure (p : Persister) (a : α) : Built p (Pure.pure a : Lookup α) := ofResult (.ok a)

theorem throw (p : Persister) (e : QueryError) : Built p (MonadExcept.throw e : Lookup α) :=
  ofResult (.error e)

theorem map (g : α → β) (first : Built p l) : Built p (g <$> l) := by
  rw [map_eq_pure_bind]
  exact first.bind fun a => .pure p (g a)

theorem mapM {as : List α} (each : ∀ a, Built p (f a)) : Built p (as.mapM f) := by
  induction as with
  | nil => exact .pure p []
  | cons a as ih =>
      rw [List.mapM_cons]
      refine (each a).bind fun b => ih.bind fun bs => ?_
      exact .pure p (b :: bs)

end Built

end Lookup

namespace Persister

open Lookup

variable {p : Persister}

/-- Any field of the catalog is resolved to what the catalog says. -/
theorem settled_resolveOf (entity field : String) :
    Settled p (({ p with entity } : Persister).resolve field) := by
  intro memo agrees
  have answer := resolve_perform_fst (p := { p with entity }) agrees.fields field
  rw [fresh_resolve]
  exact ⟨answer, agrees.fields.resolve, agrees.identity⟩

theorem built_resolve (field : String) : Built p (p.resolve field) := .resolve p.entity field

theorem built_identityColumn (field : String) : Built p (p.identityColumn field) :=
  ((built_resolve field).map (·.column)).adapt _

theorem built_identityColumns : Built p p.identityColumns := by
  unfold identityColumns
  split
  · exact .throw p _
  · exact .throw p _
  · exact .mapM built_identityColumn

theorem built_identity : Built p p.identity := .identity built_identityColumns

end Persister

/-- Whatever is built so is settled. -/
theorem Lookup.Built.settled {α : Type} {p : Persister} {l : Lookup α} (h : Built p l) :
    Settled p l := by
  induction h with
  | ofResult r => exact .ofResult p r
  | resolve entity field => exact Persister.settled_resolveOf entity field
  | identity => exact Persister.settled_identity
  | bind _ _ first second => exact first.bind second
  | adapt g _ first => exact first.adapt g

end EntityQuery
