import EntityQuery.Proofs.Memory.History

/-!
# The identity of an entity

Several definitions may be given under one name, and several fields of a definition may have one
name: of the definitions the last one counts, of the fields the first one. What an entity is
identified by is told by the definition that counts: it has an identity exactly if identifiers are
listed there, and the columns are found for each listed name in the same way as for any field. No
listed name can fail to have a column, since an identifier that is no field is stored under its own
name. So the identity is decided by the definitions alone, whatever has been asked before.
-/

namespace EntityQuery

namespace Catalog

variable {c : Catalog} {entity : String} {e : EntityDefinition}

/-- A definition counts under a name: it is the last one of that name. -/
def Defines (c : Catalog) (entity : String) (e : EntityDefinition) : Prop :=
  ∃ before after, c.entities = before ++ e :: after ∧ e.name = entity ∧
    ∀ d ∈ after, d.name ≠ entity

theorem find?_eq_some_iff : c.find? entity = some e ↔ c.Defines entity e := by
  rw [find?, List.find?_eq_some_iff_append]
  constructor
  · rintro ⟨named, after, before, split, others⟩
    refine ⟨before.reverse, after.reverse, ?_, by simpa using named, ?_⟩
    · have split' := congrArg List.reverse split
      simpa using split'
    · intro d mem
      simpa using others d (List.mem_reverse.1 mem)
  · rintro ⟨before, after, split, named, others⟩
    refine ⟨by simpa using named, after.reverse, before.reverse, ?_, ?_⟩
    · rw [split]
      simp
    · intro d mem
      simpa using others d (List.mem_reverse.1 mem)

/-- One definition at most counts under a name. -/
theorem Defines.unique {e' : EntityDefinition} (h : c.Defines entity e)
    (h' : c.Defines entity e') : e = e' := by
  rw [← find?_eq_some_iff] at h h'
  exact Option.some.inj (h.symm.trans h')

theorem identifier?_of_defines (h : c.Defines entity e) :
    c.identifier? entity = some e.identifier := by
  rw [identifier?, find?_eq_some_iff.2 h, Option.map_some]

theorem mapping?_of_defines (h : c.Defines entity e) (name : String) :
    c.mapping? entity name = e.mapping? name := by
  rw [mapping?, find?_eq_some_iff.2 h, Option.bind_some]

theorem isComposite_of_defines (h : c.Defines entity e) :
    c.isComposite entity = decide (1 < e.identifier.length) := by
  rw [isComposite, identifier?_of_defines h]

end Catalog

namespace EntityDefinition

variable {e : EntityDefinition} {name column : String}

/-- Where an identifier is stored: in the column of the first field of its name, which is the name
itself where no column is given, and under its own name if no field has it. -/
inductive Stores (e : EntityDefinition) (name : String) : String → Prop
  | field {before after : List FieldDefinition} {f : FieldDefinition}
    (split : e.fields = before ++ f :: after) (named : f.name = name)
    (first : ∀ g ∈ before, g.name ≠ name) : Stores e name (f.column.getD name)
  | unlisted (none : ∀ f ∈ e.fields, f.name ≠ name) : Stores e name name

/-- An identifier always has a mapping, to where it is stored. -/
theorem mapping?_identifier (listed : name ∈ e.identifier) :
    ∃ m, e.mapping? name = some m ∧ e.Stores name m.column := by
  rw [mapping?]
  cases found : e.fields.find? (·.name == name) with
  | some f =>
      obtain ⟨named, before, after, split, others⟩ := List.find?_eq_some_iff_append.1 found
      have same : f.name = name := by simpa using named
      refine ⟨_, rfl, ?_⟩
      rw [same]
      exact .field split same fun g mem => by simpa using others g mem
  | none =>
      rw [List.find?_eq_none] at found
      refine ⟨⟨name, .identity⟩, by simp [listed], ?_⟩
      exact .unlisted fun f mem => by simpa using found f mem

/-- Each identifier has a mapping, and together these give the columns in order. -/
theorem exists_columns (names : List String) (listed : ∀ name ∈ names, name ∈ e.identifier) :
    ∃ columns, List.Forall₂ (fun name column => ∃ m, e.mapping? name = some m ∧ m.column = column)
      names columns ∧ List.Forall₂ e.Stores names columns := by
  induction names with
  | nil => exact ⟨[], .nil, .nil⟩
  | cons name names ih =>
      obtain ⟨m, known, stored⟩ := mapping?_identifier (listed name List.mem_cons_self)
      obtain ⟨columns, found, stores⟩ :=
        ih fun name mem => listed name (List.mem_cons_of_mem _ mem)
      exact ⟨m.column :: columns, .cons ⟨m, known, rfl⟩ found, .cons stored stores⟩

end EntityDefinition

namespace Identity

/-- An identity by the answer of the catalog whether it has several columns: all columns, or only
the first one, if there is one. -/
def choose? (composite : Bool) (columns : List String) : Option Identity :=
  if composite then some (.composite columns) else columns.head?.map .single

theorem choose?_ofColumns {columns : List String} (nonempty : columns ≠ []) :
    choose? (decide (1 < columns.length)) columns = some (ofColumns columns) := by
  match columns with
  | [] => exact absurd rfl nonempty
  | [_] => rfl
  | _ :: _ :: _ => simp [choose?, ofColumns]

theorem isComposite_ofColumns {columns : List String} (nonempty : columns ≠ []) :
    (ofColumns columns).isComposite = decide (1 < columns.length) := by
  match columns with
  | [] => exact absurd rfl nonempty
  | [_] => rfl
  | _ :: _ :: _ => simp [ofColumns, isComposite]

end Identity

namespace Persister

variable {p : Persister} {e : EntityDefinition}

/-- Where the catalog has a mapping of an identifier field, its column is found. -/
theorem fresh_identityColumn {name : String} {m : FieldMapping}
    (known : p.catalog.mapping? p.entity name = some m) :
    (p.identityColumn name).fresh = .ok m.column := by
  have performs : (p.identityColumn name).fresh =
      ((·.column) <$> p.resolve name).fresh.mapError fun _ => .unsupportedEntity p.entity := rfl
  rw [performs, Lookup.fresh_map _ (settled_resolve name), fresh_resolve, mapping_eq_ok.2 known]
  rfl

/-- Without identifiers there is no identity. -/
theorem fresh_identity_of_none (none : ∀ e, p.catalog.Defines p.entity e → e.identifier = []) :
    p.identity.fresh = .error (.unsupportedEntity p.entity) := by
  have columns : p.identityColumns = throw (.unsupportedEntity p.entity) := by
    rw [identityColumns, Catalog.identifier?]
    cases found : p.catalog.find? p.entity with
    | none => rfl
    | some e => rw [Option.map_some, none e (Catalog.find?_eq_some_iff.1 found)]
  rw [fresh_identity, columns]
  rfl

/-- With identifiers, the identity is made of the columns they are stored in. -/
theorem fresh_identity_of_defines (defined : p.catalog.Defines p.entity e)
    (nonempty : e.identifier ≠ []) :
    ∃ columns, p.identity.fresh = .ok (.ofColumns columns) ∧
      List.Forall₂ e.Stores e.identifier columns := by
  obtain ⟨columns, found, stores⟩ :=
    EntityDefinition.exists_columns e.identifier fun _ mem => mem
  have each : e.identifier.mapM (fun name => (p.identityColumn name).fresh) = .ok columns := by
    rw [mapM_eq_ok]
    refine found.imp ?_
    rintro name column ⟨m, known, rfl⟩
    refine fresh_identityColumn ?_
    rw [Catalog.mapping?_of_defines defined, known]
  have all : p.identityColumns = e.identifier.mapM p.identityColumn := by
    rw [identityColumns, Catalog.identifier?_of_defines defined]
    cases listed : e.identifier with
    | nil => exact absurd listed nonempty
    | cons name names => rfl
  refine ⟨columns, ?_, stores⟩
  rw [fresh_identity, all, Lookup.fresh_mapM settled_identityColumn, each]
  rfl

/-- A persister over any definitions has an identity exactly if identifiers are listed in the last
definition of its entity. The identity is composite exactly if several are listed, it consists of
the columns that they are stored in, and it is what one gets by asking the catalog whether to take
all of the columns or the first one, which exists. Otherwise the entity is not supported. All this
holds after any history of operations of the persister. -/
theorem identity_of_definitions (entities : List EntityDefinition) (entity : String) (handle : Nat)
    (casing : ResultCasing) (history : List Task) :
    let p : Persister := ⟨handle, ⟨entities⟩, entity, casing⟩
    let answer := (p.identity.perform (p.memory history)).1
    ((∃ i, answer = .ok i) ↔ ∃ e, p.catalog.Defines entity e ∧ e.identifier ≠ []) ∧
      (∀ e i, p.catalog.Defines entity e → answer = .ok i →
        (i.isComposite = true ↔ 1 < e.identifier.length) ∧
          List.Forall₂ e.Stores e.identifier i.columns ∧
          Identity.choose? (p.catalog.isComposite entity) i.columns = some i) ∧
      ((¬ ∃ e, p.catalog.Defines entity e ∧ e.identifier ≠ []) →
        answer = .error (.unsupportedEntity entity)) := by
  intro p answer
  have fresh : answer = p.identity.fresh := (remembers_memory history).perform_eq settled_identity
  rw [fresh]
  have otherwise : (¬ ∃ e, p.catalog.Defines entity e ∧ e.identifier ≠ []) →
      p.identity.fresh = .error (.unsupportedEntity entity) := by
    intro none
    apply fresh_identity_of_none
    intro e defined
    by_contra nonempty
    exact none ⟨e, defined, nonempty⟩
  refine ⟨⟨?_, ?_⟩, ?_, otherwise⟩
  · rintro ⟨i, done⟩
    by_contra none
    rw [otherwise none] at done
    cases done
  · rintro ⟨e, defined, nonempty⟩
    obtain ⟨columns, done, -⟩ := fresh_identity_of_defines (p := p) defined nonempty
    exact ⟨_, done⟩
  · intro e i defined done
    have nonempty : e.identifier ≠ [] := by
      intro empty
      rw [fresh_identity_of_none fun d other => (defined.unique other) ▸ empty] at done
      cases done
    obtain ⟨columns, done', stores⟩ := fresh_identity_of_defines (p := p) defined nonempty
    rw [done'] at done
    cases done
    have length : columns.length = e.identifier.length := stores.length_eq.symm
    have some : columns ≠ [] := by
      rintro rfl
      exact nonempty (List.length_eq_zero_iff.1 length.symm)
    rw [Identity.columns_ofColumns, Identity.isComposite_ofColumns some, length,
      Catalog.isComposite_of_defines defined, ← length, Identity.choose?_ofColumns some]
    exact ⟨by simp, stores, rfl⟩

/-- The second definition counts, and the first field of a name in it; a name that is no field is a
column itself. -/
example :
    let tags : EntityDefinition := ⟨"tags", "tags", none, ["kind", "key"],
      [⟨"key", some "tag_key", .identity⟩, ⟨"key", some "old_key", .text⟩]⟩
    let p : Persister := ⟨0, ⟨[⟨"tags", "old_tags", none, [], []⟩, tags]⟩, "tags", .lower⟩
    (p.identity.perform {}).1 = .ok (.composite ["kind", "tag_key"]) := rfl

end Persister

end EntityQuery
