import EntityQuery.Composer
import EntityQuery.Proofs.Connectives
import EntityQuery.Proofs.Memory
import EntityQuery.Proofs.Values

/-!
# Whatever is read is flat

Every comparison is flat by itself, and nothing but the two connectives puts conditions together. So
the conditions of query text, of criteria and of both together are flat, whatever is remembered and
whatever they say.
-/

namespace EntityQuery

open ConditionText Lookup

/-! ## What operations come to -/

/-- Whatever an operation comes to has a property. -/
def Lookup.Ensures {α : Type} (l : Lookup α) (P : α → Prop) : Prop :=
  ∀ a, l.Answers (.ok a) → P a

namespace Lookup.Ensures

variable {α β : Type} {P : α → Prop} {Q : β → Prop} {l : Lookup α} {f : α → Lookup β}

theorem ofResult {r : QueryResult α} (h : ∀ a, r = .ok a → P a) : (Lookup.ofResult r).Ensures P :=
  fun a answers => h a answers.of_ofResult

theorem pure {a : α} (h : P a) : (Pure.pure a : Lookup α).Ensures P :=
  ofResult (r := .ok a) (by rintro _ ⟨⟩; exact h)

theorem trivial (l : Lookup α) : l.Ensures fun _ => True := fun _ _ => True.intro

theorem bind (first : l.Ensures P) (second : ∀ a, P a → (f a).Ensures Q) : (l >>= f).Ensures Q := by
  intro b answers
  obtain ⟨a, done, answers⟩ := answers.bind_ok
  exact second a (first a done) b answers

theorem map {g : α → β} (first : l.Ensures P) (kept : ∀ a, P a → Q (g a)) :
    (g <$> l).Ensures Q := by
  rw [map_eq_pure_bind]
  exact first.bind fun a h => .pure (kept a h)

theorem mapM {Q : β → Prop} (each : ∀ a, (f a).Ensures Q) (as : List α) :
    (as.mapM f).Ensures fun bs => ∀ b ∈ bs, Q b := by
  induction as with
  | nil => exact .pure (List.forall_mem_nil Q)
  | cons a as ih =>
      rw [List.mapM_cons]
      exact (each a).bind fun b h => ih.bind fun bs hs => .pure (List.forall_mem_cons.2 ⟨h, hs⟩)

end Lookup.Ensures

/-! ## Everything that is read is flat -/

theorem FieldMapping.comparison_flat {m : FieldMapping} {field : String} {op : Operator} {v : Value}
    {c : Condition} (h : m.comparison field op v = .ok c) : c.isFlat := by
  obtain ⟨-, w, -, rfl⟩ := comparison_eq_ok h
  rfl

namespace QueryText

variable {p : Persister} {text : List Char}

theorem comparison_ensures (target : Expr) (op : Operator) (v : Value) :
    (comparison p text target op v).Ensures (·.isFlat) :=
  (Ensures.trivial _).bind fun _ _ => (Ensures.trivial _).bind fun _ _ =>
    .ofResult fun _ => FieldMapping.comparison_flat

theorem refusal_ensures {P : Condition → Prop} (position : Nat) (what : String) :
    (Lookup.ofResult (refusal position what)).Ensures P :=
  .ofResult (by rintro _ ⟨⟩)

/-- Expressions are narrowed to flat conditions. -/
theorem narrow_ensures (e : Expr) : (narrow p text e).Ensures (·.isFlat) := by
  apply narrow_induction (P := fun l => l.Ensures (·.isFlat))
  case conj =>
    intro a b first second
    exact first.bind fun c flat => second.bind fun d flat' =>
      .pure (Condition.joins_conj.isFlat_join (by simpa using ⟨flat, flat'⟩))
  case disj =>
    intro a b first second
    exact first.bind fun c flat => second.bind fun d flat' =>
      .pure (Condition.joins_disj.isFlat_join (by simpa using ⟨flat, flat'⟩))
  case single =>
    intro target op operand
    exact (Ensures.trivial _).bind fun v _ => comparison_ensures target op v
  case several =>
    intro target op items
    exact (Ensures.trivial _).bind fun vs _ => comparison_ensures target op (.list vs)
  case missing => exact fun target op => comparison_ensures target op .null
  case refused => exact fun position => refusal_ensures position "a comparison"

theorem condition_ensures (text : String) : (condition p text).Ensures (·.isFlat) := by
  unfold condition
  dsimp only
  split
  · exact .pure (by decide)
  · refine (Ensures.trivial _).bind fun s _ => ?_
    split
    · exact refusal_ensures _ _
    · exact narrow_ensures s.condition

end QueryText

/-- A query as it is read, with a flat condition. -/
def Query.IsFlat (q : Query) : Prop :=
  ∃ c order limit offset, q = .ofParts c order limit offset ∧ c.isFlat

theorem QueryText.query_ensures {p : Persister} (text : String) :
    (query p text).Ensures Query.IsFlat := by
  unfold query
  dsimp only
  split
  · exact .pure ⟨.always, [], none, none, rfl, by decide⟩
  · refine (Ensures.trivial _).bind fun s _ => ?_
    exact (narrow_ensures s.condition).bind fun c flat => (Ensures.trivial _).bind fun order _ =>
      (Ensures.trivial _).bind fun limit _ => (Ensures.trivial _).bind fun offset _ =>
        .pure ⟨c, order, limit, offset, rfl, flat⟩

namespace Criteria

variable {p : Persister}

theorem comparison_ensures (field : String) (v : Json) :
    (comparison p field v).Ensures (·.isFlat) := by
  refine (Ensures.trivial _).bind fun m _ => ?_
  split
  · exact .ofResult fun _ => FieldMapping.comparison_flat
  · exact .ofResult (by rintro _ ⟨⟩)

theorem condition_ensures (reservedKey : String) (criteria : Criteria) :
    (condition p reservedKey criteria).Ensures (·.isFlat) := by
  have compared := Ensures.mapM (fun x : String × Json => comparison_ensures (p := p) x.1 x.2)
  exact (compared _).map fun cs => Condition.joins_conj.isFlat_join

theorem read_ensures (reservedKey : String) (criteria : Criteria) (request : SortRequest)
    (limit offset : Option Nat) :
    (criteria.read p reservedKey request limit offset).Ensures Query.IsFlat :=
  (condition_ensures reservedKey criteria).bind fun c flat =>
    (Ensures.trivial _).bind fun order _ => .pure ⟨c, order, limit, offset, rfl, flat⟩

end Criteria

namespace Composer

variable {c : Composer}

theorem isFlat_extend {base added : Condition} (flat : base.isFlat) (flat' : added.isFlat) :
    (extend base added).isFlat := by
  unfold extend
  split
  · exact flat
  · exact Condition.joins_conj.isFlat_join (by simpa using ⟨flat, flat'⟩)

theorem base?_ensures (criteria : Criteria) :
    (c.base? criteria).Ensures fun base => ∀ b, base = some b → b.isFlat := by
  unfold base?
  split
  · exact .pure (by rintro _ ⟨⟩)
  · exact (QueryText.condition_ensures _).map fun b flat => by rintro _ ⟨⟩; exact flat
  · exact .ofResult (by rintro _ ⟨⟩)

theorem compose_ensures (criteria : Criteria) (request : SortRequest) (limit offset : Option Nat) :
    (c.compose criteria request limit offset).Ensures Query.IsFlat := by
  refine (Criteria.read_ensures _ criteria request limit offset).bind fun q flat =>
    (base?_ensures criteria).bind fun base flat' => ?_
  cases base with
  | none => exact .pure flat
  | some base =>
      obtain ⟨own, order, limit, offset, rfl, flat⟩ := flat
      refine .ofResult ?_
      rintro _ ⟨⟩
      exact ⟨_, order, limit, offset, rfl, isFlat_extend (flat' base rfl) flat⟩

end Composer

end EntityQuery
