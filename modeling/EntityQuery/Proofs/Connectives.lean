import EntityQuery.Proofs.Parts
import EntityQuery.Proofs.QueryText.NormalForm

/-!
# Flat connectives

A condition is flat if no connective in it has exactly one member and none is a member of its own
kind. Joining takes over the members of one level only and lets a single member stand for itself, so
it is on flat conditions that it gives flat ones, and that it makes no difference in which groups
the conditions are joined. Both connectives join in the same way; what is said here is said once, of
`Joins`.
-/

namespace EntityQuery

namespace Condition

mutual

/-- Whether no connective has exactly one member or a member of its own kind. -/
def isFlat : Condition → Bool
  | comparison _ _ _ | raw _ => true
  | all members => members.length != 1 && members.all (!·.isAll) && allFlat members
  | any members => members.length != 1 && members.all (!·.isAny) && allFlat members

/-- Whether all of some conditions are flat. -/
def allFlat : List Condition → Bool
  | [] => true
  | c :: rest => isFlat c && allFlat rest

end

theorem allFlat_iff {members : List Condition} :
    allFlat members ↔ ∀ c ∈ members, c.isFlat := by
  induction members with
  | nil => simp [allFlat]
  | cons c rest ih => simp [allFlat, ih]

theorem isFlat_all {members : List Condition} :
    (all members).isFlat ↔
      members.length ≠ 1 ∧ (∀ c ∈ members, c.isAll = false) ∧ ∀ c ∈ members, c.isFlat := by
  simp [isFlat, allFlat_iff, and_assoc]

theorem isFlat_any {members : List Condition} :
    (any members).isFlat ↔
      members.length ≠ 1 ∧ (∀ c ∈ members, c.isAny = false) ∧ ∀ c ∈ members, c.isFlat := by
  simp [isFlat, allFlat_iff, and_assoc]

/-! ## Joining by a connective -/

/-- A way of joining conditions: what a connective's own conditions consist of is taken over, and a
single member stands for itself. -/
structure Joins (join connective : List Condition → Condition) (own : Condition → Bool)
    (parts : Condition → List Condition) : Prop where
  join_eq : ∀ cs, join cs = match cs.flatMap parts with
    | [c] => c
    | flat => connective flat
  parts_connective : ∀ cs, parts (connective cs) = cs
  parts_other : ∀ c, own c = false → parts c = [c]
  own_iff : ∀ c, own c ↔ ∃ cs, c = connective cs
  isFlat_connective : ∀ cs, (connective cs).isFlat ↔
    cs.length ≠ 1 ∧ (∀ c ∈ cs, own c = false) ∧ ∀ c ∈ cs, c.isFlat

theorem joins_conj : Joins conj all isAll conjuncts where
  join_eq _ := rfl
  parts_connective _ := rfl
  parts_other c other := by
    cases c <;> first | rfl | cases other
  own_iff c := by
    cases c <;> simp [isAll]
  isFlat_connective _ := isFlat_all

theorem joins_disj : Joins disj any isAny disjuncts where
  join_eq _ := rfl
  parts_connective _ := rfl
  parts_other c other := by
    cases c <;> first | rfl | cases other
  own_iff c := by
    cases c <;> simp [isAny]
  isFlat_connective _ := isFlat_any

namespace Joins

variable {join connective : List Condition → Condition} {own : Condition → Bool}
  {parts : Condition → List Condition} {c : Condition} {cs ds : List Condition}

/-- Of a flat condition only flat parts of other kinds are taken over. -/
theorem parts_flat (j : Joins join connective own parts) (flat : c.isFlat) :
    ∀ d ∈ parts c, own d = false ∧ d.isFlat := by
  cases kind : own c with
  | true =>
      obtain ⟨cs, rfl⟩ := (j.own_iff c).1 kind
      obtain ⟨-, others, each⟩ := (j.isFlat_connective cs).1 flat
      rw [j.parts_connective]
      exact fun d mem => ⟨others d mem, each d mem⟩
  | false =>
      rw [j.parts_other c kind, List.forall_mem_singleton]
      exact ⟨kind, flat⟩

theorem flatMap_parts_flat (j : Joins join connective own parts) (flat : ∀ c ∈ cs, c.isFlat) :
    ∀ d ∈ cs.flatMap parts, own d = false ∧ d.isFlat := by
  intro d mem
  obtain ⟨c, among, part⟩ := List.mem_flatMap.1 mem
  exact j.parts_flat (flat c among) d part

theorem isFlat_join (j : Joins join connective own parts) (flat : ∀ c ∈ cs, c.isFlat) :
    (join cs).isFlat := by
  have taken := j.flatMap_parts_flat flat
  rw [j.join_eq]
  split
  · next c single =>
      rw [single, List.forall_mem_singleton] at taken
      exact taken.2
  · next several =>
      refine (j.isFlat_connective _).2
        ⟨?_, fun d mem => (taken d mem).1, fun d mem => (taken d mem).2⟩
      intro single
      obtain ⟨c, only⟩ := List.length_eq_one_iff.1 single
      exact several c only

/-- What is joined is not told apart from its parts: joining it again takes the same over. -/
theorem parts_join (j : Joins join connective own parts) (flat : ∀ c ∈ cs, c.isFlat) :
    parts (join cs) = cs.flatMap parts := by
  have taken := j.flatMap_parts_flat flat
  rw [j.join_eq]
  split
  · next c single =>
      rw [single, List.forall_mem_singleton] at taken
      rw [single, j.parts_other c taken.1]
  · exact j.parts_connective _

theorem join_congr (j : Joins join connective own parts)
    (same : cs.flatMap parts = ds.flatMap parts) : join cs = join ds := by
  rw [j.join_eq, j.join_eq, same]

/-- It makes no difference in which groups flat conditions are joined. -/
theorem join_groups (j : Joins join connective own parts) (groups : List (List Condition))
    (flat : ∀ group ∈ groups, ∀ c ∈ group, c.isFlat) :
    join (groups.map join) = join groups.flatten := by
  refine j.join_congr ?_
  rw [List.flatMap_map, ← List.flatMap_id, List.flatMap_assoc]
  exact List.flatMap_congr fun group mem => j.parts_join (flat group mem)

theorem join_append (j : Joins join connective own parts) (flat : ∀ c ∈ cs, c.isFlat)
    (flat' : ∀ c ∈ ds, c.isFlat) : join (cs ++ ds) = join [join cs, join ds] := by
  have grouped := j.join_groups [cs, ds] (by simpa using ⟨flat, flat'⟩)
  simpa using grouped.symm

theorem join_assoc (j : Joins join connective own parts) {a b c : Condition} (ha : a.isFlat)
    (hb : b.isFlat) (hc : c.isFlat) : join [join [a, b], c] = join [a, join [b, c]] := by
  have front := j.parts_join (List.forall_mem_cons.2 ⟨ha, List.forall_mem_singleton.2 hb⟩)
  have back := j.parts_join (List.forall_mem_cons.2 ⟨hb, List.forall_mem_singleton.2 hc⟩)
  refine j.join_congr ?_
  simp only [List.flatMap_cons, List.flatMap_nil, front, back, List.append_nil, List.append_assoc]

/-- The value of joined conditions is put together of their values, if the connective's is, and if
it makes no difference for values in which groups they are put together. -/
theorem value_join (j : Joins join connective own parts) {α : Type} {value : Condition → α}
    {total : List α → α} (connected : ∀ cs, value (connective cs) = total (cs.map value))
    (single : ∀ a, total [a] = a)
    (groups : ∀ as : List (List α), total as.flatten = total (as.map total)) (cs : List Condition) :
    value (join cs) = total (cs.map value) := by
  have taken (c : Condition) : total ((parts c).map value) = value c := by
    cases kind : own c with
    | true =>
        obtain ⟨cs, rfl⟩ := (j.own_iff c).1 kind
        rw [j.parts_connective, connected]
    | false => rw [j.parts_other c kind, List.map_singleton, single]
  have flat : total ((cs.flatMap parts).map value) = total (cs.map value) := by
    rw [List.map_flatMap, List.flatMap_def, groups, List.map_map]
    simp only [Function.comp_def, taken]
  rw [← flat, j.join_eq]
  split
  · next c only => rw [only, List.map_singleton, single]
  · exact connected _

end Joins

/-- The truth of a flat disjunction is the disjunction of the truths of its members. -/
theorem truth_disj (atom : String → Operator → Value → Truth) (piece : String → Truth)
    (members : List Condition) :
    truth atom piece (disj members) = Truth.any (members.map (truth atom piece)) :=
  joins_disj.value_join (fun cs => by rw [truth, truths_eq_map]) Truth.any_singleton
    Truth.any_flatten members

/-- What a connective makes of two lists of conditions: a flat condition, with the truth and the
comparisons of the members, and the same one if either list is joined first. -/
structure JoinsFlatly (join : List Condition → Condition) (total : List Truth → Truth)
    (cs ds : List Condition) : Prop where
  flat : (join cs).isFlat
  truth : ∀ atom piece, (join cs).truth atom piece = total (cs.map (truth atom piece))
  comparisons : (join cs).comparisons = cs.flatMap comparisons
  append : join (cs ++ ds) = join [join cs, join ds]

variable {cs ds : List Condition}

theorem conj_joinsFlatly (flat : ∀ c ∈ cs, c.isFlat) (flat' : ∀ c ∈ ds, c.isFlat) :
    JoinsFlatly conj Truth.all cs ds where
  flat := joins_conj.isFlat_join flat
  truth atom piece := truth_conj atom piece cs
  comparisons := comparisons_conj cs
  append := joins_conj.join_append flat flat'

theorem disj_joinsFlatly (flat : ∀ c ∈ cs, c.isFlat) (flat' : ∀ c ∈ ds, c.isFlat) :
    JoinsFlatly disj Truth.any cs ds where
  flat := joins_disj.isFlat_join flat
  truth atom piece := truth_disj atom piece cs
  comparisons := comparisons_disj cs
  append := joins_disj.join_append flat flat'

end Condition

end EntityQuery
