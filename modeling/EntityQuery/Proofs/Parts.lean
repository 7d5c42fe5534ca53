import EntityQuery.Proofs.Truth

/-!
# The parts of a condition

What a condition consists of, its comparisons and its pieces of SQL, does not change when it is
joined with others: a flat connective takes members apart or leaves them as they are, and keeps
every part of them in its place.
-/

namespace EntityQuery

namespace Condition

theorem allComparisons_eq_flatMap (members : List Condition) :
    allComparisons members = members.flatMap comparisons := by
  induction members with
  | nil => rw [allComparisons, List.flatMap_nil]
  | cons c rest ih => rw [allComparisons, ih, List.flatMap_cons]

theorem allFragments_eq_flatMap (members : List Condition) :
    allFragments members = members.flatMap fragments := by
  induction members with
  | nil => rw [allFragments, List.flatMap_nil]
  | cons c rest ih => rw [allFragments, ih, List.flatMap_cons]

theorem mem_allComparisons {x : String × Operator × Value} {members : List Condition} :
    x ∈ allComparisons members ↔ ∃ c ∈ members, x ∈ c.comparisons := by
  rw [allComparisons_eq_flatMap, List.mem_flatMap]

theorem mem_allFragments {f : String} {members : List Condition} :
    f ∈ allFragments members ↔ ∃ c ∈ members, f ∈ c.fragments := by
  rw [allFragments_eq_flatMap, List.mem_flatMap]

/-- What is collected from the members of a flat connective, if a connective of this kind collects
from its members and a single member stands for itself. -/
theorem parts_conj {α : Type} {parts : Condition → List α}
    (joined : ∀ members, parts (all members) = members.flatMap parts) (members : List Condition) :
    parts (conj members) = members.flatMap parts := by
  have taken (c : Condition) : c.conjuncts.flatMap parts = parts c := by
    cases c with
    | all inner => rw [conjuncts, joined]
    | _ => exact List.flatMap_singleton ..
  have flat : (members.flatMap conjuncts).flatMap parts = members.flatMap parts := by
    rw [List.flatMap_assoc]
    simp only [taken]
  rw [← flat, conj]
  split
  · next c single => rw [single, List.flatMap_singleton]
  · exact joined _

/-- The same for disjunctions. -/
theorem parts_disj {α : Type} {parts : Condition → List α}
    (joined : ∀ members, parts (any members) = members.flatMap parts) (members : List Condition) :
    parts (disj members) = members.flatMap parts := by
  have taken (c : Condition) : c.disjuncts.flatMap parts = parts c := by
    cases c with
    | any inner => rw [disjuncts, joined]
    | _ => exact List.flatMap_singleton ..
  have flat : (members.flatMap disjuncts).flatMap parts = members.flatMap parts := by
    rw [List.flatMap_assoc]
    simp only [taken]
  rw [← flat, disj]
  split
  · next c single => rw [single, List.flatMap_singleton]
  · exact joined _

theorem comparisons_all (members : List Condition) :
    comparisons (all members) = members.flatMap comparisons := by
  rw [comparisons, allComparisons_eq_flatMap]

theorem comparisons_any (members : List Condition) :
    comparisons (any members) = members.flatMap comparisons := by
  rw [comparisons, allComparisons_eq_flatMap]

theorem fragments_all (members : List Condition) :
    fragments (all members) = members.flatMap fragments := by
  rw [fragments, allFragments_eq_flatMap]

theorem fragments_any (members : List Condition) :
    fragments (any members) = members.flatMap fragments := by
  rw [fragments, allFragments_eq_flatMap]

theorem comparisons_conj (members : List Condition) :
    comparisons (conj members) = members.flatMap comparisons :=
  parts_conj comparisons_all members

theorem comparisons_disj (members : List Condition) :
    comparisons (disj members) = members.flatMap comparisons :=
  parts_disj comparisons_any members

theorem fragments_conj (members : List Condition) :
    fragments (conj members) = members.flatMap fragments :=
  parts_conj fragments_all members

theorem fragments_disj (members : List Condition) :
    fragments (disj members) = members.flatMap fragments :=
  parts_disj fragments_any members

/-- The columns that a condition compares, from left to right. -/
def columns (c : Condition) : List String := c.comparisons.map (·.1)

theorem columns_conj (members : List Condition) :
    columns (conj members) = members.flatMap columns := by
  rw [columns, comparisons_conj, List.map_flatMap]
  rfl

theorem columns_disj (members : List Condition) :
    columns (disj members) = members.flatMap columns := by
  rw [columns, comparisons_disj, List.map_flatMap]
  rfl

end Condition

end EntityQuery
