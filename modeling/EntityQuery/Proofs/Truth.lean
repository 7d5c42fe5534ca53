import EntityQuery.Condition

/-!
# Truth values of conditions

SQL has three truth values, of which the third one says that nothing is known. The truth of a
condition rests on the truth of its comparisons and of its pieces of SQL, which are left open here:
the connectives are the same whatever these say.
-/

namespace EntityQuery

/-- A truth value of SQL; none is the unknown one. -/
abbrev Truth : Type := Option Bool

namespace Truth

/-- The conjunction: a false part decides it. -/
def and : Truth → Truth → Truth
  | some false, _ | _, some false => some false
  | some true, some true => some true
  | none, _ | _, none => none

/-- The disjunction: a true part decides it. -/
def or : Truth → Truth → Truth
  | some true, _ | _, some true => some true
  | some false, some false => some false
  | none, _ | _, none => none

/-- The negation. -/
def not : Truth → Truth
  | some b => some !b
  | none => none

/-- The negation, where the flag asks for one. -/
def negatedIf (negated : Bool) (t : Truth) : Truth := if negated then not t else t

/-- The conjunction of any number of truth values; of none it is true. -/
def all (ts : List Truth) : Truth := ts.foldl and (some true)

/-- The disjunction of any number of truth values; of none it is false. -/
def any (ts : List Truth) : Truth := ts.foldl or (some false)

@[simp] theorem and_true_left (t : Truth) : and (some true) t = t := by
  obtain _ | _ | _ := t <;> rfl

@[simp] theorem or_false_left (t : Truth) : or (some false) t = t := by
  obtain _ | _ | _ := t <;> rfl

@[simp] theorem all_nil : all [] = some true := rfl

@[simp] theorem any_nil : any [] = some false := rfl

@[simp] theorem all_singleton (t : Truth) : all [t] = t := and_true_left t

@[simp] theorem any_singleton (t : Truth) : any [t] = t := or_false_left t

theorem all_snoc (ts : List Truth) (t : Truth) : all (ts ++ [t]) = and (all ts) t := by
  simp [all]

theorem any_snoc (ts : List Truth) (t : Truth) : any (ts ++ [t]) = or (any ts) t := by
  simp [any]

@[simp] theorem and_true_right (t : Truth) : and t (some true) = t := by
  obtain _ | _ | _ := t <;> rfl

theorem and_assoc (s t u : Truth) : and (and s t) u = and s (and t u) := by
  obtain _ | _ | _ := s <;> obtain _ | _ | _ := t <;> obtain _ | _ | _ := u <;> rfl

instance : Std.Associative and := ⟨and_assoc⟩

theorem foldl_and (t : Truth) (ts : List Truth) : ts.foldl and t = and t (all ts) :=
  calc ts.foldl and t
    _ = ts.foldl and (and t (some true)) := by rw [and_true_right]
    _ = and t (all ts) := List.foldl_assoc

theorem all_append (ts us : List Truth) : all (ts ++ us) = and (all ts) (all us) := by
  rw [all, List.foldl_append, foldl_and]
  rfl

@[simp] theorem or_false_right (t : Truth) : or t (some false) = t := by
  obtain _ | _ | _ := t <;> rfl

theorem or_assoc (s t u : Truth) : or (or s t) u = or s (or t u) := by
  obtain _ | _ | _ := s <;> obtain _ | _ | _ := t <;> obtain _ | _ | _ := u <;> rfl

instance : Std.Associative or := ⟨or_assoc⟩

theorem foldl_or (t : Truth) (ts : List Truth) : ts.foldl or t = or t (any ts) :=
  calc ts.foldl or t
    _ = ts.foldl or (or t (some false)) := by rw [or_false_right]
    _ = or t (any ts) := List.foldl_assoc

theorem any_append (ts us : List Truth) : any (ts ++ us) = or (any ts) (any us) := by
  rw [any, List.foldl_append, foldl_or]
  rfl

/-- Truth values can be put together in groups. -/
theorem any_flatten (groups : List (List Truth)) : any groups.flatten = any (groups.map any) := by
  induction groups with
  | nil => rfl
  | cons ts rest ih =>
      rw [List.flatten_cons, any_append, ih, List.map_cons, ← List.singleton_append, any_append,
        any_singleton]

end Truth

namespace Condition

section

variable (atom : String → Operator → Value → Truth) (piece : String → Truth)

mutual

/-- The truth of a condition, given the truth of its comparisons and of its pieces of SQL. -/
def truth : Condition → Truth
  | comparison column op value => atom column op value
  | all members => Truth.all (truths members)
  | any members => Truth.any (truths members)
  | raw fragment => piece fragment

/-- The truths of conditions. -/
def truths : List Condition → List Truth
  | [] => []
  | c :: rest => truth c :: truths rest

end

theorem truths_eq_map (members : List Condition) :
    truths atom piece members = members.map (truth atom piece) := by
  induction members with
  | nil => rw [truths, List.map_nil]
  | cons c rest ih => rw [truths, ih, List.map_cons]

end

mutual

/-- The pieces of SQL in a condition from left to right. -/
def fragments : Condition → List String
  | comparison _ _ _ => []
  | all members | any members => allFragments members
  | raw fragment => [fragment]

/-- The pieces of SQL in conditions from left to right. -/
def allFragments : List Condition → List String
  | [] => []
  | c :: rest => fragments c ++ allFragments rest

end

/-- The condition that always holds is true on every row. -/
theorem truth_always (atom : String → Operator → Value → Truth) (piece : String → Truth) :
    truth atom piece always = some true := by
  rw [always, truth, truths, Truth.all_nil]

/-- The truth of a flat conjunction is the conjunction of the truths of its members. -/
theorem truth_conj (atom : String → Operator → Value → Truth) (piece : String → Truth)
    (members : List Condition) :
    truth atom piece (conj members) = Truth.all (members.map (truth atom piece)) := by
  have taken (c : Condition) :
      Truth.all (c.conjuncts.map (truth atom piece)) = truth atom piece c := by
    cases c with
    | all inner => rw [conjuncts, truth, truths_eq_map]
    | _ => exact Truth.all_singleton _
  have flat : Truth.all ((members.flatMap conjuncts).map (truth atom piece)) =
      Truth.all (members.map (truth atom piece)) := by
    induction members with
    | nil => rfl
    | cons c rest ih =>
        rw [List.flatMap_cons, List.map_append, Truth.all_append, taken, ih, List.map_cons,
          ← List.singleton_append, Truth.all_append, Truth.all_singleton]
  rw [← flat, conj]
  split
  · next c single => rw [single, List.map_singleton, Truth.all_singleton]
  · rw [truth, truths_eq_map]

end Condition

end EntityQuery
