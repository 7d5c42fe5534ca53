import EntityQuery.Proofs.Reading.Places

/-!
# Searching a text

The positions of errors that are searched for in the text are those of the first place where a test
succeeds: where a part occurs, or where a keyword stands as a word of its own. A position tells its
place, so such a position is that of a given place if and only if the test succeeds there and
nowhere before.
-/

namespace EntityQuery.ConditionText

/-- A test of a place in a text: of the characters in front of it and of those behind it. -/
abbrev PlaceTest : Type := List Char → List Char → Prop

/-- A test succeeds at no place in front of the last one of some characters. -/
def FailsBefore (test : PlaceTest) (text front : List Char) : Prop :=
  ∀ f b, text = f ++ b → f.length < front.length → ¬ test f b

/-- A test succeeds at a place and at none before. -/
def SucceedsFirst (test : PlaceTest) (text front : List Char) : Prop :=
  (∃ back, text = front ++ back ∧ test front back) ∧ FailsBefore test text front

/-- A part of a text occurs at a place. -/
def Occurs (part : List Char) : PlaceTest := fun _ back => part <+: back

/-- What follows a keyword at the start of a text, whatever the case of its letters. -/
def afterKeyword? : List Char → List Char → Option (List Char)
  | [], rest => some rest
  | k :: key, c :: rest => if c.toUpper = k then afterKeyword? key rest else none
  | _ :: _, [] => none

/-- Whether a keyword stands at the start of a text as a whole word, after a character in front. -/
def startsWithKeyword (key : List Char) (before : Option Char) (text : List Char) : Bool :=
  match afterKeyword? key text with
  | none => false
  | some rest => !before.any isKeywordPart && !rest.head?.any isKeywordPart

/-- One of some keywords is found at a place: it stands there as a whole word of ASCII characters,
in letters of any case. -/
def KeywordFound (keys : List String) : PlaceTest := fun front back =>
  ∃ key ∈ keys, startsWithKeyword key.toList front.getLast? back

/-- A place where a test succeeds is not in front of those where it fails. -/
theorem FailsBefore.byteLength_le {test : PlaceTest} {text front front' back back' : List Char}
    (h : FailsBefore test text front')
    (split' : text = front' ++ back') (split : text = front ++ back) (success : test front back) :
    byteLength front' ≤ byteLength front := by
  obtain less | equal | more := Nat.lt_trichotomy front.length front'.length
  · exact absurd success (h front back split less)
  · exact (congrArg byteLength (eq_of_length_eq split split' equal)).ge
  · exact (byteLength_lt_of_length_lt split' split more).le

/-- Every place of a text is its start or a place behind its first character. -/
theorem forall_places_cons {P : List Char → List Char → Prop} {c : Char} {cs : List Char} :
    (∀ f b, c :: cs = f ++ b → P f b) ↔ P [] (c :: cs) ∧ ∀ f b, cs = f ++ b → P (c :: f) b := by
  constructor
  · exact fun h => ⟨h [] _ rfl, fun f b split => h (c :: f) b (by rw [split, List.cons_append])⟩
  · rintro ⟨start, behind⟩ f b split
    cases f with
    | nil =>
        obtain rfl : c :: cs = b := split
        exact start
    | cons d f =>
        obtain ⟨rfl, rest⟩ := List.cons.inj split
        exact behind f b rest

/-! ## The first occurrence of a part -/

/-- The search finds the first occurrence, if there is one. -/
theorem firstOccurrence_spec (part text : List Char) :
    match firstOccurrence part text with
    | some n => ∃ front, SucceedsFirst (Occurs part) text front ∧ n = byteLength front
    | none => ∀ f b, text = f ++ b → ¬ Occurs part f b := by
  induction text with
  | nil =>
      unfold firstOccurrence
      split
      · next n found =>
          split at found
          · next empty =>
              cases found
              refine ⟨[], ⟨⟨[], rfl, ?_⟩, fun f b _ less => absurd less (Nat.not_lt_zero _)⟩, rfl⟩
              obtain rfl := List.isEmpty_iff.1 empty
              exact List.prefix_rfl
          · cases found
      · next found =>
          split at found
          · cases found
          · next some =>
              intro f b split occurs
              obtain ⟨-, rfl⟩ := List.append_eq_nil_iff.1 split.symm
              exact some (List.isEmpty_iff.2 (List.prefix_nil.1 occurs))
  | cons c cs ih =>
      unfold firstOccurrence
      by_cases here : part.isPrefixOf (c :: cs)
      · rw [if_pos here]
        exact ⟨[], ⟨⟨_, rfl, List.isPrefixOf_iff_prefix.1 here⟩,
          fun f b _ less => absurd less (Nat.not_lt_zero _)⟩, rfl⟩
      · rw [if_neg here]
        have notHere : ¬ Occurs part [] (c :: cs) := fun h => here (List.isPrefixOf_iff_prefix.2 h)
        cases rest : firstOccurrence part cs with
        | none =>
            rw [rest] at ih
            exact forall_places_cons.2 ⟨notHere, ih⟩
        | some n =>
            rw [rest] at ih
            obtain ⟨front, ⟨⟨back, split, occurs⟩, none⟩, rfl⟩ := ih
            refine ⟨c :: front, ⟨⟨back, by rw [split, List.cons_append], occurs⟩, ?_⟩, rfl⟩
            refine forall_places_cons.2 ⟨fun _ => notHere, fun f b split less => ?_⟩
            exact none f b split (Nat.lt_of_succ_lt_succ less)

/-! ## Where a search stops -/

/-- A search stops at the first place where its test succeeds, or at the end of the text. -/
def StopsAt (test : PlaceTest) (text : List Char) (position : Nat) : Prop :=
  ∃ front back, text = front ++ back ∧ position = byteLength front ∧
    FailsBefore test text front ∧ (back = [] ∨ test front back)

/-- A search stops at a given place exactly if its test succeeds there and at no place before. -/
theorem StopsAt.eq_iff {test : PlaceTest} {text front back : List Char} {position : Nat}
    (h : StopsAt test text position) (split : text = front ++ back) (some : back ≠ []) :
    position = byteLength front ↔ test front back ∧ FailsBefore test text front := by
  obtain ⟨front', back', split', rfl, none, stop⟩ := h
  constructor
  · intro same
    obtain rfl := eq_of_byteLength_eq split' split same
    obtain rfl := List.append_cancel_left (split'.symm.trans split)
    exact ⟨stop.resolve_left some, none⟩
  · rintro ⟨found, before⟩
    refine Nat.le_antisymm (none.byteLength_le split' split found) ?_
    obtain rfl | found' := stop
    · rw [List.append_nil] at split'
      rw [← split', split, byteLength_append]
      exact Nat.le_add_right _ _
    · exact before.byteLength_le split split' found'

/-- A search with a test that succeeds anywhere stops at the first place where it does. -/
theorem StopsAt.succeedsFirst {test : PlaceTest} {text front back : List Char} {position : Nat}
    (h : StopsAt test text position) (split : text = front ++ back) (success : test front back) :
    ∃ front, SucceedsFirst test text front ∧ position = byteLength front := by
  obtain ⟨front', back', split', rfl, none, stop⟩ := h
  refine ⟨front', ⟨⟨back', split', ?_⟩, none⟩, rfl⟩
  obtain rfl | found := stop
  · obtain rfl : text = front' := by rw [split', List.append_nil]
    have before := none.byteLength_le split' split success
    obtain rfl : back = [] := by
      rw [split, byteLength_append] at before
      have := length_le_byteLength back
      exact List.eq_nil_of_length_eq_zero (by omega)
    rw [List.append_nil] at split
    rwa [split]
  · exact found

/-- A search with a test that succeeds nowhere stops at the end of the text. -/
theorem StopsAt.eq_end {test : PlaceTest} {text : List Char} {position : Nat}
    (h : StopsAt test text position) (never : ∀ f b, text = f ++ b → ¬ test f b) :
    position = byteLength text := by
  obtain ⟨front, back, split, rfl, -, rfl | found⟩ := h
  · rw [split, List.append_nil]
  · exact absurd found (never front back split)

/-- The search for a part stops as a search does if the end of the text stands for no occurrence. -/
theorem stopsAt_firstOccurrence (part text : List Char) :
    StopsAt (Occurs part) text ((firstOccurrence part text).getD (byteLength text)) := by
  have found := firstOccurrence_spec part text
  cases position : firstOccurrence part text with
  | some n =>
      rw [position] at found
      obtain ⟨front, ⟨⟨back, split, occurs⟩, none⟩, rfl⟩ := found
      exact ⟨front, back, split, rfl, none, .inr occurs⟩
  | none =>
      rw [position] at found
      exact ⟨text, [], (List.append_nil text).symm, rfl, fun f b split _ => found f b split,
        .inl rfl⟩

end EntityQuery.ConditionText
