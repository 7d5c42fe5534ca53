import Mathlib
import EntityQuery.Proofs.QueryText.Boundary

/-!
# Positions of keywords

The position of a keyword is the least offset at which one of some keywords stands in a text as a
whole word, in ASCII letters of any case. On the way, every offset that is looked at is one between
two characters of the text, and no byte is asked for that the text does not have.
-/

namespace EntityQuery.ConditionText

/-- A keyword stands at an offset of a text as a whole word: there are its letters, in any case, and
no letter, digit or underscore of ASCII is in front of them or behind them. -/
def StandsAt (key text : String) (offset : Nat) : Prop :=
  ∃ front word back, text = front ++ word ++ back ∧ front.utf8ByteSize = offset ∧
    word.toLower = key.toLower ∧ front.toList.getLast?.any isKeywordPart = false ∧
    back.toList.head?.any isKeywordPart = false

variable {key text : String} {keys : List String}

theorem isKeywordPart_of_isUpper {c : Char} (capital : c.isUpper) : isKeywordPart c := by
  simp [isKeywordPart, Char.isAlphanum, Char.isAlpha, capital]

/-- A capital letter in any case. -/
theorem toLower_eq_iff {c k : Char} (capital : k.isUpper) :
    c.toLower = k.toLower ↔ c.toUpper = k := by
  have same : k.toUpper = k :=
    Char.toUpper_eq_of_not_isLower (Char.not_isLower_of_isUpper capital)
  constructor
  · intro lower
    rw [← Char.toUpper_toLower_eq_toUpper, lower, Char.toUpper_toLower_eq_toUpper, same]
  · intro upper
    rw [← Char.toLower_toUpper_eq_toLower, upper]

theorem map_toLower_eq_iff {word key : List Char} (capitals : ∀ c ∈ key, c.isUpper) :
    word.map Char.toLower = key.map Char.toLower ↔ word.map Char.toUpper = key := by
  induction key generalizing word with
  | nil => simp
  | cons k key ih =>
      cases word with
      | nil => simp
      | cons c word =>
          rw [List.forall_mem_cons] at capitals
          simp only [List.map_cons, List.cons.injEq, toLower_eq_iff capitals.1, ih capitals.2]

theorem toLower_eq_toLower_iff {word key : String} (capitals : ∀ c ∈ key.toList, c.isUpper) :
    word.toLower = key.toLower ↔ word.toList.map Char.toUpper = key.toList := by
  rw [← map_toLower_eq_iff capitals, ← String.toList_inj]
  simp only [String.toLower, String.toList_map]

/-- Where a keyword in capital letters stands, the characters of the text start with it. -/
theorem standsAt_iff (capitals : ∀ c ∈ key.toList, c.isUpper) {offset : Nat} :
    StandsAt key text offset ↔ ∃ front back, text.toList = front ++ back ∧
      byteLength front = offset ∧ startsWithKeyword key.toList front.getLast? back := by
  constructor
  · rintro ⟨front, word, back, rfl, rfl, lower, before, behind⟩
    refine ⟨front.toList, word.toList ++ back.toList, ?_, byteLength_toList front,
      startsWithKeyword_iff.2 ?_⟩
    · rw [String.toList_append, String.toList_append, List.append_assoc]
    · exact ⟨word.toList, back.toList, rfl, (toLower_eq_toLower_iff capitals).1 lower, before,
        behind⟩
  · rintro ⟨front, back, split, rfl, starts⟩
    obtain ⟨word, rest, rfl, upper, before, behind⟩ := startsWithKeyword_iff.1 starts
    refine ⟨.ofList front, .ofList word, .ofList rest, ?_, (byteLength_eq_utf8ByteSize front).symm,
      (toLower_eq_toLower_iff capitals).2 ?_, ?_, ?_⟩
    · rw [← String.ofList_append, ← String.ofList_append, List.append_assoc, ← split,
        String.ofList_toList]
    · rw [String.toList_ofList, upper]
    · rw [String.toList_ofList, before]
    · rw [String.toList_ofList, behind]

theorem exists_standsAt_iff (capitals : ∀ key ∈ keys, ∀ c ∈ key.toList, c.isUpper) {offset : Nat} :
    (∃ key ∈ keys, StandsAt key text offset) ↔ ∃ front back, text.toList = front ++ back ∧
      byteLength front = offset ∧ KeywordFound keys front back := by
  constructor
  · rintro ⟨key, isKey, stands⟩
    obtain ⟨front, back, split, size, starts⟩ := (standsAt_iff (capitals key isKey)).1 stands
    exact ⟨front, back, split, size, key, isKey, starts⟩
  · rintro ⟨front, back, split, size, key, isKey, starts⟩
    exact ⟨key, isKey, (standsAt_iff (capitals key isKey)).2 ⟨front, back, split, size, starts⟩⟩

/-- The bytes next to an occurrence are all there. -/
theorem isSome_isWholeWord? {part text : List Char} {start : Nat}
    (mem : start ∈ occurrences part 0 0 text) :
    (isWholeWord? (bytesOf text) start (start + byteLength part)).isSome := by
  obtain ⟨front, -, rfl, rfl, rest, rfl⟩ := exists_of_mem_occurrences mem
  rw [Nat.zero_add, isWholeWord?_append]
  rfl

/-- The position of some keywords in capital letters is the least offset of the text at which one of
them stands as a whole word, or the end of the text if none does. It is a valid position, and so are
the start and the end of every occurrence that is looked at for it. None of the bytes next to an
occurrence is missing; the one in front may be the last of several of a character. -/
theorem keywordPosition_isLeast (capitals : ∀ key ∈ keys, ∀ c ∈ key.toList, c.isUpper)
    (text : String) :
    let found := {offset | ∃ key ∈ keys, StandsAt key text offset}
    let position := keywordPosition keys text.toList
    let capital := text.toList.map Char.toUpper
    (found.Nonempty → IsLeast found position) ∧
      (found = ∅ → position = text.utf8ByteSize) ∧
      (⟨position⟩ : String.Pos.Raw).IsValid text ∧
      ∀ key ∈ keys, ∀ start ∈ occurrences key.toList 0 0 capital,
        let stop := start + key.utf8ByteSize
        (⟨start⟩ : String.Pos.Raw).IsValid text ∧ (⟨stop⟩ : String.Pos.Raw).IsValid text ∧
          (isWholeWord? (bytesOf capital) start stop).isSome := by
  intro found position capital
  have letters : ∀ key ∈ keys, ∀ c ∈ key.toList, isKeywordPart c := fun key isKey c mem =>
    isKeywordPart_of_isUpper (capitals key isKey c mem)
  have stops : StopsAt (KeywordFound keys) text.toList position :=
    stopsAt_keywordPosition letters text.toList
  refine ⟨?_, ?_, (isBoundary_keywordPosition keys text.toList).isValid, ?_⟩
  · rintro ⟨offset, mem⟩
    obtain ⟨f, b, split, -, stands⟩ := (exists_standsAt_iff capitals).1 mem
    obtain ⟨front, ⟨⟨back, split, first⟩, none⟩, place⟩ := stops.succeedsFirst split stands
    rw [place]
    refine ⟨(exists_standsAt_iff capitals).2 ⟨front, back, split, rfl, first⟩, ?_⟩
    intro offset mem
    obtain ⟨f, b, split', rfl, stands⟩ := (exists_standsAt_iff capitals).1 mem
    exact none.byteLength_le split split' stands
  · intro nowhere
    rw [stops.eq_end, byteLength_toList]
    intro f b split stands
    have mem : byteLength f ∈ found :=
      (exists_standsAt_iff capitals).2 ⟨f, b, split, rfl, stands⟩
    rw [nowhere] at mem
    exact mem
  · intro key isKey start mem stop
    have boundary := isBoundary_of_mem_occurrences mem
    have whole := isSome_isWholeWord? mem
    rw [byteLength_toList] at boundary whole
    exact ⟨boundary.1.isValid, boundary.2.isValid, whole⟩

/-- The word is part of a longer one twice before, once so that an occurrence is skipped. -/
theorem keywordPosition_of_window :
    let keys := QueryText.foreignKeywords
    let text := "größe_window > 'windowindowed é' Window w"
    let capital := text.toList.map Char.toUpper
    (∀ key ∈ keys, ∀ c ∈ key.toList, c.isUpper) ∧
      occurrences "WINDOW".toList 0 0 capital = [8, 18, 36] ∧
      keywordPosition keys text.toList = 36 ∧
      IsLeast {offset | ∃ key ∈ keys, StandsAt key text offset} 36 ∧
      (⟨36⟩ : String.Pos.Raw).IsValid text ∧
      ∀ key ∈ keys, ∀ start ∈ occurrences key.toList 0 0 capital,
        let stop := start + key.utf8ByteSize
        (⟨start⟩ : String.Pos.Raw).IsValid text ∧ (⟨stop⟩ : String.Pos.Raw).IsValid text ∧
          (isWholeWord? (bytesOf capital) start stop).isSome := by
  intro keys text capital
  have capitals : ∀ key ∈ keys, ∀ c ∈ key.toList, c.isUpper := by
    simp [keys, QueryText.foreignKeywords]
  have position : keywordPosition keys text.toList = 36 := by decide
  have isKey : "WINDOW" ∈ keys := by decide
  have stands : StandsAt "WINDOW" text 36 := (standsAt_iff (capitals _ isKey)).2
    ⟨"größe_window > 'windowindowed é' ".toList, "Window w".toList, by decide⟩
  obtain ⟨least, -, valid, occurrences⟩ := keywordPosition_isLeast capitals text
  rw [position] at least valid
  exact ⟨capitals, by decide, position, least ⟨36, "WINDOW", isKey, stands⟩, valid,
    occurrences⟩

end EntityQuery.ConditionText
