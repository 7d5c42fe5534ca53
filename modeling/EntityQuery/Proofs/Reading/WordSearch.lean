import EntityQuery.Proofs.Reading.Search

/-!
# Searching for keywords

A keyword is searched for in a text by its occurrences from left to right, of which the first one
that is a whole word counts. Occurrences that start inside of another one are never looked at, but
no whole word gets lost with them, since a letter of the keyword is in front of it. Whether an
occurrence is a whole word is told by bytes next to it, and these tell the same as the characters:
the bytes of a character that is not in ASCII are no part of a word. Nor do capital letters move
anything, so the least offset of several keywords is the first place of the text where one of them
stands as a word.
-/

namespace EntityQuery.ConditionText

/-! ## Occurrences from left to right -/

section

variable {part text : List Char} {skipped offset i : Nat}

/-- What is found is an occurrence. -/
theorem exists_of_mem_occurrences (mem : i ∈ occurrences part skipped offset text) :
    ∃ front back, text = front ++ back ∧ i = offset + byteLength front ∧ part <+: back := by
  induction text generalizing skipped offset with
  | nil =>
      rw [occurrences] at mem
      split at mem
      · next empty =>
          obtain rfl := List.mem_singleton.1 mem
          exact ⟨[], [], rfl, rfl, List.isEmpty_iff.1 empty ▸ List.nil_prefix⟩
      · cases mem
  | cons c cs ih =>
      have behind {skipped : Nat} (mem : i ∈ occurrences part skipped (offset + c.utf8Size) cs) :
          ∃ front back, c :: cs = front ++ back ∧ i = offset + byteLength front ∧ part <+: back := by
        obtain ⟨front, back, rfl, rfl, here⟩ := ih mem
        exact ⟨c :: front, back, rfl, Nat.add_assoc _ _ _, here⟩
      cases skipped with
      | succ skipped => exact behind mem
      | zero =>
          rw [occurrences] at mem
          split at mem
          · next here =>
              obtain rfl | mem := List.mem_cons.1 mem
              · exact ⟨[], c :: cs, rfl, rfl, List.isPrefixOf_iff_prefix.1 here⟩
              · exact behind mem
          · exact behind mem

theorem le_of_mem_occurrences (mem : i ∈ occurrences part skipped offset text) : offset ≤ i := by
  obtain ⟨front, -, -, rfl, -⟩ := exists_of_mem_occurrences mem
  exact Nat.le_add_right _ _

theorem pairwise_occurrences (part : List Char) (skipped offset : Nat) (text : List Char) :
    (occurrences part skipped offset text).Pairwise (· < ·) := by
  induction text generalizing skipped offset with
  | nil =>
      rw [occurrences]
      split
      · exact List.pairwise_singleton _ _
      · exact .nil
  | cons c cs ih =>
      cases skipped with
      | succ skipped => exact ih _ _
      | zero =>
          rw [occurrences]
          split
          · refine List.pairwise_cons.2 ⟨fun i mem => ?_, ih _ _⟩
            exact Nat.lt_of_lt_of_le (Nat.lt_add_of_pos_right c.utf8Size_pos)
              (le_of_mem_occurrences mem)
          · exact ih _ _

/-- An occurrence is found unless it starts inside of one: then the end of the text in front of it
is a start of the part. -/
theorem mem_occurrences_or {back : List Char} (here : part <+: back) (front : List Char)
    (skipped offset : Nat) :
    offset + byteLength front ∈ occurrences part skipped offset (front ++ back) ∨
      front.length < skipped ∨ ∃ inside, inside ≠ [] ∧ inside <:+ front ∧ inside <+: part := by
  induction front generalizing skipped offset with
  | nil =>
      cases skipped with
      | succ skipped => exact .inr (.inl (Nat.succ_pos skipped))
      | zero =>
          left
          cases back with
          | nil => simp [occurrences, List.prefix_nil.1 here]
          | cons c cs => simp [occurrences, List.isPrefixOf_iff_prefix.2 here]
  | cons c front ih =>
      have longer : (∃ inside, inside ≠ [] ∧ inside <:+ front ∧ inside <+: part) →
          ∃ inside, inside ≠ [] ∧ inside <:+ c :: front ∧ inside <+: part :=
        fun ⟨inside, nonempty, suffix, start⟩ =>
          ⟨inside, nonempty, suffix.trans (List.suffix_cons c front), start⟩
      rw [byteLength, ← Nat.add_assoc, List.cons_append]
      cases skipped with
      | succ skipped =>
          exact (ih skipped (offset + c.utf8Size)).imp_right
            (.imp (Nat.succ_lt_succ ·) longer)
      | zero =>
          rw [occurrences]
          split
          · next first =>
              obtain found | inside | start := ih (part.length - 1) (offset + c.utf8Size)
              · exact .inl (List.mem_cons_of_mem _ found)
              · -- the place is reached while an occurrence is skipped, so it is inside of that one
                have within : c :: front <+: part :=
                  List.prefix_of_prefix_length_le (List.prefix_append (c :: front) back)
                    (List.isPrefixOf_iff_prefix.1 first) (by simp only [List.length_cons]; omega)
                exact .inr (.inr ⟨c :: front, List.cons_ne_nil _ _, List.suffix_rfl, within⟩)
              · exact .inr (.inr (longer start))
          · obtain found | none | start := ih 0 (offset + c.utf8Size)
            · exact .inl found
            · exact absurd none (Nat.not_lt_zero _)
            · exact .inr (.inr (longer start))

end

/-! ## Bytes -/

theorem bytesOf_append (a b : List Char) : bytesOf (a ++ b) = bytesOf a ++ bytesOf b :=
  List.flatMap_append

@[simp] theorem length_bytesOf (text : List Char) : (bytesOf text).length = byteLength text := by
  induction text with
  | nil => rfl
  | cons c cs ih =>
      rw [bytesOf, List.flatMap_cons, List.length_append, String.length_utf8EncodeChar, ← bytesOf,
        ih, byteLength]

/-- Parts of words are the capital and the small letters, the digits and the underscore of ASCII. -/
theorem isKeywordPart_iff {c : Char} :
    isKeywordPart c ↔ (65 ≤ c.toNat ∧ c.toNat ≤ 90) ∨ (97 ≤ c.toNat ∧ c.toNat ≤ 122) ∨
      (48 ≤ c.toNat ∧ c.toNat ≤ 57) ∨ c.toNat = 95 := by
  have underscore : c = '_' ↔ c.toNat = 95 :=
    ⟨fun same => same ▸ rfl, fun same => Char.ext (UInt32.toNat_inj.1 same)⟩
  delta isKeywordPart Char.isAlphanum Char.isAlpha Char.isUpper Char.isLower Char.isDigit
  simp only [Bool.or_eq_true, Bool.and_eq_true, decide_eq_true_eq, beq_iff_eq, ge_iff_le,
    UInt32.le_iff_toNat_le, UInt32.reduceToNat, Char.reduceVal, Char.toNat_val, underscore, or_assoc]

theorem toNat_lt_of_isKeywordPart {c : Char} (word : isKeywordPart c) : c.toNat < 128 := by
  rw [isKeywordPart_iff] at word
  omega

theorem utf8Size_eq_one_iff_toNat {c : Char} : c.utf8Size = 1 ↔ c.toNat < 128 := by
  rw [Char.utf8Size_eq_one_iff, UInt32.le_iff_toNat_le]
  exact Nat.lt_succ_iff.symm

/-- No byte of a character that is encoded in several is one of ASCII. -/
theorem le_of_mem_utf8EncodeChar {c : Char} {b : UInt8} (several : c.utf8Size ≠ 1)
    (mem : b ∈ String.utf8EncodeChar c) : 128 ≤ b.toNat := by
  have marked (low mark : UInt8) (high : 128 ≤ mark.toNat) : 128 ≤ (low ||| mark).toNat := by
    rw [UInt8.toNat_or]
    exact high.trans Nat.right_le_or
  revert b
  have positive := c.utf8Size_pos
  have small := c.utf8Size_le_four
  obtain two | three | four : c.utf8Size = 2 ∨ c.utf8Size = 3 ∨ c.utf8Size = 4 := by omega
  · rw [String.utf8EncodeChar_eq_cons_cons two]
    simp only [List.forall_mem_cons]
    exact ⟨marked _ _ (by decide), marked _ _ (by decide), List.forall_mem_nil _⟩
  · rw [String.utf8EncodeChar_eq_cons_cons_cons three]
    simp only [List.forall_mem_cons]
    exact ⟨marked _ _ (by decide), marked _ _ (by decide), marked _ _ (by decide),
      List.forall_mem_nil _⟩
  · rw [String.utf8EncodeChar_eq_cons_cons_cons_cons four]
    simp only [List.forall_mem_cons]
    exact ⟨marked _ _ (by decide), marked _ _ (by decide), marked _ _ (by decide),
      marked _ _ (by decide), List.forall_mem_nil _⟩

/-- Every byte of a character tells whether the character can be part of a word. -/
theorem isWordByte_of_mem {c : Char} {b : UInt8} (mem : b ∈ String.utf8EncodeChar c) :
    isWordByte b = isKeywordPart c := by
  have foreign {d : Char} (high : 128 ≤ d.toNat) : isKeywordPart d = false :=
    Bool.eq_false_iff.2 fun word => Nat.not_lt.2 high (toNat_lt_of_isKeywordPart word)
  by_cases single : c.utf8Size = 1
  · rw [String.utf8EncodeChar_eq_singleton single, List.mem_singleton] at mem
    have small := utf8Size_eq_one_iff_toNat.1 single
    have same : Char.ofUInt8 b = c := by
      refine Char.ext (UInt32.toNat_inj.1 ?_)
      subst mem
      exact Nat.mod_eq_of_lt (small.trans (by decide))
    rw [isWordByte, same]
  · have large : 128 ≤ c.toNat := Nat.not_lt.1 (single ∘ utf8Size_eq_one_iff_toNat.2)
    have high : 128 ≤ (Char.ofUInt8 b).toNat := le_of_mem_utf8EncodeChar single mem
    rw [isWordByte, foreign high, foreign large]

/-- The byte in front of a place tells whether a word reaches it. -/
theorem wordBefore?_append (front back : List Char) :
    wordBefore? (bytesOf (front ++ back)) (byteLength front) =
      some (front.getLast?.any isKeywordPart) := by
  cases front using List.reverseRecOn with
  | nil => rfl
  | append_singleton front c =>
      obtain ⟨b, last⟩ : ∃ b, (String.utf8EncodeChar c).getLast? = some b :=
        ⟨_, List.getLast?_eq_some_getLast String.utf8EncodeChar_ne_nil⟩
      have bytes : bytesOf (front ++ [c]) = bytesOf front ++ String.utf8EncodeChar c := by
        simp [bytesOf]
      have inFront : (bytesOf (front ++ [c] ++ back))[byteLength (front ++ [c]) - 1]? = some b := by
        rw [bytesOf_append, ← length_bytesOf, List.getElem?_append_left, ← List.getLast?_eq_getElem?,
          bytes, List.getLast?_append, last, Option.some_or]
        rw [bytes, List.length_append]
        have := List.length_pos_of_mem (List.mem_of_getLast? last)
        omega
      have some : byteLength (front ++ [c]) ≠ 0 := by
        have := c.utf8Size_pos
        simp only [byteLength_append, byteLength]
        omega
      rw [wordBefore?, if_neg some, inFront, Option.map_some,
        isWordByte_of_mem (List.mem_of_getLast? last), List.getLast?_append, List.getLast?_singleton]
      rfl

/-- The byte behind a place tells whether a word goes on from it. -/
theorem wordAt?_append (front back : List Char) :
    wordAt? (bytesOf (front ++ back)) (byteLength front) =
      some (back.head?.any isKeywordPart) := by
  cases back with
  | nil =>
      rw [wordAt?, List.append_nil, length_bytesOf, if_pos rfl]
      rfl
  | cons c back =>
      obtain ⟨b, more, encoded⟩ : ∃ b more, String.utf8EncodeChar c = b :: more :=
        List.exists_cons_of_ne_nil String.utf8EncodeChar_ne_nil
      have next : (bytesOf (front ++ c :: back))[byteLength front]? = some b := by
        rw [bytesOf_append, ← length_bytesOf, List.getElem?_append_right Nat.le.refl, Nat.sub_self,
          bytesOf, List.flatMap_cons, encoded]
        rfl
      have inside : byteLength front ≠ (bytesOf (front ++ c :: back)).length := by
        have := c.utf8Size_pos
        rw [length_bytesOf, byteLength_append, byteLength]
        omega
      rw [wordAt?, if_neg inside, next, Option.map_some,
        isWordByte_of_mem (encoded ▸ List.mem_cons_self)]
      rfl

/-- No byte is looked at that is not there, and the answer is that of the characters. -/
theorem isWholeWord?_append (front word back : List Char) :
    isWholeWord? (bytesOf (front ++ (word ++ back))) (byteLength front)
        (byteLength front + byteLength word) =
      some (!front.getLast?.any isKeywordPart && !back.head?.any isKeywordPart) := by
  have behind := wordAt?_append (front ++ word) back
  rw [List.append_assoc, byteLength_append] at behind
  rw [isWholeWord?, wordBefore?_append, behind]
  cases front.getLast?.any isKeywordPart <;> rfl

/-! ## The first whole word -/

/-- A word stands at a place as a whole one: no part of a word is next to it. -/
def WordStands (word : List Char) : PlaceTest := fun front back =>
  ∃ rest, back = word ++ rest ∧ front.getLast?.any isKeywordPart = false ∧
    rest.head?.any isKeywordPart = false

section

variable {key text front back : List Char}

/-- The test of an occurrence succeeds exactly if it is a whole word. -/
theorem isWholeWord?_eq_true_iff (here : key <+: back) :
    isWholeWord? (bytesOf (front ++ back)) (byteLength front)
        (byteLength front + byteLength key) = some true ↔ WordStands key front back := by
  obtain ⟨rest, rfl⟩ := here
  rw [isWholeWord?_append]
  simp [WordStands]

theorem WordStands.isPrefix (stands : WordStands key front back) : key <+: back := by
  obtain ⟨rest, rfl, -⟩ := stands
  exact List.prefix_append key rest

/-- No whole word is passed over: what starts inside of an occurrence follows a letter of it. -/
theorem WordStands.mem_occurrences (stands : WordStands key front back)
    (letters : ∀ c ∈ key, isKeywordPart c) :
    byteLength front ∈ occurrences key 0 0 (front ++ back) := by
  obtain found | none | ⟨inside, nonempty, suffix, start⟩ :=
    mem_occurrences_or stands.isPrefix front 0 0
  · rwa [Nat.zero_add] at found
  · exact absurd none (Nat.not_lt_zero _)
  · obtain ⟨-, -, apart, -⟩ := stands
    obtain ⟨before, rfl⟩ := suffix
    have last := List.getLast?_eq_some_getLast nonempty
    have letter := letters _ (start.subset (List.getLast_mem nonempty))
    rw [List.getLast?_append, last, Option.some_or, Option.any_some, letter] at apart
    cases apart

/-- The search for a keyword finds the first place where it is a whole word, if there is one. -/
theorem wordOffset?_spec (letters : ∀ c ∈ key, isKeywordPart c) (text : List Char) :
    match wordOffset? text key with
    | some n => ∃ front, SucceedsFirst (WordStands key) text front ∧ n = byteLength front
    | none => ∀ f b, text = f ++ b → ¬ WordStands key f b := by
  have succeeds {f b : List Char} (split : text = f ++ b) (stands : WordStands key f b) :
      byteLength f ∈ occurrences key 0 0 text ∧ isWholeWord? (bytesOf text) (byteLength f)
        (byteLength f + byteLength key) = some true := by
    subst split
    exact ⟨stands.mem_occurrences letters, (isWholeWord?_eq_true_iff stands.isPrefix).2 stands⟩
  cases search : wordOffset? text key with
  | none =>
      intro f b split stands
      obtain ⟨found, whole⟩ := succeeds split stands
      exact List.find?_eq_none.1 search _ found (beq_iff_eq.2 whole)
  | some n =>
      obtain ⟨whole, earlier, later, list, fails⟩ := List.find?_eq_some_iff_append.1 search
      obtain ⟨front, back, rfl, rfl, here⟩ :=
        exists_of_mem_occurrences (list ▸ List.mem_append_right earlier List.mem_cons_self)
      rw [Nat.zero_add] at whole list ⊢
      refine ⟨front, ⟨⟨back, rfl, (isWholeWord?_eq_true_iff here).1 (beq_iff_eq.1 whole)⟩, ?_⟩, rfl⟩
      intro f b split less stands
      obtain ⟨found, whole'⟩ := succeeds split stands
      have before := byteLength_lt_of_length_lt split rfl less
      -- occurrences are found from left to right, so this one was tested
      have order := pairwise_occurrences key 0 0 (front ++ back)
      rw [list, List.pairwise_append, List.pairwise_cons] at order
      rw [list, List.mem_append, List.mem_cons] at found
      obtain tested | same | behind := found
      · have failed := fails _ tested
        rw [whole'] at failed
        cases failed
      · exact absurd same (Nat.ne_of_lt before)
      · exact absurd (order.2.1.1 _ behind) (Nat.lt_asymm before)

end

/-! ## Capital letters -/

/-- Only the small letters of ASCII change. -/
theorem toNat_toUpper (c : Char) :
    c.toUpper.toNat = if 97 ≤ c.toNat ∧ c.toNat ≤ 122 then c.toNat - 32 else c.toNat := by
  have small : ('a'.val ≤ c.val ∧ c.val ≤ 'z'.val) ↔ 97 ≤ c.toNat ∧ c.toNat ≤ 122 := .rfl
  delta Char.toUpper
  split
  · next isSmall =>
      rw [small] at isSmall
      have sum : (c.val + ('A'.val - 'a'.val)).toNat = (c.toNat + (2 ^ 32 - 32)) % 2 ^ 32 :=
        UInt32.toNat_add c.val ('A'.val - 'a'.val)
      rw [if_pos isSmall]
      refine sum.trans ?_
      omega
  · next other => rw [if_neg (other ∘ small.2)]

@[simp] theorem isKeywordPart_toUpper (c : Char) : isKeywordPart c.toUpper = isKeywordPart c := by
  rw [Bool.eq_iff_iff, isKeywordPart_iff, isKeywordPart_iff, toNat_toUpper]
  split <;> omega

@[simp] theorem utf8Size_toUpper (c : Char) : c.toUpper.utf8Size = c.utf8Size := by
  by_cases small : 97 ≤ c.toNat ∧ c.toNat ≤ 122
  · have capital : c.toUpper.toNat = c.toNat - 32 := (toNat_toUpper c).trans (if_pos small)
    rw [utf8Size_eq_one_iff_toNat.2 (by omega), utf8Size_eq_one_iff_toNat.2 (by omega)]
  · have same : c.toUpper = c :=
      Char.ext (UInt32.toNat_inj.1 ((toNat_toUpper c).trans (if_neg small)))
    rw [same]

@[simp] theorem byteLength_map_toUpper (text : List Char) :
    byteLength (text.map Char.toUpper) = byteLength text := by
  induction text with
  | nil => rfl
  | cons c cs ih => rw [List.map_cons, byteLength, byteLength, ih, utf8Size_toUpper]

/-! ## The first keyword -/

theorem afterKeyword?_eq_some {key text rest : List Char} :
    afterKeyword? key text = some rest ↔ ∃ word, text = word ++ rest ∧ word.map Char.toUpper = key := by
  fun_induction afterKeyword? key text with
  | case1 text => simp [eq_comm]
  | case2 key c text ih =>
      rw [ih]
      constructor
      · rintro ⟨word, rfl, rfl⟩
        exact ⟨c :: word, rfl, rfl⟩
      · rintro ⟨word, split, upper⟩
        cases word with
        | nil => cases upper
        | cons d word =>
            obtain ⟨-, rest⟩ := List.cons.inj split
            exact ⟨word, rest, (List.cons.inj upper).2⟩
  | case3 k key c text other =>
      refine iff_of_false nofun ?_
      rintro ⟨word, split, upper⟩
      cases word with
      | nil => cases upper
      | cons d word =>
          obtain ⟨rfl, -⟩ := List.cons.inj split
          exact other (List.cons.inj upper).1
  | case4 k key =>
      refine iff_of_false nofun ?_
      rintro ⟨word, split, upper⟩
      obtain ⟨rfl, -⟩ := List.append_eq_nil_iff.1 split.symm
      cases upper

theorem startsWithKeyword_iff {key text : List Char} {before : Option Char} :
    startsWithKeyword key before text ↔ ∃ word rest, text = word ++ rest ∧
      word.map Char.toUpper = key ∧ before.any isKeywordPart = false ∧
      rest.head?.any isKeywordPart = false := by
  unfold startsWithKeyword
  constructor
  · intro starts
    cases after : afterKeyword? key text with
    | none => simp [after] at starts
    | some rest =>
        obtain ⟨word, split, upper⟩ := afterKeyword?_eq_some.1 after
        simp only [after, Bool.and_eq_true, Bool.not_eq_true'] at starts
        exact ⟨word, rest, split, upper, starts⟩
  · rintro ⟨word, rest, split, upper, apart⟩
    rw [afterKeyword?_eq_some.2 ⟨word, split, upper⟩]
    simpa only [Bool.and_eq_true, Bool.not_eq_true'] using apart

/-- A keyword starts where it is a whole word of the text in capital letters. -/
theorem startsWithKeyword_iff_wordStands {key front back : List Char} :
    startsWithKeyword key front.getLast? back ↔
      WordStands key (front.map Char.toUpper) (back.map Char.toUpper) := by
  have upper (c : Option Char) : (c.map Char.toUpper).any isKeywordPart = c.any isKeywordPart := by
    cases c <;> simp
  rw [startsWithKeyword_iff]
  constructor
  · rintro ⟨word, rest, rfl, rfl, before, behind⟩
    refine ⟨rest.map Char.toUpper, List.map_append, ?_, ?_⟩
    · rw [List.getLast?_map, upper, before]
    · rw [List.head?_map, upper, behind]
  · rintro ⟨rest, split, before, behind⟩
    obtain ⟨word, rest, rfl, rfl, rfl⟩ := List.map_eq_append_iff.1 split
    rw [List.getLast?_map, upper] at before
    rw [List.head?_map, upper] at behind
    exact ⟨word, rest, rfl, rfl, before, behind⟩

/-- A keyword is found in a text where it is a whole word of the text in capital letters. -/
theorem keywordFound_iff {keys : List String} {front back : List Char} :
    KeywordFound keys front back ↔ ∃ key ∈ keys,
      WordStands key.toList (front.map Char.toUpper) (back.map Char.toUpper) := by
  simp only [KeywordFound, startsWithKeyword_iff_wordStands]

/-- In capital letters, a keyword is found in the places of the text itself. -/
theorem wordOffset?_toUpper {key : List Char} (letters : ∀ c ∈ key, isKeywordPart c)
    (text : List Char) :
    let stands : PlaceTest := fun f b => WordStands key (f.map Char.toUpper) (b.map Char.toUpper)
    match wordOffset? (text.map Char.toUpper) key with
    | some n => ∃ front, SucceedsFirst stands text front ∧ n = byteLength front
    | none => ∀ f b, text = f ++ b → ¬ stands f b := by
  intro stands
  have first := wordOffset?_spec letters (text.map Char.toUpper)
  cases search : wordOffset? (text.map Char.toUpper) key with
  | none =>
      rw [search] at first
      rintro f b rfl
      exact first _ _ List.map_append
  | some n =>
      rw [search] at first
      obtain ⟨front, ⟨⟨back, split, found⟩, none⟩, rfl⟩ := first
      obtain ⟨front, back, rfl, rfl, rfl⟩ := List.map_eq_append_iff.1 split
      refine ⟨front, ⟨⟨back, rfl, found⟩, fun f b split less => ?_⟩, byteLength_map_toUpper front⟩
      exact none _ _ (by rw [split, List.map_append]) (by simpa only [List.length_map] using less)

/-- The least offset of all keywords is that of the first place where one of them is found, since
each of them is searched for until it is found. -/
theorem stopsAt_keywordPosition {keys : List String}
    (letters : ∀ key ∈ keys, ∀ c ∈ key.toList, isKeywordPart c) (text : List Char) :
    StopsAt (KeywordFound keys) text (keywordPosition keys text) := by
  let found := keys.filterMap fun key => wordOffset? (text.map Char.toUpper) key.toList
  have position : keywordPosition keys text = found.min?.getD (byteLength text) := rfl
  have earliest {f b : List Char} (split : text = f ++ b) (stands : KeywordFound keys f b) :
      ∃ n ∈ found, n ≤ byteLength f := by
    obtain ⟨key, isKey, stands⟩ := keywordFound_iff.1 stands
    have first := wordOffset?_toUpper (letters key isKey) text
    cases search : wordOffset? (text.map Char.toUpper) key.toList with
    | none =>
        rw [search] at first
        exact absurd stands (first f b split)
    | some n =>
        rw [search] at first
        obtain ⟨front, ⟨⟨back, split', -⟩, none⟩, rfl⟩ := first
        exact ⟨_, List.mem_filterMap.2 ⟨key, isKey, search⟩, none.byteLength_le split' split stands⟩
  cases least : found.min? with
  | none =>
      rw [position, least, Option.getD_none]
      refine ⟨text, [], (List.append_nil text).symm, rfl, fun f b split _ stands => ?_, .inl rfl⟩
      obtain ⟨n, mem, -⟩ := earliest split stands
      rw [List.min?_eq_none_iff.1 least] at mem
      cases mem
  | some n =>
      obtain ⟨mem, le⟩ := List.min?_eq_some_iff.1 least
      obtain ⟨key, isKey, search⟩ := List.mem_filterMap.1 mem
      have first := wordOffset?_toUpper (letters key isKey) text
      rw [search] at first
      obtain ⟨front, ⟨⟨back, rfl, stands⟩, -⟩, rfl⟩ := first
      rw [position, least, Option.getD_some]
      refine ⟨front, back, rfl, rfl, fun f b split less stands => ?_,
        .inr (keywordFound_iff.2 ⟨key, isKey, stands⟩)⟩
      obtain ⟨m, mem, before⟩ := earliest split stands
      exact absurd (byteLength_lt_of_length_lt split rfl less) (Nat.not_lt.2 ((le m mem).trans before))

end EntityQuery.ConditionText
