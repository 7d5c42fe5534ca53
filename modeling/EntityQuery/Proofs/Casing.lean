import EntityQuery.Unicode.Case

/-!
# Changing case twice

Changing the case of a text once more changes nothing. What a character is mapped to has no mapping
of its own, so it stays as it is wherever it stands. For the runs of the tables this is read off
their bounds: the characters that a run leads to stand outside of every run, or in the gaps of one
that takes every other character. Only the few characters that are mapped to ASCII, and those that
expansions consist of, are looked at one by one.
-/

namespace EntityQuery.Unicode

/-! ## Runs -/

namespace CaseRun

/-- Whether a code point belongs to a run. -/
def covers (run : CaseRun) (n : Nat) : Bool :=
  run.first ≤ n && n ≤ run.last && (n - run.first) % run.stride == 0

/-- Where a run leads a code point. -/
def image (run : CaseRun) (n : Nat) : Nat := (n + run.shift).toNat

/-- Whether a run leads to code points from `low` to `high` alone. -/
def leadsInto (run : CaseRun) (low high : Nat) : Bool :=
  low.ble (run.image run.first) && (run.image run.last).ble high

/-- Whether a run leads to code points outside of another run: in front of it, behind it, or in its
gaps. -/
def avoids (run other : CaseRun) : Bool :=
  (run.image run.last).blt other.first || other.last.blt (run.image run.first) ||
    ((run.stride == 2 || run.first == run.last) && other.stride == 2 &&
      (run.image run.first + other.first) % 2 == 1)

variable {run other : CaseRun} {n : Nat} {c d : Char}

theorem map?_eq (run : CaseRun) (n : Nat) :
    run.map? n = if run.covers n then some (.ofNat (run.image n)) else none := rfl

theorem covers_iff :
    run.covers n ↔ run.first ≤ n ∧ n ≤ run.last ∧ (n - run.first) % run.stride = 0 := by
  simp [covers, and_assoc]

theorem leadsInto_iff {low high : Nat} :
    run.leadsInto low high ↔ low ≤ run.image run.first ∧ run.image run.last ≤ high := by
  simp [leadsInto]

theorem le_image (covered : run.covers n) :
    run.image run.first ≤ run.image n ∧ run.image n ≤ run.image run.last := by
  rw [covers_iff] at covered
  simp only [image]
  omega

/-- A run that avoids another one leads none of its code points into that one. -/
theorem covers_image (avoids : run.avoids other) (proper : 0 < run.image run.first)
    (covered : run.covers n) : other.covers (run.image n) = false := by
  have bounds := le_image covered
  rw [covers_iff] at covered
  rw [← Bool.not_eq_true]
  intro inside
  rw [covers_iff] at inside
  simp only [CaseRun.avoids, Bool.or_eq_true, Bool.and_eq_true, beq_iff_eq, Nat.blt_eq] at avoids
  obtain (before | behind) | ⟨⟨sparse, gaps⟩, odd⟩ := avoids
  · omega
  · omega
  · -- The other run takes every other code point, and the parity of the images is that of the gaps.
    rw [gaps] at inside
    obtain every | single := sparse
    · rw [every] at covered
      simp only [image] at *
      omega
    · simp only [image] at *
      omega

end CaseRun

/-! ## Tables -/

section

variable (ascii : Char → Char) (runs : List CaseRun) (expansions : List (Nat × List Nat))

/-- The case of a character: ASCII has a mapping of its own. -/
def caseOf (c : Char) : List Char :=
  if c.toNat < 128 then [ascii c] else mapCase runs expansions c

/-- Whether a run leads to characters without a mapping of their own: beyond ASCII outside of all
runs and expansions, or from a single character into ASCII. -/
def isSettledRun (run : CaseRun) : Bool :=
  (run.leadsInto 128 0xD7FF || run.leadsInto 0xE000 0x10FFFF) && runs.all run.avoids &&
      expansions.all (fun x => run.avoids ⟨x.1, x.1, 1, 0⟩) ||
    run.first == run.last && run.leadsInto 0 127 &&
      ascii (.ofNat (run.image run.first)) == .ofNat (run.image run.first)

/-- What the tables lead to has no mapping of its own. -/
structure IsSettled : Prop where
  ofAscii : ∀ n < 128, (ascii (.ofNat n)).toNat < 128 ∧ ascii (ascii (.ofNat n)) = ascii (.ofNat n)
  ofRuns : ∀ run ∈ runs, isSettledRun ascii runs expansions run
  ofExpansions : ∀ x ∈ expansions, ∀ n ∈ x.2, caseOf ascii runs expansions (.ofNat n) = [.ofNat n]

variable {ascii runs expansions}

theorem toNat_ofNat {n : Nat} (valid : n ≤ 0xD7FF ∨ 0xE000 ≤ n ∧ n ≤ 0x10FFFF) :
    (Char.ofNat n).toNat = n := by
  have isValid : n.isValidChar := by
    simp only [Nat.isValidChar]
    omega
  rw [Char.ofNat, dif_pos isValid]
  rfl

theorem mapCase_eq_self {c : Char} (expansion : ∀ x ∈ expansions, c.toNat ≠ x.1)
    (uncovered : ∀ run ∈ runs, run.covers c.toNat = false) : mapCase runs expansions c = [c] := by
  have none : expansions.lookup c.toNat = none := by
    rw [List.lookup_eq_none_iff]
    exact fun x mem => by simpa using expansion x mem
  have unmapped : runs.findSome? (·.map? c.toNat) = Option.none := by
    rw [List.findSome?_eq_none_iff]
    intro run mem
    rw [CaseRun.map?_eq, uncovered run mem, if_neg Bool.false_ne_true]
  rw [mapCase, none, unmapped]
  rfl

/-- What a run leads to has no mapping of its own. -/
theorem caseOf_image {run : CaseRun} {n : Nat} (settled : isSettledRun ascii runs expansions run)
    (covered : run.covers n) :
    caseOf ascii runs expansions (.ofNat (run.image n)) = [.ofNat (run.image n)] := by
  have bounds := run.le_image covered
  simp only [isSettledRun, Bool.or_eq_true, Bool.and_eq_true, CaseRun.leadsInto_iff,
    List.all_eq_true, beq_iff_eq] at settled
  obtain ⟨⟨beyond, apart⟩, unexpanded⟩ | ⟨⟨single, into⟩, kept⟩ := settled
  · have code : (Char.ofNat (run.image n)).toNat = run.image n := toNat_ofNat (by omega)
    have proper : 0 < run.image run.first := by omega
    have notAscii : ¬ (Char.ofNat (run.image n)).toNat < 128 := by omega
    rw [caseOf, if_neg notAscii]
    refine mapCase_eq_self (fun x mem same => ?_) fun other mem => ?_
    · have outside := CaseRun.covers_image (unexpanded x mem) proper covered
      simp [← same, code, CaseRun.covers] at outside
    · rw [code]
      exact CaseRun.covers_image (apart other mem) proper covered
  · have covered := CaseRun.covers_iff.1 covered
    obtain rfl : n = run.first := by omega
    have code : (Char.ofNat (run.image run.first)).toNat = run.image run.first :=
      toNat_ofNat (by omega)
    rw [caseOf, if_pos (by omega), kept]

/-- What a character is mapped to has no mapping of its own. -/
theorem IsSettled.caseOf_of_mem (settled : IsSettled ascii runs expansions) {c d : Char}
    (mem : d ∈ caseOf ascii runs expansions c) : caseOf ascii runs expansions d = [d] := by
  rw [caseOf] at mem
  split at mem
  · next small =>
      obtain rfl := List.mem_singleton.1 mem
      have kept := settled.ofAscii c.toNat small
      rw [Char.ofNat_toNat] at kept
      rw [caseOf, if_pos kept.1, kept.2]
  · next large =>
      rw [mapCase] at mem
      split at mem
      · next ns found =>
          obtain ⟨n, listed, rfl⟩ := List.mem_map.1 mem
          obtain ⟨before, after, rfl, -⟩ := List.lookup_eq_some_iff.1 found
          exact settled.ofExpansions _ List.mem_append_cons_self n listed
      · next none =>
          obtain rfl := List.mem_singleton.1 mem
          cases mapped : runs.findSome? (·.map? c.toNat) with
          | none =>
              rw [Option.getD_none, caseOf, if_neg large, mapCase, none]
              simp only [mapped, Option.getD_none]
          | some d =>
              obtain ⟨run, among, leads⟩ := List.exists_of_findSome?_eq_some mapped
              rw [CaseRun.map?_eq] at leads
              split at leads
              · next covered =>
                  cases leads
                  exact caseOf_image (settled.ofRuns run among) covered
              · cases leads

end

/-! ## Lower case -/

theorem lower_settled : IsSettled Char.toLower lowerRuns lowerExpansions where
  ofAscii := by decide
  ofRuns := List.all_eq_true.1 (by decide +kernel)
  ofExpansions := by decide +kernel

theorem lowerChar_of_mem {c d : Char} (mem : d ∈ lowerChar c) : lowerChar d = [d] :=
  lower_settled.caseOf_of_mem mem

/-- Either form of a small sigma is in lower case. -/
theorem lowerChar_sigmaBetween (before after : List Char) :
    lowerChar (sigmaBetween before after) = [sigmaBetween before after] := by
  unfold sigmaBetween
  split
  · decide
  · decide

theorem lowerChar_of_mem_lowerFrom {before cs : List Char} {d : Char}
    (mem : d ∈ lowerFrom before cs) : lowerChar d = [d] := by
  induction cs generalizing before with
  | nil => cases mem
  | cons c cs ih =>
      rw [lowerFrom, List.mem_append] at mem
      obtain own | later := mem
      · split at own
        · rw [List.mem_singleton.1 own]
          exact lowerChar_sigmaBetween before cs
        · exact lowerChar_of_mem own
      · exact ih later

/-- A capital sigma is changed, so its neighbours do not matter where nothing is. -/
theorem lowerFrom_of_kept {before cs : List Char} (kept : ∀ c ∈ cs, lowerChar c = [c]) :
    lowerFrom before cs = cs := by
  induction cs generalizing before with
  | nil => rfl
  | cons c cs ih =>
      obtain ⟨own, later⟩ := List.forall_mem_cons.1 kept
      have noSigma : c ≠ 'Σ' := by
        rintro rfl
        revert own
        decide
      rw [lowerFrom, if_neg noSigma, own, ih later, List.singleton_append]

/-- A text in lower case stays as it is. -/
theorem lower_lower (s : String) : lower (lower s) = lower s := by
  rw [lower, lower, String.toList_ofList,
    lowerFrom_of_kept fun c mem => lowerChar_of_mem_lowerFrom mem]

/-! ## Upper case -/

theorem upper_settled : IsSettled Char.toUpper upperRuns upperExpansions where
  ofAscii := by decide
  ofRuns := List.all_eq_true.1 (by decide +kernel)
  ofExpansions := by decide +kernel

theorem upperChar_of_mem {c d : Char} (mem : d ∈ upperChar c) : upperChar d = [d] :=
  upper_settled.caseOf_of_mem mem

theorem flatMap_upperChar_of_kept {cs : List Char} (kept : ∀ c ∈ cs, upperChar c = [c]) :
    cs.flatMap upperChar = cs := by
  induction cs with
  | nil => rfl
  | cons c cs ih =>
      obtain ⟨own, later⟩ := List.forall_mem_cons.1 kept
      rw [List.flatMap_cons, own, ih later, List.singleton_append]

/-- A text in upper case stays as it is. -/
theorem upper_upper (s : String) : upper (upper s) = upper s := by
  rw [upper, upper, String.toList_ofList, flatMap_upperChar_of_kept]
  intro d mem
  obtain ⟨c, -, own⟩ := List.mem_flatMap.1 mem
  exact upperChar_of_mem own

end EntityQuery.Unicode
