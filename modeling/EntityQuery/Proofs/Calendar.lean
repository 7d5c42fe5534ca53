import EntityQuery.Calendar

/-!
# The days that can be shown

The year of a day is found by divisions within a cycle of four hundred years. The number of whole
years before a day never falls from one day to the next, so it is enough to know it at the turns of
the years, which are few. The dates that can be shown are then those of the days between two bounds.
-/

namespace EntityQuery

namespace Date

/-- The days of a cycle before a day, without the leap days that have ended a year. -/
def plainDays (d : Nat) : Nat := d - d / 1460 + d / 36524 - d / 146096

/-- The first day of a year within its cycle, where years begin in March. -/
def marchDay (year : Nat) : Nat := 365 * year + year / 4 - year / 100

theorem plainDays_mono {d e : Nat} (h : d ≤ e) : plainDays d ≤ plainDays e := by
  have whole : d - d / 1460 ≤ e - e / 1460 := by omega
  have centuries : d / 36524 - d / 146096 ≤ e / 36524 - e / 146096 := by omega
  unfold plainDays
  omega

/-- At the first day of a year, as many whole years have passed as its number says, and one less on
the day before. -/
theorem plainDays_marchDay : ∀ year < 400, 365 * year ≤ plainDays (marchDay year) ∧
    (year = 0 ∨ plainDays (marchDay year - 1) < 365 * year) := by
  decide +kernel

theorem fst_inCycle (d : Nat) : (inCycle d).1 = plainDays d / 365 := rfl

theorem le_year {d year : Nat} (small : year < 400) :
    year ≤ (inCycle d).1 ↔ marchDay year ≤ d := by
  obtain ⟨reached, before⟩ := plainDays_marchDay year small
  rw [fst_inCycle, Nat.le_div_iff_mul_le (by decide), Nat.mul_comm]
  constructor
  · intro passed
    refine Nat.le_of_not_lt fun early => ?_
    obtain rfl | before := before
    · exact Nat.not_lt_zero d early
    · have last := plainDays_mono (Nat.le_sub_one_of_lt early)
      omega
  · intro late
    exact Nat.le_trans reached (plainDays_mono late)

theorem year_lt {d : Nat} (h : d < cycleLength) : (inCycle d).1 < 400 := by
  simp only [inCycle, cycleLength] at *
  omega

/-- The first ten months from March on have three hundred and six days. -/
theorem month_lt_ten {d : Nat} (h : d < cycleLength) :
    (inCycle d).2.1 < 10 ↔ d < marchDay (inCycle d).1 + 306 := by
  have begun : marchDay (inCycle d).1 ≤ d := (le_year (year_lt h)).1 (Nat.le_refl _)
  change (5 * (d - marchDay (inCycle d).1) + 2) / 153 < 10 ↔ _
  omega

/-- The year of a day within its cycle, where years begin in January. -/
def januaryYear (d : Nat) : Nat := (inCycle d).1 + if (inCycle d).2.1 < 10 then 0 else 1

/-- A year is over in January, with three hundred and six days of its March year gone. -/
theorem lt_januaryYear {d : Nat} (h : d < cycleLength) (year : Nat) (small : year + 1 < 400) :
    year < januaryYear d ↔ marchDay year + 306 ≤ d := by
  have here : year ≤ (inCycle d).1 ↔ marchDay year ≤ d := le_year (Nat.lt_of_succ_lt small)
  have next : year + 1 ≤ (inCycle d).1 ↔ marchDay (year + 1) ≤ d := le_year small
  have month := month_lt_ten h
  have longer : marchDay year + 365 ≤ marchDay (year + 1) := by
    simp only [marchDay]
    omega
  unfold januaryYear
  by_cases begun : (inCycle d).1 = year
  · rw [begun] at month ⊢
    split <;> omega
  · split <;> omega

theorem januaryYear_le {d : Nat} (h : d < cycleLength) : januaryYear d ≤ 400 := by
  have small := year_lt h
  unfold januaryYear
  split <;> omega

/-- The year of a day is that within its cycle, four hundred years for each cycle apart. -/
theorem year_ofDays (days : Int) :
    (ofDays days).year = (days + 730425) / cycleLength * 400 +
      januaryYear ((days + 730425) % cycleLength).toNat := by
  simp only [ofDays, januaryYear]
  split <;> simp
  omega

/-- The first day that can be shown, counted from the start of 2000. -/
def firstDay : Int := -96476249

/-- The last day that can be shown. -/
def lastDay : Int := 95015279

/-- The days that have a date are those between two bounds. -/
theorem isSome_ofDays? (days : Int) :
    (ofDays? days).isSome ↔ firstDay ≤ days ∧ days ≤ lastDay := by
  have within : ((days + 730425) % cycleLength).toNat < cycleLength := by
    simp only [cycleLength]
    omega
  have first := lt_januaryYear within 256 (by decide)
  have last := lt_januaryYear within 142 (by decide)
  have whole := januaryYear_le within
  have shown : (ofDays? days).isSome ↔
      firstYear ≤ (ofDays days).year ∧ (ofDays days).year ≤ lastYear := by
    simp [ofDays?, Option.isSome_ite]
  rw [shown, year_ofDays]
  generalize januaryYear _ = year at *
  simp only [firstYear, lastYear, firstDay, lastDay, cycleLength, marchDay] at *
  omega

example : ofDays firstDay = ⟨firstYear, 1, 1⟩ ∧ ofDays lastDay = ⟨lastYear, 12, 31⟩ := by decide

end Date

end EntityQuery
