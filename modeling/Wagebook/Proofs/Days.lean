import Mathlib.Data.Int.Interval
import Wagebook.Period

/-!
The count of days goes with the calendar: a later date has a larger number. So the days of a period
are counted by its bounds, and no more dates lie in it than it has days.
-/

namespace Wagebook

def yearLength (year : Int) : Nat := if isLeapYear year then 366 else 365

namespace Date

theorem of?_eq_some_iff {year : Int} {month day : Nat} {d : Date} :
    of? year month day = some d ↔ d.year = year ∧ d.month = month ∧ d.day = day := by
  unfold of?
  split
  · rw [Option.some.injEq]
    constructor
    · rintro rfl
      exact ⟨rfl, rfl, rfl⟩
    · rintro ⟨rfl, rfl, rfl⟩
      rfl
  · rename_i none
    constructor
    · rintro ⟨⟩
    · rintro ⟨rfl, rfl, rfl⟩
      exact absurd d.valid none

theorem of?_eq_none {year : Int} {month day : Nat} (h : of? year month day = none) :
    ¬ Valid year month day := by
  unfold of? at h
  split at h
  · cases h
  · assumption

theorem daysBeforeYear_succ (year : Int) :
    daysBeforeYear (year + 1) = daysBeforeYear year + yearLength year := by
  unfold daysBeforeYear yearLength
  split
  · rename_i leap
    simp only [isLeapYear, Bool.and_eq_true, Bool.or_eq_true, decide_eq_true_eq] at leap
    omega
  · rename_i common
    simp only [isLeapYear, Bool.and_eq_true, Bool.or_eq_true, decide_eq_true_eq] at common
    omega

theorem daysBeforeYear_mono {year year' : Int} (le : year ≤ year') :
    daysBeforeYear year ≤ daysBeforeYear year' := by
  unfold daysBeforeYear
  omega

theorem daysBeforeMonth_succ (year : Int) {month : Nat} (pos : 1 ≤ month) :
    daysBeforeMonth year (month + 1) = daysBeforeMonth year month + monthLength year month := by
  obtain ⟨m, rfl⟩ := Nat.exists_eq_add_of_le' pos
  rfl

theorem daysBeforeMonth_mono (year : Int) {month month' : Nat} (pos : 1 ≤ month)
    (le : month ≤ month') : daysBeforeMonth year month ≤ daysBeforeMonth year month' := by
  induction month', le using Nat.le_induction with
  | base => exact Nat.le_refl _
  | succ n le ih =>
      rw [daysBeforeMonth_succ year (Nat.le_trans pos le)]
      exact Nat.le_add_right_of_le ih

theorem daysBeforeMonth_thirteen (year : Int) : daysBeforeMonth year 13 = yearLength year := by
  cases leap : isLeapYear year <;> simp [daysBeforeMonth, monthLength, yearLength, leap]

/-- The place of a date in its year. -/
def dayOfYear (d : Date) : Nat := daysBeforeMonth d.year d.month + d.day

theorem dayNumber_eq (d : Date) : d.dayNumber = daysBeforeYear d.year + d.dayOfYear := by
  simp [dayNumber, dayOfYear, Int.add_assoc]

theorem dayOfYear_pos (d : Date) : 1 ≤ d.dayOfYear := by
  have := d.valid.2.2.2.2.1
  unfold dayOfYear
  omega

theorem dayOfYear_lt_month (d : Date) {month : Nat} (later : d.month < month) :
    d.dayOfYear ≤ daysBeforeMonth d.year month := by
  obtain ⟨-, -, pos, -, -, most⟩ := d.valid
  have step := daysBeforeMonth_succ d.year pos
  have rest := daysBeforeMonth_mono d.year (Nat.le_add_left 1 d.month) later
  unfold dayOfYear
  omega

theorem dayOfYear_le (d : Date) : d.dayOfYear ≤ yearLength d.year := by
  rw [← daysBeforeMonth_thirteen]
  exact d.dayOfYear_lt_month (Nat.lt_succ_of_le d.valid.2.2.2.1)

theorem dayNumber_lt {a b : Date} (h : a < b) : a.dayNumber < b.dayNumber := by
  rw [dayNumber_eq, dayNumber_eq]
  rcases h with year | ⟨year, month | ⟨month, day⟩⟩
  · have start := daysBeforeYear_mono (Int.add_one_le_of_lt year)
    have len := daysBeforeYear_succ a.year
    have fits := a.dayOfYear_le
    have pos := b.dayOfYear_pos
    omega
  · have fits := a.dayOfYear_lt_month month
    have pos := b.valid.2.2.2.2.1
    simp only [dayOfYear, year] at fits ⊢
    omega
  · simp only [dayOfYear, year, month]
    omega

theorem eq_of_not_lt {a b : Date} (hab : ¬ a < b) (hba : ¬ b < a) : a = b := by
  change ¬ Before a b at hab
  change ¬ Before b a at hba
  unfold Before at hab hba
  rcases a with ⟨year, month, day, _⟩
  rcases b with ⟨year', month', day', _⟩
  simp only [mk.injEq]
  simp only at hab hba
  omega

theorem dayNumber_lt_iff {a b : Date} : a.dayNumber < b.dayNumber ↔ a < b := by
  refine ⟨fun less => ?_, dayNumber_lt⟩
  by_contra h
  by_cases hba : b < a
  · have := dayNumber_lt hba
    omega
  · rw [eq_of_not_lt h hba] at less
    exact Int.lt_irrefl _ less

theorem dayNumber_le_iff {a b : Date} : a.dayNumber ≤ b.dayNumber ↔ a ≤ b := by
  rw [← Int.not_lt, dayNumber_lt_iff]
  rfl

theorem dayNumber_injective : Function.Injective dayNumber := by
  intro a b same
  apply eq_of_not_lt <;> rw [← dayNumber_lt_iff, same] <;> exact Int.lt_irrefl _

/-- The count of days stays far from the bounds of any number. -/
theorem dayNumber_bounds (d : Date) : -100000000 < d.dayNumber ∧ d.dayNumber < 100000000 := by
  obtain ⟨first, last, -⟩ := d.valid
  have pos := d.dayOfYear_pos
  have most := d.dayOfYear_le
  have len : yearLength d.year ≤ 366 := by unfold yearLength; split <;> omega
  rw [dayNumber_eq]
  unfold daysBeforeYear
  unfold firstYear at first
  unfold lastYear at last
  omega

end Date

namespace Period

theorem contains_iff {p : Period} {d : Date} :
    p.Contains d ↔ p.first.dayNumber ≤ d.dayNumber ∧ d.dayNumber ≤ p.last.dayNumber := by
  rw [Date.dayNumber_le_iff, Date.dayNumber_le_iff]
  rfl

theorem two_le_workingDays {p : Period} (order : p.first < p.last) : 2 ≤ p.workingDays := by
  have := Date.dayNumber_lt order
  unfold workingDays
  omega

theorem workingDays_lt (p : Period) : p.workingDays < 200000000 := by
  have first := p.first.dayNumber_bounds
  have last := p.last.dayNumber_bounds
  unfold workingDays
  omega

/-- No more dates lie in a period than it has days. -/
theorem length_le_workingDays {p : Period} (order : p.first < p.last) {dates : List Date}
    (nodup : dates.Nodup) (inside : ∀ d ∈ dates, p.Contains d) :
    (dates.length : Int) ≤ p.workingDays := by
  have numbers : (dates.map Date.dayNumber).toFinset ⊆
      Finset.Icc p.first.dayNumber p.last.dayNumber := by
    intro n mem
    obtain ⟨d, hd, rfl⟩ := List.mem_map.mp (List.mem_toFinset.mp mem)
    exact Finset.mem_Icc.mpr (contains_iff.mp (inside d hd))
  have count := Finset.card_le_card numbers
  rw [List.toFinset_card_of_nodup (nodup.map Date.dayNumber_injective), List.length_map,
    Int.card_Icc] at count
  have := two_le_workingDays order
  unfold workingDays at this ⊢
  omega

end Period
end Wagebook
