import Mathlib.Data.Set.Card
import Wagebook.Amount
import Wagebook.Proofs.Days

/-!
The count of days has no gaps: the next day of the calendar has the next number, so the numbers
between those of two dates all belong to dates. A period therefore holds as many dates that can be
claimed as it has days that its pay is divided by.
-/

namespace Wagebook

namespace Date

theorem monthLength_pos (year : Int) (month : Nat) : 1 ≤ monthLength year month := by
  unfold monthLength
  split
  · split <;> omega
  all_goals omega

/-- The next date of the calendar has the next number. -/
theorem dayNumber_next {d e : Date} (h : d.next? = some e) : e.dayNumber = d.dayNumber + 1 := by
  obtain ⟨-, -, pos, most, -, day⟩ := d.valid
  unfold next? at h
  split at h
  · obtain ⟨year, month, day⟩ := of?_eq_some_iff.mp h
    simp only [dayNumber, year, month, day]
    omega
  · rename_i monthEnds
    have full : d.day = monthLength d.year d.month := by omega
    split at h
    · obtain ⟨year, month, day⟩ := of?_eq_some_iff.mp h
      have step := daysBeforeMonth_succ d.year pos
      simp only [dayNumber, year, month, day]
      omega
    · rename_i yearEnds
      have december : d.month = 12 := by omega
      obtain ⟨year, month, day⟩ := of?_eq_some_iff.mp h
      have step : daysBeforeMonth d.year 13 = daysBeforeMonth d.year 12 + monthLength d.year 12 :=
        daysBeforeMonth_succ d.year (by decide)
      have whole := daysBeforeMonth_thirteen d.year
      have years := daysBeforeYear_succ d.year
      have january : daysBeforeMonth (d.year + 1) 1 = 0 := rfl
      rw [december] at full
      simp only [dayNumber, year, month, day, december, january]
      omega

/-- Only the last date of all has no next one. -/
theorem le_of_next?_eq_none {d : Date} (h : d.next? = none) (e : Date) : e ≤ d := by
  obtain ⟨least, last, pos, most, one, day⟩ := d.valid
  unfold next? at h
  split at h
  · rename_i monthGoesOn
    exact absurd ⟨least, last, pos, most, by omega, by omega⟩ (of?_eq_none h)
  · rename_i monthEnds
    split at h
    · rename_i yearGoesOn
      exact absurd ⟨least, last, by omega, by omega, by omega, monthLength_pos _ _⟩ (of?_eq_none h)
    · rename_i yearEnds
      have december : d.month = 12 := by omega
      have lastYear : d.year = lastYear := by
        by_contra goesOn
        exact of?_eq_none h ⟨by omega, by omega, by decide, by decide, by decide,
          monthLength_pos _ _⟩
      obtain ⟨-, year, -, month, -, day'⟩ := e.valid
      intro later
      rcases later with late | ⟨same, late | ⟨same', late⟩⟩
      · omega
      · omega
      · rw [← same, ← same'] at day'
        omega

theorem exists_next {d e : Date} (later : d < e) : ∃ next, d.next? = some next := by
  cases h : d.next? with
  | none => exact absurd later (le_of_next?_eq_none h e)
  | some next => exact ⟨next, rfl⟩

/-- The next date is the earliest of all later ones. -/
theorem next?_eq_some_iff {d e : Date} : d.next? = some e ↔ d < e ∧ ∀ f, d < f → e ≤ f := by
  have least {e : Date} (h : d.next? = some e) : d < e ∧ ∀ f, d < f → e ≤ f := by
    have number := dayNumber_next h
    refine ⟨dayNumber_lt_iff.mp (by omega), fun f later => dayNumber_le_iff.mp ?_⟩
    have := dayNumber_lt later
    omega
  refine ⟨least, fun ⟨later, earliest⟩ => ?_⟩
  obtain ⟨next, h⟩ := exists_next later
  obtain ⟨later', earliest'⟩ := least h
  rw [h, eq_of_not_lt (earliest next later') (earliest' e later)]

/-- The count of days has no gaps. -/
theorem exists_dayNumber {a b : Date} {n : Int} (from_first : a.dayNumber ≤ n)
    (to_last : n ≤ b.dayNumber) : ∃ d : Date, d.dayNumber = n := by
  induction n, from_first using Int.leInduction with
  | base => exact ⟨a, rfl⟩
  | succ n _ ih =>
      obtain ⟨d, rfl⟩ := ih (by omega)
      have earlier : d < b := dayNumber_lt_iff.mp (by omega)
      obtain ⟨next, h⟩ := exists_next earlier
      exact ⟨next, dayNumber_next h⟩

end Date

namespace Period

theorem image_contains (p : Period) :
    Date.dayNumber '' {d | p.Contains d} =
      {n | p.first.dayNumber ≤ n ∧ n ≤ p.last.dayNumber} := by
  ext n
  constructor
  · rintro ⟨d, inside, rfl⟩
    exact contains_iff.mp inside
  · rintro ⟨from_first, to_last⟩
    obtain ⟨d, rfl⟩ := Date.exists_dayNumber from_first to_last
    exact ⟨d, contains_iff.mpr ⟨from_first, to_last⟩, rfl⟩

theorem finite_contains (p : Period) : {d | p.Contains d}.Finite := by
  have numbers : (Date.dayNumber '' {d | p.Contains d}).Finite := by
    rw [image_contains]
    exact Set.finite_Icc _ _
  exact numbers.of_finite_image Date.dayNumber_injective.injOn

theorem ncard_contains (p : Period) :
    {d | p.Contains d}.ncard = (p.last.dayNumber + 1 - p.first.dayNumber).toNat := by
  rw [← Set.ncard_image_of_injective _ Date.dayNumber_injective, image_contains]
  change (Set.Icc p.first.dayNumber p.last.dayNumber).ncard = _
  rw [← Finset.coe_Icc, Set.ncard_coe_finset, Int.card_Icc]

theorem contains_extended {p : Period} {day : Date} (next : p.last.next? = some day)
    (begun : p.first ≤ day) (d : Date) :
    Contains { p with last := day } d ↔ p.Contains d ∨ d = day := by
  have number := Date.dayNumber_next next
  have first := Date.dayNumber_le_iff.mpr begun
  simp only [contains_iff, ← Date.dayNumber_injective.eq_iff (b := day)]
  omega

/-- The days that pay is divided by are the days that can be claimed. -/
theorem workingDays_are_claimable (p : Period) :
    ({d | p.Contains d}.Finite ∧ ({d | p.Contains d}.ncard : Int) = max 0 p.workingDays) ∧
      (0 < p.workingDays ↔ p.first ≤ p.last) ∧
      (Amount.Fits ((p.last.dayNumber - p.first.dayNumber) * 86400000) ∧
        Amount.Fits p.workingDays) ∧
      ∀ day, p.last.next? = some day →
        workingDays { p with last := day } = p.workingDays + 1 ∧
          (p.first ≤ day → ¬ p.Contains day ∧
            ∀ d, Contains { p with last := day } d ↔ p.Contains d ∨ d = day) := by
  have first := p.first.dayNumber_bounds
  have last := p.last.dayNumber_bounds
  refine ⟨⟨p.finite_contains, ?_⟩, ?_, ⟨?_, ?_⟩, fun day next => ⟨?_, fun begun => ⟨?_, ?_⟩⟩⟩
  · rw [ncard_contains, workingDays]
    omega
  · rw [← Date.dayNumber_le_iff, workingDays]
    omega
  · unfold Amount.Fits
    omega
  · unfold Amount.Fits workingDays
    omega
  · simp only [workingDays, Date.dayNumber_next next]
    omega
  · have number := Date.dayNumber_next next
    rw [contains_iff]
    omega
  · exact contains_extended next begun

/-- The day before a leap day, and the leap day. -/
theorem workingDays_to_leap_day :
    let february : Period := (⟨⟨2024, 2, 1, by decide⟩, ⟨2024, 2, 28, by decide⟩, .epoch⟩ :
      Period.Draft).stored 1
    let leapDay : Date := ⟨2024, 2, 29, by decide⟩
    (february.last.next? = some leapDay ∧ february.first ≤ leapDay) ∧
      {d | february.Contains d}.ncard = 28 ∧ ¬ february.Contains leapDay ∧
      workingDays { february with last := leapDay } = 29 := by
  intro february leapDay
  obtain ⟨⟨-, count⟩, -, -, extended⟩ := february.workingDays_are_claimable
  have next : february.last.next? = some leapDay := by decide
  have begun : february.first ≤ leapDay := by decide
  obtain ⟨days, fresh⟩ := extended leapDay next
  have divisor : february.workingDays = 28 := by decide
  refine ⟨⟨next, begun⟩, ?_, (fresh begun).1, ?_⟩
  · rw [divisor] at count
    omega
  · rw [days, divisor]
    rfl

end Period
end Wagebook
