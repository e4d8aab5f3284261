import Wagebook.Proofs.Days
import Wagebook.Proofs.Growth
import Wagebook.Proofs.Rules

/-!
What a user has handed in for a period before an id was drawn. Later rows do not change it, and the
rules on the submissions bound it: no more days than the period has, and no more hours than three
for each day.
-/

namespace Wagebook

/-- A number that fits is kept as it is. -/
theorem Amount.wrapped_eq {n : Int} (h : Fits n) : wrapped n = n := by
  unfold wrapped
  rw [Int.bmod_eq_of_le]
  · exact h.1
  · exact h.2

namespace Tables

def presentBefore (t : Tables) (user period id : Nat) : Nat :=
  (t.attendances.filter fun a => a.id < id ∧ a.user = user ∧ a.period = period).length

def hoursBefore (t : Tables) (user period id : Nat) : Int :=
  ((t.overtimes.filter fun o => o.id < id ∧ o.user = user ∧ o.period = period).map (·.hours)).sum

def reimbursedBefore (t : Tables) (user period id : Nat) : Int :=
  ((t.reimbursements.filter fun r => r.id < id ∧ r.user = user ∧ r.period = period).map
    (·.amount)).sum

namespace Extends

variable {t t' : Tables} {id : Nat}

theorem presentBefore (h : t.Extends t') (le : id ≤ t.lastId) (user period : Nat) :
    t'.presentBefore user period id = t.presentBefore user period id := by
  unfold Tables.presentBefore
  rw [h.attendances.filter_below le fun a => a.user = user ∧ a.period = period]

theorem hoursBefore (h : t.Extends t') (le : id ≤ t.lastId) (user period : Nat) :
    t'.hoursBefore user period id = t.hoursBefore user period id := by
  unfold Tables.hoursBefore
  rw [h.overtimes.filter_below le fun o => o.user = user ∧ o.period = period]

theorem reimbursedBefore (h : t.Extends t') (le : id ≤ t.lastId) (user period : Nat) :
    t'.reimbursedBefore user period id = t.reimbursedBefore user period id := by
  unfold Tables.reimbursedBefore
  rw [h.reimbursements.filter_below le fun r => r.user = user ∧ r.period = period]

end Extends

section Tally
variable {t : Tables} {id : Nat}

/-- All rows of a table come before the next id. -/
theorem filter_lt_nextId {rows : List α} {rowId : α → Nat} {last : Nat}
    (h : Ascending last (rows.map rowId)) (beyond : last < id) (p : α → Prop) [DecidablePred p] :
    rows.filter (fun row => rowId row < id ∧ p row) = rows.filter (fun row => p row) := by
  apply List.filter_congr
  intro row mem
  have before : rowId row < id := Nat.lt_of_le_of_lt (h.le_of_mem mem) beyond
  simp [before]

/-- A run tallies what was handed in before its payslips. -/
theorem tally_eq (h : t.Numbered) (beyond : t.lastId < id) (period : Nat) (u : User) :
    t.tally period u =
      { user := u.id, baseSalary := u.salary
        presentDays := t.presentBefore u.id period id
        overtimeHours := Amount.wrapped (t.hoursBefore u.id period id)
        reimbursementTotal := Amount.wrapped (t.reimbursedBefore u.id period id) } := by
  unfold tally presentBefore hoursBefore reimbursedBefore
  rw [filter_lt_nextId h.attendances beyond fun a => a.user = u.id ∧ a.period = period,
    filter_lt_nextId h.overtimes beyond fun o => o.user = u.id ∧ o.period = period,
    filter_lt_nextId h.reimbursements beyond fun r => r.user = u.id ∧ r.period = period]
  rfl

end Tally

theorem hours_bounds {rows : List Overtime} (h : ∀ o ∈ rows, 1 ≤ o.hours ∧ o.hours ≤ 3) :
    0 ≤ (rows.map (·.hours)).sum ∧ (rows.map (·.hours)).sum ≤ 3 * rows.length := by
  induction rows with
  | nil => simp
  | cons o rows ih =>
      have first := h o List.mem_cons_self
      have rest := ih fun o' mem => h o' (List.mem_cons_of_mem _ mem)
      simp only [List.map_cons, List.sum_cons, List.length_cons]
      omega

namespace Lawful

variable {t : Tables}

/-- A day of a user and a period is handed in once, so the days are as many as the rows. -/
theorem presentBefore_le (h : t.Lawful) (numbered : t.Numbered) {window : Period}
    (mem : window ∈ t.periods) (user id : Nat) :
    (t.presentBefore user window.id id : Int) ≤ window.workingDays := by
  have rows : ∀ a ∈ t.attendances.filter
      (fun a => a.id < id ∧ a.user = user ∧ a.period = window.id),
      a ∈ t.attendances ∧ a.user = user ∧ a.period = window.id := by
    intro a ha
    have := List.mem_filter.mp ha
    simp only [decide_eq_true_eq] at this
    exact ⟨this.1, this.2.2⟩
  unfold presentBefore
  rw [← List.length_map (·.date)]
  apply Period.length_le_workingDays (h.periodOrder window mem).1
  · apply List.Nodup.map_on
    · intro a ha b hb same
      obtain ⟨ha, hua, hpa⟩ := rows a ha
      obtain ⟨hb, hub, hpb⟩ := rows b hb
      apply List.inj_on_of_nodup_map h.attendanceKeys ha hb
      simp only [Attendance.key, hua, hub, hpa, hpb, same]
    · exact h.attendanceKeys.of_map.filter _
  · intro date hdate
    obtain ⟨a, ha, rfl⟩ := List.mem_map.mp hdate
    obtain ⟨ha, -, period⟩ := rows a ha
    obtain ⟨w, hw, same, inside⟩ := h.attendanceWindow a ha
    rwa [numbered.periods.eq_of_mem hw mem (same.trans period)] at inside

/-- Overtime is handed in once for a day, and after the attendance of that day. -/
theorem hoursBefore_bounds (h : t.Lawful) (user period id : Nat) :
    0 ≤ t.hoursBefore user period id ∧
      t.hoursBefore user period id ≤ 3 * t.presentBefore user period id := by
  have rows : ∀ o ∈ t.overtimes.filter
      (fun o => o.id < id ∧ o.user = user ∧ o.period = period),
      o ∈ t.overtimes ∧ o.id < id ∧ o.user = user ∧ o.period = period := by
    intro o ho
    simpa using List.mem_filter.mp ho
  have hours := hours_bounds fun o ho => h.overtimeHours o (rows o ho).1
  have count : (t.overtimes.filter
      (fun o => o.id < id ∧ o.user = user ∧ o.period = period)).length ≤
      t.presentBefore user period id := by
    unfold presentBefore
    rw [← List.length_map Overtime.key, ← List.length_map Attendance.key]
    -- the keys of the hours are different, and each of them is the key of an attendance
    apply List.Subperm.length_le
    apply List.Nodup.subperm
    · exact h.overtimeKeys.sublist (List.filter_sublist.map _)
    · intro key mem
      obtain ⟨o, ho, rfl⟩ := List.mem_map.mp mem
      obtain ⟨ho, before, hu, hp⟩ := rows o ho
      obtain ⟨a, ha, same, earlier⟩ := h.overtimeAttended o ho
      refine List.mem_map.mpr ⟨a, List.mem_filter.mpr ⟨ha, ?_⟩, same⟩
      simp only [Attendance.key, Overtime.key, Prod.mk.injEq] at same
      simp only [decide_eq_true_eq]
      omega
  unfold hoursBefore
  omega

/-- Hours never leave the 64 bits, since a period is never that long. -/
theorem hoursBefore_fits (h : t.Lawful) (numbered : t.Numbered) {window : Period}
    (mem : window ∈ t.periods) (user id : Nat) :
    Amount.Fits (t.hoursBefore user window.id id) := by
  have days := h.presentBefore_le numbered mem user id
  have most := window.workingDays_lt
  obtain ⟨least, hours⟩ := h.hoursBefore_bounds user window.id id
  unfold Amount.Fits
  omega

end Lawful
end Tables
end Wagebook
