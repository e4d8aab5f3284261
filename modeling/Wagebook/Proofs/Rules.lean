import Wagebook.Proofs.Numbering

/-!
The rules that the stored records keep, whatever was asked of the store and whatever lookups were
made to miss. The window of overtime is never checked: its attendance, which came first, has passed
it.
-/

namespace Wagebook

def Attendance.key (a : Attendance) : Nat × Nat × Date := (a.user, a.period, a.date)

def Overtime.key (o : Overtime) : Nat × Nat × Date := (o.user, o.period, o.date)

def Payslip.key (p : Payslip) : Nat × Nat := (p.user, p.period)

structure Tables.Lawful (t : Tables) : Prop where
  periodOrder : ∀ p ∈ t.periods, p.first < p.last ∧ p.isProcessed = false
  attendanceWindow : ∀ a ∈ t.attendances, ∃ p ∈ t.periods, p.id = a.period ∧ p.Contains a.date
  attendanceKeys : (t.attendances.map (·.key)).Nodup
  overtimeHours : ∀ o ∈ t.overtimes, 1 ≤ o.hours ∧ o.hours ≤ 3
  overtimeAttended : ∀ o ∈ t.overtimes, ∃ a ∈ t.attendances, a.key = o.key ∧ a.id < o.id
  overtimeKeys : (t.overtimes.map (·.key)).Nodup
  reimbursementRule : ∀ r ∈ t.reimbursements, 0 < r.amount ∧ ∃ p ∈ t.periods, p.id = r.period
  payslipKeys : (t.payslips.map (·.key)).Nodup

namespace Tables

variable {t : Tables}

theorem key_not_mem_of_attendance? {a : Attendance}
    (free : t.attendance? a.user a.period a.date = none) : a.key ∉ t.attendances.map (·.key) := by
  rw [List.mem_map]
  rintro ⟨b, mem, same⟩
  simp only [Attendance.key, Prod.mk.injEq] at same
  exact attendance?_eq_none.mp free b mem same

theorem key_not_mem_of_overtime? {o : Overtime}
    (free : t.overtime? o.user o.period o.date = none) : o.key ∉ t.overtimes.map (·.key) := by
  rw [List.mem_map]
  rintro ⟨b, mem, same⟩
  simp only [Overtime.key, Prod.mk.injEq] at same
  exact overtime?_eq_none.mp free b mem same

theorem key_not_mem_of_payslip? {p : Payslip} (free : t.payslip? p.user p.period = none) :
    p.key ∉ t.payslips.map (·.key) := by
  rw [List.mem_map]
  rintro ⟨q, mem, same⟩
  simp only [Payslip.key, Prod.mk.injEq] at same
  exact payslip?_eq_none.mp free q mem same

end Tables

/-- A row with a new key goes to the end of its table. -/
theorem nodup_map_snoc {rows : List α} {key : α → β} {row : α} (h : (rows.map key).Nodup)
    (new : key row ∉ rows.map key) : ((rows ++ [row]).map key).Nodup := by
  rw [List.map_append, List.map_singleton, ← List.concat_eq_append]
  exact h.concat new

namespace Tables.Lawful

variable {t : Tables}

theorem empty : Lawful {} where
  periodOrder := by simp
  attendanceWindow := by simp
  attendanceKeys := .nil
  overtimeHours := by simp
  overtimeAttended := by simp
  overtimeKeys := .nil
  reimbursementRule := by simp
  payslipKeys := .nil

theorem bookPeriod (h : t.Lawful) (draft : Period.Draft) (actor : Actor)
    (order : draft.first < draft.last) : (t.bookPeriod draft actor).Lawful :=
  { h with
    periodOrder := fun p mem => by
      rcases List.mem_append.mp mem with old | new
      · exact h.periodOrder p old
      · rw [List.mem_singleton.mp new]
        exact ⟨order, rfl⟩
    attendanceWindow := fun a mem => by
      obtain ⟨p, hp, of⟩ := h.attendanceWindow a mem
      exact ⟨p, List.mem_append_left _ hp, of⟩
    reimbursementRule := fun r mem => by
      obtain ⟨positive, p, hp, of⟩ := h.reimbursementRule r mem
      exact ⟨positive, p, List.mem_append_left _ hp, of⟩ }

theorem bookAttendance (h : t.Lawful) (draft : Attendance.Draft) (actor : Actor) {window : Period}
    (known : t.period? draft.period = some window) (inside : window.Contains draft.date)
    (free : t.attendance? draft.user draft.period draft.date = none) :
    (t.bookAttendance draft actor).Lawful :=
  { h with
    attendanceWindow := fun a mem => by
      rcases List.mem_append.mp mem with old | new
      · exact h.attendanceWindow a old
      · rw [List.mem_singleton.mp new]
        obtain ⟨mem, of⟩ := mem_of_period? known
        exact ⟨window, mem, of, inside⟩
    attendanceKeys := nodup_map_snoc h.attendanceKeys (key_not_mem_of_attendance? free)
    overtimeAttended := fun o mem => by
      obtain ⟨a, ha, of⟩ := h.overtimeAttended o mem
      exact ⟨a, List.mem_append_left _ ha, of⟩ }

theorem bookOvertime (h : t.Lawful) (numbered : t.Numbered) (draft : Overtime.Draft)
    (actor : Actor) {attendance : Attendance}
    (attended : t.attendance? draft.user draft.period draft.date = some attendance)
    (least : 1 ≤ draft.hours) (most : draft.hours ≤ 3)
    (free : t.overtime? draft.user draft.period draft.date = none) :
    (t.bookOvertime draft actor).Lawful :=
  { h with
    overtimeHours := fun o mem => by
      rcases List.mem_append.mp mem with old | new
      · exact h.overtimeHours o old
      · rw [List.mem_singleton.mp new]
        exact ⟨least, most⟩
    overtimeAttended := fun o mem => by
      rcases List.mem_append.mp mem with old | new
      · exact h.overtimeAttended o old
      · rw [List.mem_singleton.mp new]
        obtain ⟨mem, user, period, date⟩ := mem_of_attendance? attended
        refine ⟨attendance, mem, ?_, Nat.lt_succ_of_le (numbered.attendances.le_of_mem mem)⟩
        simp only [Attendance.key, Overtime.key, Overtime.Draft.stored, user, period, date]
    overtimeKeys := nodup_map_snoc h.overtimeKeys (key_not_mem_of_overtime? free) }

theorem bookReimbursement (h : t.Lawful) (draft : Reimbursement.Draft) (actor : Actor)
    {window : Period} (known : t.period? draft.period = some window) (positive : 0 < draft.amount) :
    (t.bookReimbursement draft actor).Lawful :=
  { h with
    reimbursementRule := fun r mem => by
      rcases List.mem_append.mp mem with old | new
      · exact h.reimbursementRule r old
      · rw [List.mem_singleton.mp new]
        exact ⟨positive, window, mem_of_period? known⟩ }

theorem addPayslips (h : t.Lawful) (drafts : List Payslip.Draft) (free : t.Free drafts) :
    (t.addPayslips drafts).Lawful := by
  induction drafts generalizing t with
  | nil => exact h
  | cons draft drafts ih =>
      refine ih { h with payslipKeys := ?_ } free.2
      exact nodup_map_snoc h.payslipKeys (key_not_mem_of_payslip? free.1)

theorem write (h : t.Lawful) (numbered : t.Numbered)
    (writes : Command.Writes t command result t') : t'.Lawful := by
  cases writes with
  | period order => exact h.bookPeriod _ _ order
  | attendance known inside free => exact h.bookAttendance _ _ known inside free
  | overtime attended known least most free =>
      exact h.bookOvertime numbered _ _ attended least most free
  | reimbursement known positive => exact h.bookReimbursement _ _ known positive
  | payroll known days computed free => exact { h.addPayslips _ free with }
  | request => exact { h with }

end Tables.Lawful

theorem Tables.Reachable.lawful {t : Tables} (h : t.Reachable) : t.Lawful := by
  induction h with
  | empty => exact .empty
  | addUser _ user ih => exact { ih with }
  | write reached writes ih => exact ih.write reached.numbered writes

end Wagebook
