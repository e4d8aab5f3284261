import Wagebook.Proofs.Earnings

/-!
References between records. The period that a record names is stored, and a lookup of it finds that
period and no other, since ids are not shared. So the window that an attendance has passed is the
window of its overtime as well, and whoever is paid is an employee.
-/

namespace Wagebook
namespace Tables

variable {t : Tables}

/-- A lookup finds the period that is stored under an id. -/
theorem Numbered.period?_eq (h : t.Numbered) {p : Period} (mem : p ∈ t.periods) :
    t.period? p.id = some p := by
  cases found : t.period? p.id with
  | none =>
      rw [period?, List.find?_eq_none] at found
      exact absurd (decide_eq_true rfl) (found p mem)
  | some q =>
      obtain ⟨stored, same⟩ := mem_of_period? found
      rw [h.periods.eq_of_mem stored mem same]

namespace Lawful

theorem attendance_window (h : t.Lawful) (numbered : t.Numbered) {a : Attendance}
    (mem : a ∈ t.attendances) : ∃ w, t.period? a.period = some w ∧ w.Contains a.date := by
  obtain ⟨w, stored, same, inside⟩ := h.attendanceWindow a mem
  exact ⟨w, same ▸ numbered.period?_eq stored, inside⟩

/-- Overtime lies in its period because its attendance does. -/
theorem overtime_window (h : t.Lawful) (numbered : t.Numbered) {o : Overtime}
    (mem : o ∈ t.overtimes) : ∃ w, t.period? o.period = some w ∧ w.Contains o.date := by
  obtain ⟨a, attended, same, -⟩ := h.overtimeAttended o mem
  simp only [Attendance.key, Overtime.key, Prod.mk.injEq] at same
  obtain ⟨-, period, date⟩ := same
  rw [← period, ← date]
  exact h.attendance_window numbered attended

theorem reimbursement_period (h : t.Lawful) (numbered : t.Numbered) {r : Reimbursement}
    (mem : r ∈ t.reimbursements) : ∃ w, t.period? r.period = some w := by
  obtain ⟨-, w, stored, same⟩ := h.reimbursementRule r mem
  exact ⟨w, same ▸ numbered.period?_eq stored⟩

end Lawful

theorem Paid.payslip_period (h : t.Paid) (numbered : t.Numbered) {p : Payslip}
    (mem : p ∈ t.payslips) : ∃ w, t.period? p.period = some w := by
  obtain ⟨w, stored, same, -⟩ := (h.earned p mem).window
  exact ⟨w, same ▸ numbered.period?_eq stored⟩

end Tables

/-- In every history, whatever lookups were made to miss, each record keeps the rules of its kind
and names a period that is stored. -/
theorem Memory.records_keep_rules (events : List Event) :
    let t := (after events).tables
    (∀ p ∈ t.periods, p.first < p.last ∧ p.isProcessed = false) ∧
    (∀ a ∈ t.attendances, ∃ p, t.period? a.period = some p ∧
      p.first ≤ a.date ∧ a.date ≤ p.last) ∧
    (∀ o ∈ t.overtimes, 1 ≤ o.hours ∧ o.hours ≤ 3 ∧
      (∃ a ∈ t.attendances, a.user = o.user ∧ a.period = o.period ∧ a.date = o.date ∧
        a.id < o.id) ∧
      ∃ p, t.period? o.period = some p ∧ p.first ≤ o.date ∧ o.date ≤ p.last) ∧
    (∀ r ∈ t.reimbursements, 0 < r.amount ∧ ∃ p, t.period? r.period = some p) ∧
    ∀ s ∈ t.payslips, (∃ p, t.period? s.period = some p) ∧
      ∃ u ∈ t.users, u.id = s.user ∧ u.isAdmin = false := by
  intro t
  have reached : t.Reachable := after_reachable events
  have lawful := reached.lawful
  have numbered := reached.numbered
  refine ⟨lawful.periodOrder, fun a => lawful.attendance_window numbered, fun o mem => ?_,
    fun r mem => ?_, fun s mem => ?_⟩
  · obtain ⟨least, most⟩ := lawful.overtimeHours o mem
    obtain ⟨a, attended, same, earlier⟩ := lawful.overtimeAttended o mem
    simp only [Attendance.key, Overtime.key, Prod.mk.injEq] at same
    obtain ⟨user, period, date⟩ := same
    exact ⟨least, most, ⟨a, attended, user, period, date, earlier⟩,
      lawful.overtime_window numbered mem⟩
  · exact ⟨(lawful.reimbursementRule r mem).1, lawful.reimbursement_period numbered mem⟩
  · obtain ⟨u, stored, user, employee, -⟩ := (reached.paid.earned s mem).employee
    exact ⟨reached.paid.payslip_period numbered mem, u, stored, user, employee⟩

end Wagebook
