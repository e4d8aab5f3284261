import Wagebook.Proofs.Payslips
import Wagebook.Proofs.Submissions

/-!
What the stored payslips hold. Each one pays its employee for what was handed in before it, and a
period is paid as a whole: everyone on the roster before its payslips has one. That stays so when
there are later submissions and later users.
-/

namespace Wagebook

/-- The payslip is the pay for what its user had handed in before it. -/
structure Tables.Earned (t : Tables) (p : Payslip) : Prop where
  employee : ∃ u ∈ t.users, u.id = p.user ∧ u.isAdmin = false ∧ u.salary = p.baseSalary
  window : ∃ w ∈ t.periods, w.id = p.period ∧ w.workingDays = p.workingDays
  presentDays : p.presentDays = t.presentBefore p.user p.period p.id
  overtimeHours : p.overtimeHours = Amount.wrapped (t.hoursBefore p.user p.period p.id)
  reimbursementTotal :
    p.reimbursementTotal = Amount.wrapped (t.reimbursedBefore p.user p.period p.id)
  attendanceAmount : p.attendanceAmount = (p.presentDays * p.baseSalary).tdiv p.workingDays
  overtimeAmount : p.overtimeAmount = (p.overtimeHours * p.baseSalary).tdiv p.workingDays
  takeHomePay : p.takeHomePay = p.attendanceAmount + p.overtimeAmount + p.reimbursementTotal
  attendanceFits : Amount.Fits (p.presentDays * p.baseSalary)
  overtimeFits : Amount.Fits (p.overtimeHours * p.baseSalary)
  payFits : Amount.Fits p.takeHomePay

structure Tables.Paid (t : Tables) : Prop where
  earned : ∀ p ∈ t.payslips, t.Earned p
  /-- Whoever is on the roster before a payslip of a period has a payslip of that period. -/
  complete : ∀ q ∈ t.payslips, ∀ u ∈ t.users, u.isAdmin = false → u.id < q.id →
    ∃ p ∈ t.payslips, p.user = u.id ∧ p.period = q.period
  /-- Whoever has a payslip of a period was on the roster before every payslip of it. -/
  earlier : ∀ p ∈ t.payslips, ∀ q ∈ t.payslips, p.period = q.period → p.user < q.id

namespace Tables

theorem Earned.grow {t t' : Tables} {p : Payslip} (h : t.Earned p) (ext : t.Extends t')
    (le : p.id ≤ t.lastId) : t'.Earned p :=
  { h with
    employee := by
      obtain ⟨u, mem, of⟩ := h.employee
      exact ⟨u, ext.users.mem mem, of⟩
    window := by
      obtain ⟨w, mem, of⟩ := h.window
      exact ⟨w, ext.periods.mem mem, of⟩
    presentDays := by rw [ext.presentBefore le, h.presentDays]
    overtimeHours := by rw [ext.hoursBefore le, h.overtimeHours]
    reimbursementTotal := by rw [ext.reimbursedBefore le, h.reimbursementTotal] }

namespace Paid

variable {t t' : Tables}

theorem empty : Paid {} where
  earned := by simp
  complete := by simp
  earlier := by simp

/-- A change that adds no payslip takes nothing from the payslips that are there. -/
theorem grow (h : t.Paid) (numbered : t.Numbered) (ext : t.Extends t')
    (same : t'.payslips = t.payslips) : t'.Paid where
  earned := by
    rw [same]
    intro p mem
    exact (h.earned p mem).grow ext (numbered.payslips.le_of_mem mem)
  complete := by
    rw [same]
    intro q mem u hu employee before
    obtain ⟨new, eq, beyond⟩ := ext.users
    rw [eq] at hu
    rcases List.mem_append.mp hu with old | new
    · exact h.complete q mem u old employee before
    · have late : t.lastId < u.id := beyond u new
      have := numbered.payslips.le_of_mem mem
      omega
  earlier := by
    rw [same]
    exact h.earlier

section Run
variable {window : Period} {now : Stamp} {actor : Actor} {drafts : List Payslip.Draft}

/-- A run that pays anyone finds no payslip of its period: the employee of such a payslip would
still be on the roster, and would collide with it. -/
theorem first_run (h : t.Paid)
    (computed : (t.tallies period).mapM (Payslip.compute · period days now) = .ok drafts)
    (free : t.Free drafts) : ∀ p ∈ t.payslips, p.period ≠ period := by
  rintro p mem rfl
  obtain ⟨u, hu, user, employee, -⟩ := (h.earned p mem).employee
  obtain ⟨draft, hdraft, of⟩ := exists_draft computed hu employee
  have fields := (Payslip.of_compute of).1
  apply free.not_stored hdraft mem
  rw [fields]
  exact ⟨user.symm, rfl⟩

theorem earned_of_run (numbered : t.Numbered) (known : t.period? period = some window)
    (computed : (t.tallies period).mapM (Payslip.compute · period window.workingDays now) =
      .ok drafts)
    {draft : Payslip.Draft} (mem : draft ∈ drafts) {id : Nat} (beyond : t.lastId < id) :
    t.Earned (draft.stored id) ∧ draft.period = period ∧ draft.user ≤ t.lastId := by
  obtain ⟨u, hu, employee, of⟩ := exists_employee computed mem
  obtain ⟨hwindow, same⟩ := mem_of_period? known
  rw [tally_eq numbered beyond] at of
  obtain ⟨rfl, attendanceFits, overtimeFits, payFits⟩ := Payslip.of_compute of
  refine ⟨?_, rfl, numbered.users.le_of_mem hu⟩
  exact
    { employee := ⟨u, hu, rfl, employee, rfl⟩
      window := ⟨window, hwindow, same, rfl⟩
      presentDays := rfl
      overtimeHours := rfl
      reimbursementTotal := rfl
      attendanceAmount := rfl
      overtimeAmount := rfl
      takeHomePay := rfl
      attendanceFits
      overtimeFits
      payFits }

/-- A payslip that a run adds is earned, and its employee comes before every new payslip. -/
theorem earned_of_new (numbered : t.Numbered) (known : t.period? period = some window)
    (computed : (t.tallies period).mapM (Payslip.compute · period window.workingDays now) =
      .ok drafts) {p : Payslip} (mem : p ∈ Payslip.storedFrom t.nextId drafts) :
    t.Earned p ∧ p.period = period ∧ p.user ≤ t.lastId ∧ t.lastId < p.id := by
  obtain ⟨least, -, draft, hdraft, stored⟩ := Payslip.mem_storedFrom mem
  obtain ⟨earned, of, user⟩ := earned_of_run numbered known computed hdraft least
  refine ⟨stored ▸ earned, ?_, ?_, least⟩
  · rw [stored]
    exact of
  · rw [stored]
    exact user

theorem payroll (h : t.Paid) (numbered : t.Numbered) (known : t.period? period = some window)
    (computed : (t.tallies period).mapM (Payslip.compute · period window.workingDays now) =
      .ok drafts)
    (free : t.Free drafts) : (t.addPayslips drafts).Paid := by
  have first := h.first_run computed free
  have users : ∀ p ∈ t.payslips, p.user ≤ t.lastId := by
    intro p mem
    obtain ⟨u, hu, user, -⟩ := (h.earned p mem).employee
    exact user ▸ numbered.users.le_of_mem hu
  rw [addPayslips_eq]
  constructor
  · intro p mem
    rcases List.mem_append.mp mem with old | new
    · exact { h.earned p old with }
    · exact { (earned_of_new numbered known computed new).1 with }
  · intro q mem u hu employee before
    rcases List.mem_append.mp mem with old | new
    · obtain ⟨p, hp, of⟩ := h.complete q old u hu employee before
      exact ⟨p, List.mem_append_left _ hp, of⟩
    · obtain ⟨-, period, -, -⟩ := earned_of_new numbered known computed new
      obtain ⟨draft, hdraft, of⟩ := exists_draft computed hu employee
      obtain ⟨p, hp, stored⟩ := Payslip.exists_stored t.nextId hdraft
      refine ⟨p, List.mem_append_right _ hp, ?_⟩
      rw [stored, (Payslip.of_compute of).1, period]
      exact ⟨rfl, rfl⟩
  · intro p hp q hq same
    rcases List.mem_append.mp hq with hq | hq
    · rcases List.mem_append.mp hp with hp | hp
      · exact h.earlier p hp q hq same
      · obtain ⟨-, period, -, -⟩ := earned_of_new numbered known computed hp
        exact absurd (same.symm.trans period) (first q hq)
    · obtain ⟨-, -, -, beyond⟩ := earned_of_new numbered known computed hq
      rcases List.mem_append.mp hp with hp | hp
      · exact Nat.lt_of_le_of_lt (users p hp) beyond
      · obtain ⟨-, -, user, -⟩ := earned_of_new numbered known computed hp
        exact Nat.lt_of_le_of_lt user beyond

end Run

theorem write (h : t.Paid) (numbered : t.Numbered)
    (writes : Command.Writes t command result t') : t'.Paid := by
  have ext := Extends.write writes
  cases writes with
  | period => exact h.grow numbered ext rfl
  | attendance => exact h.grow numbered ext rfl
  | overtime => exact h.grow numbered ext rfl
  | reimbursement => exact h.grow numbered ext rfl
  | payroll known days computed free =>
      have paid := h.payroll numbered known computed free
      exact paid.grow (numbered.addPayslips _) (.addAuditEntry _ _) rfl
  | request => exact h.grow numbered ext rfl

end Paid

theorem Reachable.paid {t : Tables} (h : t.Reachable) : t.Paid := by
  induction h with
  | empty => exact .empty
  | addUser reached user ih => exact ih.grow reached.numbered (.addUser _ user) rfl
  | write reached writes ih => exact ih.write reached.numbered writes

end Tables
end Wagebook
