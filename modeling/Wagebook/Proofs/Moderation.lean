import Mathlib.Algebra.Order.BigOperators.Group.List
import Wagebook.Proofs.Repeats

/-!
Payrolls that cannot get stuck. The rules on the submissions bound the days and the hours of an
employee by the length of the period. So moderate salaries and expenses are enough to keep every
amount of a run in the 64 bits, and the first run of such a period pays everyone.
-/

namespace Wagebook

/-- No more days than the period has, and no more hours than three for each of them. -/
structure Tally.Possible (tally : Tally) (days : Int) : Prop where
  present : 0 ≤ tally.presentDays ∧ tally.presentDays ≤ days
  hours : 0 ≤ tally.overtimeHours ∧ tally.overtimeHours ≤ 3 * days
  reimbursed : 0 ≤ tally.reimbursementTotal

/-- A product is bounded by a bound on its first factor. -/
theorem natAbs_mul_le {n most : Int} (least : 0 ≤ n) (le : n ≤ most) (amount : Int) :
    ((n * amount).natAbs : Int) ≤ most * amount.natAbs := by
  rw [Int.natAbs_mul, Int.natCast_mul, Int.natAbs_of_nonneg least]
  exact Int.mul_le_mul_of_nonneg_right le (Int.natCast_nonneg _)

/-- Days and hours that are possible do no harm as long as the salary and the expenses are
moderate. -/
theorem Tally.Possible.payable {tally : Tally} {days : Int} (h : tally.Possible days)
    (pos : 0 < days) (salary : 3 * days * tally.baseSalary.natAbs < 0x8000000000000000)
    (pay : 4 * tally.baseSalary.natAbs + tally.reimbursementTotal < 0x8000000000000000) :
    tally.Payable days := by
  obtain ⟨⟨least, present⟩, ⟨someHours, hours⟩, reimbursed⟩ := h
  have attendance := natAbs_mul_le least (show _ ≤ 3 * days by omega) tally.baseSalary
  have overtime := natAbs_mul_le someHours hours tally.baseSalary
  have attendanceShare : ((tally.presentDays * tally.baseSalary).tdiv days).natAbs ≤
      1 * tally.baseSalary.natAbs := natAbs_share_le least (by omega) pos
  have overtimeShare : ((tally.overtimeHours * tally.baseSalary).tdiv days).natAbs ≤
      3 * tally.baseSalary.natAbs := natAbs_share_le someHours (by omega) pos
  simp only [Payable, Amount.Fits]
  omega

namespace Tables

variable {t : Tables} {window : Period}

/-- The expenses of a user for a period, however large they are together. -/
def reimbursed (t : Tables) (user period : Nat) : Int :=
  ((t.reimbursements.filter fun r => r.user = user ∧ r.period = period).map (·.amount)).sum

theorem tally_reimbursed {period : Nat} {u : User} (fits : Amount.Fits (t.reimbursed u.id period)) :
    (t.tally period u).reimbursementTotal = t.reimbursed u.id period :=
  Amount.wrapped_eq fits

theorem Lawful.reimbursed_nonneg (h : t.Lawful) (user period : Nat) :
    0 ≤ t.reimbursed user period := by
  apply List.sum_nonneg
  intro amount mem
  obtain ⟨r, stored, rfl⟩ := List.mem_map.mp mem
  exact Int.le_of_lt (h.reimbursementRule r (List.mem_filter.mp stored).1).1

/-- What the rules let an employee hand in is possible. -/
theorem Lawful.possible (h : t.Lawful) (numbered : t.Numbered) (mem : window ∈ t.periods)
    (u : User) (fits : Amount.Fits (t.reimbursed u.id window.id)) :
    (t.tally window.id u).Possible window.workingDays := by
  have present := h.presentBefore_le numbered mem u.id t.nextId
  have hours := h.hoursBefore_bounds u.id window.id t.nextId
  have hoursFit := Amount.wrapped_eq (h.hoursBefore_fits numbered mem u.id t.nextId)
  have handedIn := tally_eq numbered (Nat.lt_succ_self t.lastId) window.id u
  refine ⟨?_, ?_, ?_⟩
  · rw [handedIn]
    exact ⟨Int.natCast_nonneg _, present⟩
  · rw [handedIn]
    change 0 ≤ Amount.wrapped (t.hoursBefore u.id window.id t.nextId) ∧
      Amount.wrapped (t.hoursBefore u.id window.id t.nextId) ≤ 3 * window.workingDays
    omega
  · rw [tally_reimbursed fits]
    exact h.reimbursed_nonneg u.id window.id

end Tables

/-- In every history the first run of a period pays everyone, if only the salaries and the expenses
are moderate: the days and the hours that were handed in cannot stop it. -/
theorem Memory.moderate_period_is_paid (events : List Event) {window : Period}
    (known : window ∈ (after events).tables.periods)
    (unpaid : ∀ p ∈ (after events).tables.payslips, p.period ≠ window.id)
    (audited : (after events).switches.auditFails = false)
    (moderate : ∀ u ∈ (after events).tables.users, u.isAdmin = false →
      3 * window.workingDays * u.salary.natAbs < 0x8000000000000000 ∧
      4 * u.salary.natAbs + (after events).tables.reimbursed u.id window.id <
        0x8000000000000000)
    (now : Stamp) (actor : Actor) :
    let employees := (after events).tables.users.filter (!·.isAdmin)
    ∃ paid new,
      (runPayroll now window.id actor).run (after events) = (.ok employees.length, paid) ∧
      paid.tables.payslips = (after events).tables.payslips ++ new ∧
      new.length = employees.length ∧ new.map (·.user) = employees.map (·.id) ∧
      ∀ p ∈ new, p.period = window.id := by
  intro employees
  have reached := after_reachable events
  have numbered := reached.numbered
  have found := numbered.period?_eq known
  have payable : ∀ tally ∈ (after events).tables.tallies window.id,
      tally.Payable window.workingDays := by
    intro tally tallied
    obtain ⟨u, stored, employee, rfl⟩ := Tables.mem_tallies.mp tallied
    obtain ⟨salary, pay⟩ := moderate u stored employee
    have least := reached.lawful.reimbursed_nonneg u.id window.id
    have fits : Amount.Fits ((after events).tables.reimbursed u.id window.id) := by
      unfold Amount.Fits
      omega
    rw [← Tables.tally_reimbursed fits] at pay
    have possible := reached.lawful.possible numbered known u fits
    exact possible.payable (workingDays_pos reached found) salary pay
  obtain ⟨drafts, computed, ran⟩ :=
    run_unpaid (after events) reached found payable unpaid audited now actor
  have users : drafts.map (·.user) = employees.map (·.id) :=
    (Tables.users_of_computed computed).trans (Tables.users_tallies numbered window.id)
  have count : drafts.length = employees.length := by simpa using congrArg List.length users
  refine ⟨_, Payslip.storedFrom (after events).tables.nextId drafts, count ▸ ran,
    Tables.payslips_bookPayslips .., ?_, ?_, ?_⟩
  · rw [Payslip.length_storedFrom, count]
  · rw [Payslip.map_user_storedFrom, users]
  · intro p mem
    obtain ⟨-, -, draft, drafted, stored⟩ := Payslip.mem_storedFrom mem
    rw [stored]
    exact Tables.periods_of_computed computed draft drafted

/-- Ann's salary and her taxi are moderate for a week, so her week can be paid. -/
theorem Memory.moderate_week_is_paid : ∃ paid new,
    (runPayroll .payday 3 ⟨1, 13⟩).run (after Event.week) = (.ok 1, paid) ∧
      paid.tables.payslips = (after Event.week).tables.payslips ++ new ∧ new.length = 1 := by
  let week : Period :=
    ⟨3, ⟨2024, 1, 1, by decide⟩, ⟨2024, 1, 7, by decide⟩, false, .midnight ⟨2024, 1, 1, by decide⟩,
      .midnight ⟨2024, 1, 1, by decide⟩⟩
  have known : week ∈ (after Event.week).tables.periods := by decide +kernel
  obtain ⟨paid, new, ran, stored, count, -⟩ := moderate_period_is_paid Event.week known
    (by decide +kernel) (by decide +kernel) (by decide +kernel) .payday ⟨1, 13⟩
  exact ⟨paid, new, ran, stored, count⟩

end Wagebook
