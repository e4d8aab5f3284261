import Mathlib.Algebra.Order.Field.Rat
import Mathlib.Tactic.Linarith
import Mathlib.Tactic.Ring
import Wagebook.Proofs.Lookups

/-!
Pay by shares of the salary. An employee who has handed in no less, for no smaller a salary, is paid
no less. Each share is cut to whole units, so the two of them together fall short of the exact pay
by less than two.
-/

namespace Wagebook

namespace Tally

structure Nonnegative (tally : Tally) : Prop where
  baseSalary : 0 ≤ tally.baseSalary
  presentDays : 0 ≤ tally.presentDays
  overtimeHours : 0 ≤ tally.overtimeHours
  reimbursementTotal : 0 ≤ tally.reimbursementTotal

/-- Nothing in it is larger. The tallies may be those of different users. -/
structure AtMost (tally tally' : Tally) : Prop where
  baseSalary : tally.baseSalary ≤ tally'.baseSalary
  presentDays : tally.presentDays ≤ tally'.presentDays
  overtimeHours : tally.overtimeHours ≤ tally'.overtimeHours
  reimbursementTotal : tally.reimbursementTotal ≤ tally'.reimbursementTotal

end Tally

section Share
variable {n n' days : Int}

theorem share_mono (pos : 0 < days) (least : 0 ≤ n) (le : n ≤ n') : n.tdiv days ≤ n'.tdiv days := by
  rw [Int.tdiv_eq_ediv_of_nonneg least, Int.tdiv_eq_ediv_of_nonneg (Int.le_trans least le)]
  exact Int.ediv_le_ediv pos le

/-- A share falls short of the exact one by less than a unit. -/
theorem share_loss (pos : 0 < days) (least : 0 ≤ n) :
    0 ≤ n - days * n.tdiv days ∧ n - days * n.tdiv days ≤ days - 1 := by
  rw [Int.tdiv_eq_ediv_of_nonneg least]
  have split := Int.mul_ediv_add_emod n days
  have rest := Int.emod_nonneg n (Int.ne_of_gt pos)
  have small := Int.emod_lt_of_pos n pos
  omega

end Share

namespace Tally

variable {tally tally' : Tally} {days : Int}

theorem AtMost.nonnegative (h : tally.AtMost tally') (facts : tally.Nonnegative) :
    tally'.Nonnegative where
  baseSalary := Int.le_trans facts.baseSalary h.baseSalary
  presentDays := Int.le_trans facts.presentDays h.presentDays
  overtimeHours := Int.le_trans facts.overtimeHours h.overtimeHours
  reimbursementTotal := Int.le_trans facts.reimbursementTotal h.reimbursementTotal

namespace Nonnegative

variable (h : tally.Nonnegative)
include h

theorem attendance : 0 ≤ tally.presentDays * tally.baseSalary :=
  Int.mul_nonneg h.presentDays h.baseSalary

theorem overtime : 0 ≤ tally.overtimeHours * tally.baseSalary :=
  Int.mul_nonneg h.overtimeHours h.baseSalary

/-- Without negative amounts the last sum is the largest, so the one before it need not be
checked. -/
theorem payable_iff (pos : 0 < days) : tally.Payable days ↔
    Amount.Fits (tally.presentDays * tally.baseSalary) ∧
    Amount.Fits (tally.overtimeHours * tally.baseSalary) ∧
    Amount.Fits ((tally.presentDays * tally.baseSalary).tdiv days +
      (tally.overtimeHours * tally.baseSalary).tdiv days + tally.reimbursementTotal) := by
  have attendance := Int.tdiv_nonneg h.attendance (Int.le_of_lt pos)
  have overtime := Int.tdiv_nonneg h.overtime (Int.le_of_lt pos)
  have reimbursed := h.reimbursementTotal
  simp only [Payable, Amount.Fits]
  omega

end Nonnegative

/-- The amounts of a smaller tally are no larger. -/
theorem AtMost.amounts (h : tally.AtMost tally') (facts : tally.Nonnegative) (pos : 0 < days) :
    tally.presentDays * tally.baseSalary ≤ tally'.presentDays * tally'.baseSalary ∧
    tally.overtimeHours * tally.baseSalary ≤ tally'.overtimeHours * tally'.baseSalary ∧
    (tally.presentDays * tally.baseSalary).tdiv days ≤
      (tally'.presentDays * tally'.baseSalary).tdiv days ∧
    (tally.overtimeHours * tally.baseSalary).tdiv days ≤
      (tally'.overtimeHours * tally'.baseSalary).tdiv days := by
  have facts' := h.nonnegative facts
  have attendance := Int.mul_le_mul h.presentDays h.baseSalary facts.baseSalary facts'.presentDays
  have overtime := Int.mul_le_mul h.overtimeHours h.baseSalary facts.baseSalary facts'.overtimeHours
  exact ⟨attendance, overtime, share_mono pos facts.attendance attendance,
    share_mono pos facts.overtime overtime⟩

theorem AtMost.payable (h : tally.AtMost tally') (facts : tally.Nonnegative) (pos : 0 < days)
    (payable : tally'.Payable days) : tally.Payable days := by
  obtain ⟨attendance, overtime, share, extra⟩ := h.amounts facts pos
  have someAttendance := facts.attendance
  have someOvertime := facts.overtime
  have someShare := Int.tdiv_nonneg someAttendance (Int.le_of_lt pos)
  have someExtra := Int.tdiv_nonneg someOvertime (Int.le_of_lt pos)
  have reimbursed := facts.reimbursementTotal
  have more := h.reimbursementTotal
  rw [(h.nonnegative facts).payable_iff pos] at payable
  rw [facts.payable_iff pos]
  simp only [Amount.Fits] at payable ⊢
  omega

end Tally

namespace Payslip

variable {tally tally' : Tally} {days : Int} {period period' : Nat} {createdAt createdAt' : Stamp}

theorem compute_of_unpayable (h : ¬ tally.Payable days) (period : Nat) (createdAt : Stamp) :
    compute tally period days createdAt = .error (.invalid (.amountTooLarge tally.user)) :=
  if_neg h

theorem exists_compute_iff :
    (∃ draft, compute tally period days createdAt = .ok draft) ↔ tally.Payable days := by
  refine ⟨fun ⟨draft, ok⟩ => ?_, fun payable => payable.compute period createdAt⟩
  by_contra unpayable
  cases ok.symm.trans (compute_of_unpayable unpayable period createdAt)

/-- Who has handed in no less is paid no less. -/
theorem compute_mono {draft' : Draft} (le : tally.AtMost tally') (facts : tally.Nonnegative)
    (pos : 0 < days) (ok : compute tally' period' days createdAt' = .ok draft') :
    ∃ draft, compute tally period days createdAt = .ok draft ∧
      draft.attendanceAmount ≤ draft'.attendanceAmount ∧
      draft.overtimeAmount ≤ draft'.overtimeAmount ∧
      draft.reimbursementTotal ≤ draft'.reimbursementTotal ∧
      draft.takeHomePay ≤ draft'.takeHomePay := by
  have payable := le.payable facts pos (exists_compute_iff.mp ⟨draft', ok⟩)
  obtain ⟨draft, accepted⟩ := payable.compute period createdAt
  obtain ⟨-, -, share, extra⟩ := le.amounts facts pos
  have reimbursed := le.reimbursementTotal
  refine ⟨draft, accepted, ?_⟩
  obtain ⟨rfl, -⟩ := of_compute accepted
  obtain ⟨rfl, -⟩ := of_compute ok
  refine ⟨share, extra, reimbursed, ?_⟩
  change _ + _ + _ ≤ _ + _ + _
  omega

/-- Two shares are cut, so together they fall short by less than two units. -/
theorem compute_loss {draft : Draft} (facts : tally.Nonnegative) (pos : 0 < days)
    (ok : compute tally period days createdAt = .ok draft) :
    let exact := (tally.presentDays + tally.overtimeHours) * tally.baseSalary
    let loss := exact - days * (draft.attendanceAmount + draft.overtimeAmount)
    0 ≤ loss ∧ loss ≤ 2 * (days - 1) := by
  have share := share_loss pos facts.attendance
  have extra := share_loss pos facts.overtime
  obtain ⟨rfl, -⟩ := of_compute ok
  intro exact loss
  simp only [loss, exact, Int.add_mul, Int.mul_add]
  omega

/-- The same, of the pay as a fraction. -/
theorem compute_shortfall {draft : Draft} (facts : tally.Nonnegative) (pos : 0 < days)
    (ok : compute tally period days createdAt = .ok draft) :
    let exact := (tally.presentDays + tally.overtimeHours) * tally.baseSalary
    let pay : ℚ := exact / days + tally.reimbursementTotal
    draft.takeHomePay ≤ pay ∧ pay < draft.takeHomePay + 2 := by
  intro exact pay
  obtain ⟨least, most⟩ := compute_loss facts pos ok
  have takeHome : draft.takeHomePay =
      draft.attendanceAmount + draft.overtimeAmount + tally.reimbursementTotal := by
    rw [(of_compute ok).1]
  have positive : (0 : ℚ) < days := Int.cast_pos.mpr pos
  have gap : pay - draft.takeHomePay =
      (exact - days * (draft.attendanceAmount + draft.overtimeAmount) : Int) / days := by
    rw [takeHome]
    push_cast
    rw [sub_div, mul_div_cancel_left₀ _ positive.ne']
    ring
  have above : 0 ≤ pay - draft.takeHomePay := by
    rw [gap]
    exact div_nonneg (mod_cast least) positive.le
  have below : pay - draft.takeHomePay < 2 := by
    rw [gap, div_lt_iff₀ positive]
    exact_mod_cast show exact - days * (draft.attendanceAmount + draft.overtimeAmount) <
      2 * days by omega
  exact ⟨by linarith, by linarith⟩

/-- With every day attended the whole salary is paid. -/
theorem compute_full {draft : Draft} (pos : 0 < days)
    (ok : compute tally period days createdAt = .ok draft) (full : tally.presentDays = days) :
    draft.attendanceAmount = tally.baseSalary := by
  obtain ⟨rfl, -⟩ := of_compute ok
  change (tally.presentDays * tally.baseSalary).tdiv days = tally.baseSalary
  rw [full]
  exact Int.mul_tdiv_cancel_left _ (Int.ne_of_gt pos)

/-- Pay never falls when something is added to what was handed in or to the salary, and then it is
not refused either if the larger pay is not. It falls short of the exact share of the salary by less
than two units, and full attendance earns the full salary. -/
theorem pay_is_monotone_and_nearly_exact (facts : tally.Nonnegative) (pos : 0 < days)
    (period : Nat) (createdAt : Stamp) :
    (∀ tally' period' createdAt' draft', tally.AtMost tally' →
      compute tally' period' days createdAt' = .ok draft' →
      ∃ draft, compute tally period days createdAt = .ok draft ∧
        draft.attendanceAmount ≤ draft'.attendanceAmount ∧
        draft.overtimeAmount ≤ draft'.overtimeAmount ∧
        draft.reimbursementTotal ≤ draft'.reimbursementTotal ∧
        draft.takeHomePay ≤ draft'.takeHomePay) ∧
    ∀ draft, compute tally period days createdAt = .ok draft →
      let exact := (tally.presentDays + tally.overtimeHours) * tally.baseSalary
      let loss := exact - days * (draft.attendanceAmount + draft.overtimeAmount)
      let pay : ℚ := exact / days + tally.reimbursementTotal
      (0 ≤ loss ∧ loss ≤ 2 * (days - 1)) ∧
      (draft.takeHomePay ≤ pay ∧ pay < draft.takeHomePay + 2) ∧
      (tally.presentDays = days → draft.attendanceAmount = tally.baseSalary) := by
  refine ⟨fun _ _ _ _ le ok => compute_mono le facts pos ok, fun draft ok => ?_⟩
  exact ⟨compute_loss facts pos ok, compute_shortfall facts pos ok, compute_full pos ok⟩

/-- Ann is paid for six of seven days and two hours, Bob for a day more. -/
theorem pay_of_six_days :
    let ann : Tally := ⟨2, 1000, 6, 2, 30⟩
    let bob : Tally := ⟨3, 1000, 7, 2, 30⟩
    ∃ draft draft', compute ann 4 7 .epoch = .ok draft ∧ compute bob 4 7 .epoch = .ok draft' ∧
      draft.takeHomePay ≤ draft'.takeHomePay ∧ draft'.attendanceAmount = 1000 ∧
      0 ≤ 8 * 1000 - 7 * (draft.attendanceAmount + draft.overtimeAmount) ∧
      8 * 1000 - 7 * (draft.attendanceAmount + draft.overtimeAmount) ≤ 12 := by
  intro ann bob
  have pos : (0 : Int) < 7 := by decide
  have annFacts : ann.Nonnegative := ⟨by decide, by decide, by decide, by decide⟩
  have le : ann.AtMost bob := ⟨by decide, by decide, by decide, by decide⟩
  obtain ⟨draft', ok'⟩ : ∃ draft', compute bob 4 7 .epoch = .ok draft' := ⟨_, rfl⟩
  obtain ⟨mono, near⟩ := pay_is_monotone_and_nearly_exact annFacts pos 4 .epoch
  obtain ⟨-, -, full⟩ :=
    (pay_is_monotone_and_nearly_exact (le.nonnegative annFacts) pos 4 .epoch).2 draft' ok'
  obtain ⟨draft, ok, -, -, -, less⟩ := mono bob 4 .epoch draft' le ok'
  obtain ⟨least, most⟩ := (near draft ok).1
  exact ⟨draft, draft', ok, ok', less, full rfl, least, most⟩

end Payslip
end Wagebook
