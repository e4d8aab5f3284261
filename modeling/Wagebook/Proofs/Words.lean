import Wagebook.Proofs.Proration

/-!
Pay in machine words. A machine has 64 bits for an amount. It can tell when a sum or a product
leaves them, and it stops at a quotient that does not exist. Computed in words, one operation after
the other, the pay of an employee never gets to such a quotient and no amount wraps around: it is
what it is in whole numbers, or it is refused because one of them leaves the 64 bits.
-/

namespace Wagebook

/-- A computation on words, which may be refused. If it has no outcome at all the machine has
stopped. -/
abbrev Machine := ExceptT PayrollError Option

namespace Machine

def sum (refusal : PayrollError) (a b : Int64) : Machine Int64 :=
  if a.toBitVec.saddOverflow b.toBitVec then throw refusal else pure (a + b)

def product (refusal : PayrollError) (a b : Int64) : Machine Int64 :=
  if a.toBitVec.smulOverflow b.toBitVec then throw refusal else pure (a * b)

/-- The quotient, cut toward zero. There is none by zero, and none of the least word by minus
one. -/
def quotient (a b : Int64) : Machine Int64 :=
  if b = 0 ∨ (a = Int64.minValue ∧ b = -1) then ExceptT.mk none else pure (a / b)

variable {refusal : PayrollError} {a b : Int64}

theorem saddOverflow_iff :
    a.toBitVec.saddOverflow b.toBitVec = true ↔ ¬ Amount.Fits (a.toInt + b.toInt) := by
  simp only [BitVec.saddOverflow, Int64.toInt_toBitVec, Amount.Fits, Bool.or_eq_true,
    decide_eq_true_eq]
  omega

theorem smulOverflow_iff :
    a.toBitVec.smulOverflow b.toBitVec = true ↔ ¬ Amount.Fits (a.toInt * b.toInt) := by
  simp only [BitVec.smulOverflow, Int64.toInt_toBitVec, Amount.Fits, Bool.or_eq_true,
    decide_eq_true_eq]
  omega

/-! An operation that the machine accepts is exact. -/

theorem toInt_sum (fits : Amount.Fits (a.toInt + b.toInt)) :
    (a + b).toInt = a.toInt + b.toInt :=
  BitVec.toInt_add_of_not_saddOverflow fun leaves => saddOverflow_iff.mp leaves fits

theorem toInt_product (fits : Amount.Fits (a.toInt * b.toInt)) :
    (a * b).toInt = a.toInt * b.toInt :=
  BitVec.toInt_mul_of_not_smulOverflow fun leaves => smulOverflow_iff.mp leaves fits

theorem ne_of_pos (pos : 0 < b) : b ≠ 0 ∧ b ≠ -1 := by
  refine ⟨?_, ?_⟩ <;> rintro rfl <;> exact absurd pos (by decide)

theorem toInt_quotient (pos : 0 < b) (a : Int64) : (a / b).toInt = a.toInt.tdiv b.toInt :=
  Int64.toInt_div_of_ne_right a b (ne_of_pos pos).2

section Run
variable (next : Int64 → Machine α)

theorem run_sum_bind : (sum refusal a b >>= next).run =
    if Amount.Fits (a.toInt + b.toInt) then (next (a + b)).run else some (.error refusal) := by
  unfold sum
  simp only [saddOverflow_iff, ite_not]
  split <;> rfl

theorem run_product_bind : (product refusal a b >>= next).run =
    if Amount.Fits (a.toInt * b.toInt) then (next (a * b)).run else some (.error refusal) := by
  unfold product
  simp only [smulOverflow_iff, ite_not]
  split <;> rfl

/-- By a positive word there is always a quotient. -/
theorem run_quotient_bind (pos : 0 < b) :
    (quotient a b >>= next).run = (next (a / b)).run := by
  obtain ⟨zero, minusOne⟩ := ne_of_pos pos
  rw [quotient, if_neg (by simp [zero, minusOne])]
  rfl

end Run
end Machine

/-- A tally in words. -/
structure Tally.Words where
  user : Nat
  baseSalary : Int64
  presentDays : Int64
  overtimeHours : Int64
  reimbursementTotal : Int64

def Tally.Words.tally (words : Tally.Words) : Tally where
  user := words.user
  baseSalary := words.baseSalary.toInt
  presentDays := words.presentDays.toInt
  overtimeHours := words.overtimeHours.toInt
  reimbursementTotal := words.reimbursementTotal.toInt

namespace Payslip

/-- The pay of an employee as a machine computes it. -/
def computeInWords (words : Tally.Words) (period : Nat) (workingDays : Int64)
    (createdAt : Stamp) : Option (Except PayrollError Draft) := ExceptT.run do
  let tooLarge : PayrollError := .invalid (.amountTooLarge words.user)
  let attendanceProduct ← Machine.product tooLarge words.presentDays words.baseSalary
  let attendanceAmount ← Machine.quotient attendanceProduct workingDays
  let overtimeProduct ← Machine.product tooLarge words.overtimeHours words.baseSalary
  let overtimeAmount ← Machine.quotient overtimeProduct workingDays
  let pay ← Machine.sum tooLarge attendanceAmount overtimeAmount
  let takeHomePay ← Machine.sum tooLarge pay words.reimbursementTotal
  return {
    user := words.user, period, baseSalary := words.baseSalary.toInt
    workingDays := workingDays.toInt, presentDays := words.presentDays.toInt
    attendanceAmount := attendanceAmount.toInt, overtimeHours := words.overtimeHours.toInt
    overtimeAmount := overtimeAmount.toInt
    reimbursementTotal := words.reimbursementTotal.toInt, takeHomePay := takeHomePay.toInt
    createdAt }

/-- By a positive number of days the machine computes what is computed in whole numbers: up to the
first amount that does not fit each word stands for the exact number. -/
theorem computeInWords_eq (words : Tally.Words) (period : Nat) {days : Int64} (pos : 0 < days)
    (createdAt : Stamp) : computeInWords words period days createdAt =
      some (compute words.tally period days.toInt createdAt) := by
  simp only [computeInWords, Machine.run_product_bind, Machine.run_quotient_bind _ pos,
    Machine.run_sum_bind, compute, Tally.Words.tally]
  by_cases attendanceFits : Amount.Fits (words.presentDays.toInt * words.baseSalary.toInt)
  case neg => simp only [attendanceFits, if_false, false_and]
  by_cases overtimeFits : Amount.Fits (words.overtimeHours.toInt * words.baseSalary.toInt)
  case neg => simp only [attendanceFits, overtimeFits, if_true, if_false, true_and, false_and]
  have share := Machine.toInt_quotient pos (words.presentDays * words.baseSalary)
  have extra := Machine.toInt_quotient pos (words.overtimeHours * words.baseSalary)
  rw [Machine.toInt_product attendanceFits] at share
  rw [Machine.toInt_product overtimeFits] at extra
  rw [share, extra]
  by_cases payFits : Amount.Fits
    ((words.presentDays.toInt * words.baseSalary.toInt).tdiv days.toInt +
      (words.overtimeHours.toInt * words.baseSalary.toInt).tdiv days.toInt)
  case neg =>
    simp only [attendanceFits, overtimeFits, payFits, if_true, if_false, true_and, false_and]
  have pay := Machine.toInt_sum (share.symm ▸ extra.symm ▸ payFits)
  rw [share, extra] at pay
  rw [pay]
  by_cases takeHomeFits : Amount.Fits
    ((words.presentDays.toInt * words.baseSalary.toInt).tdiv days.toInt +
      (words.overtimeHours.toInt * words.baseSalary.toInt).tdiv days.toInt +
      words.reimbursementTotal.toInt)
  case neg =>
    simp only [attendanceFits, overtimeFits, payFits, takeHomeFits, if_true, if_false, true_and]
  have takeHome := Machine.toInt_sum (pay.symm ▸ takeHomeFits)
  rw [pay] at takeHome
  simp only [attendanceFits, overtimeFits, payFits, takeHomeFits, if_true, and_self, takeHome]
  rfl

/-- For amounts of 64 bits and a positive number of days the machine always comes to an outcome, the
one in whole numbers. It accepts a tally exactly if both products, the sum of the shares and the
take-home pay are within the 64 bits, and then each amount is exact. Otherwise it names the
employee. Without negative amounts the sum of the shares is within if the take-home pay is. -/
theorem compute_is_exact_or_refuses (words : Tally.Words) (period : Nat) {days : Int64}
    (pos : 0 < days) (createdAt : Stamp) :
    let tally := words.tally
    let computed := compute tally period days.toInt createdAt
    let attendance := tally.presentDays * tally.baseSalary
    let overtime := tally.overtimeHours * tally.baseSalary
    let pay := attendance.tdiv days.toInt + overtime.tdiv days.toInt
    let takeHome := pay + tally.reimbursementTotal
    computeInWords words period days createdAt = some computed ∧
    ((∃ draft, computed = .ok draft) ↔ Amount.Fits attendance ∧ Amount.Fits overtime ∧
      Amount.Fits pay ∧ Amount.Fits takeHome) ∧
    (∀ draft, computed = .ok draft → draft =
      { user := words.user, period, baseSalary := words.baseSalary.toInt
        workingDays := days.toInt, presentDays := words.presentDays.toInt
        attendanceAmount := attendance.tdiv days.toInt
        overtimeHours := words.overtimeHours.toInt
        overtimeAmount := overtime.tdiv days.toInt
        reimbursementTotal := words.reimbursementTotal.toInt
        takeHomePay := takeHome, createdAt }) ∧
    (∀ cause, computed = .error cause → cause = .invalid (.amountTooLarge words.user) ∧
      cause.message = "payslip amount out of range for employee " ++ toString words.user) ∧
    (tally.Nonnegative → ((∃ draft, computed = .ok draft) ↔
      Amount.Fits attendance ∧ Amount.Fits overtime ∧ Amount.Fits takeHome)) := by
  intro tally computed attendance overtime pay takeHome
  have accepted : (∃ draft, computed = .ok draft) ↔ tally.Payable days.toInt := exists_compute_iff
  refine ⟨computeInWords_eq words period pos createdAt, accepted, fun draft ok => ?_,
    fun cause refused => ?_, fun facts => accepted.trans ?_⟩
  · exact (of_compute ok).1
  · obtain ⟨rfl, -⟩ := of_compute_error refused
    exact ⟨rfl, rfl⟩
  · exact facts.payable_iff (Int64.lt_iff_toInt_lt.mp pos)

/-- A debt of the same size would bring two fortunes back into the 64 bits, but their sum has left
them before. -/
theorem two_fortunes_are_refused :
    let words : Tally.Words := ⟨42, Int64.maxValue, 1, 1, -Int64.maxValue⟩
    let fortune := Int64.maxValue.toInt
    Amount.Fits (fortune + fortune + (-Int64.maxValue).toInt) ∧
      computeInWords words 5 1 .epoch = some (.error (.invalid (.amountTooLarge 42))) := by
  intro words fortune
  obtain ⟨inWords, accepted, -, refused, -⟩ :=
    compute_is_exact_or_refuses words 5 (show (0 : Int64) < 1 by decide) .epoch
  refine ⟨by decide +kernel, ?_⟩
  rw [inWords]
  cases computed : compute words.tally 5 (1 : Int64).toInt .epoch with
  | ok draft => exact absurd (accepted.mp ⟨draft, computed⟩) (by decide +kernel)
  | error cause => rw [(refused cause computed).1]

end Payslip
end Wagebook
