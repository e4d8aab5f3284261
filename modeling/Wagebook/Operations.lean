import Wagebook.Amount
import Wagebook.Store.Work

/-!
The operations of the wage book. Each one checks its rules in a fixed order, stops at the first that
is broken, and writes its audit entry in the unit of work that makes the change. `now` is the
reading of the clock that its records carry, cut to microseconds.
-/

namespace Wagebook

def createPeriod (now : Stamp) (first last : Date) (actor : Actor) : Operation Nat where
  check := if first < last then .ok () else .error (.invalid .startNotBeforeEnd)
  commits := true
  work := ExceptT.run (m := Work) do
    let now := now.toMicros
    let draft : Period.Draft := { first, last, createdAt := now }
    let id ← Step.ask (.insertPeriod draft)
    let _ ← Step.audit .attendancePeriods id (draft.stored id).toJson actor now
    return id

def getPeriod (id : Nat) : Operation (Option Period) := .reading (Step.ask (.getPeriod id))

/-- Hands in the attendance of a day. Looking for an earlier one is an early exit only: the unique
key decides. -/
def submitAttendance (now : Stamp) (actor : Actor) (period : Nat) (date : Date) : Operation Nat :=
  .writing do
    if (← Step.ask (.getAttendance actor.user period date)).isSome then
      throw (.alreadyExists "attendance")
    let some window ← Step.ask (.getPeriod period) | throw (.notFound "period")
    if ¬ window.Contains date then throw (.outOfWindow window.first window.last)
    let now := now.toMicros
    let draft : Attendance.Draft := { user := actor.user, period, date, createdAt := now }
    let id ← Step.askUnless (.alreadyExists "attendance") (.insertAttendance draft)
    let _ ← Step.audit .attendances id (draft.stored id).toJson actor now
    return id

/-- Hands in overtime for a day with attendance. The day is not compared with the period's window,
which its attendance has passed. -/
def submitOvertime (now : Stamp) (actor : Actor) (period : Nat) (date : Date) (hours : Int) :
    Operation Nat :=
  .writing do
    if (← Step.ask (.getAttendance actor.user period date)).isNone then
      throw .attendanceMissing
    if (← Step.ask (.getOvertime actor.user period date)).isSome then
      throw (.alreadyExists "overtime")
    if (← Step.ask (.getPeriod period)).isNone then throw (.notFound "period")
    if hours < Overtime.leastHours ∨ Overtime.mostHours < hours then
      throw (.invalid .hoursOutOfRange)
    let now := now.toMicros
    let draft : Overtime.Draft := { user := actor.user, period, date, hours, createdAt := now }
    let id ← Step.askUnless (.alreadyExists "overtime") (.insertOvertime draft)
    let _ ← Step.audit .overtimes id (draft.stored id).toJson actor now
    return id

/-- Hands in an expense. The same one may be handed in twice. -/
def submitReimbursement (now : Stamp) (actor : Actor) (period : Nat) (amount : Int)
    (description : String) : Operation Nat :=
  .writing do
    if (← Step.ask (.getPeriod period)).isNone then throw (.notFound "period")
    if amount ≤ 0 then throw (.invalid .amountNotPositive)
    let now := now.toMicros
    let draft : Reimbursement.Draft :=
      { user := actor.user, period, amount, description, createdAt := now }
    let id ← Step.ask (.insertReimbursement draft)
    let _ ← Step.audit .reimbursements id (draft.stored id).toJson actor now
    return id

/-- The pay of one employee. Salary is paid by the share of the working days that were attended, and
again by overtime hours as if each were a day; both shares are cut to whole units toward zero.
Reimbursements come on top. No intermediate amount may leave the 64 bits. -/
def Payslip.compute (tally : Tally) (period : Nat) (workingDays : Int) (createdAt : Stamp) :
    Except PayrollError Payslip.Draft :=
  let attendanceProduct := tally.presentDays * tally.baseSalary
  let overtimeProduct := tally.overtimeHours * tally.baseSalary
  let attendanceAmount := attendanceProduct.tdiv workingDays
  let overtimeAmount := overtimeProduct.tdiv workingDays
  let pay := attendanceAmount + overtimeAmount
  let takeHomePay := pay + tally.reimbursementTotal
  if Amount.Fits attendanceProduct ∧ Amount.Fits overtimeProduct ∧ Amount.Fits pay ∧
      Amount.Fits takeHomePay then
    .ok { user := tally.user, period, baseSalary := tally.baseSalary, workingDays
          presentDays := tally.presentDays, attendanceAmount
          overtimeHours := tally.overtimeHours, overtimeAmount
          reimbursementTotal := tally.reimbursementTotal, takeHomePay, createdAt }
  else .error (.invalid (.amountTooLarge tally.user))

/-- Pays a period: one payslip for every employee, all of them or none, audited as one entry. The
period is held before the look for earlier payslips, so that of two runs the later one sees the
payslips of the earlier. Answers how many payslips were written. -/
def runPayroll (now : Stamp) (period : Nat) (actor : Actor) : Operation Nat :=
  .writing do
    let held ← Step.ask (.lockPeriod period)
    if ← Step.ask (.payslipsExist period) then throw (.alreadyProcessed period)
    let some window := held | throw (.notFound "period")
    if window.workingDays ≤ 0 then throw (.invalid .noWorkingDays)
    let tallies ← Step.ask (.tallies period)
    let now := now.toMicros
    let drafts ← tallies.mapM (Payslip.compute · period window.workingDays now)
    let _ ← Step.askUnless (.alreadyProcessed period) (.insertPayslips drafts)
    let _ ← Step.audit .payslips runRecordId (.arr (drafts.map Payslip.Draft.toJson)) actor now
    return drafts.length

def getReport (period : Nat) : Operation Report := .reading (Step.ask (.report period))

def getPayslips (user : Nat) : Operation (List Payslip) := .reading (Step.ask (.payslipsOf user))

def findUser (username : String) : Operation (Option User) :=
  .reading (Step.ask (.getUser username))

def recordRequest (now : Stamp) (url method ipAddress : String) : Operation Nat :=
  .writing (Step.ask (.insertRequestEntry { url, method, ipAddress, createdAt := now.toMicros }))

end Wagebook
