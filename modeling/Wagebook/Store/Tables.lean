import Wagebook.Amount
import Wagebook.Attendance
import Wagebook.Audit
import Wagebook.Overtime
import Wagebook.Payslip
import Wagebook.Period
import Wagebook.Reimbursement
import Wagebook.User

/-!
Tables in memory. They grow at the end, and one counter numbers the rows of all of them.
-/

namespace Wagebook

structure Tables where
  users : List User := []
  periods : List Period := []
  attendances : List Attendance := []
  overtimes : List Overtime := []
  reimbursements : List Reimbursement := []
  payslips : List Payslip := []
  requestEntries : List RequestEntry := []
  auditEntries : List AuditEntry := []
  lastId : Nat := 0

namespace Tables

def nextId (t : Tables) : Nat := t.lastId + 1

/-- The rows of each table, counted. -/
def sizes (t : Tables) : List Nat :=
  [t.users.length, t.periods.length, t.attendances.length, t.overtimes.length,
    t.reimbursements.length, t.payslips.length, t.requestEntries.length, t.auditEntries.length]

def addUser (t : Tables) (user : User) : Tables :=
  { t with lastId := t.nextId, users := t.users ++ [{ user with id := t.nextId }] }

def addPeriod (t : Tables) (draft : Period.Draft) : Tables :=
  { t with lastId := t.nextId, periods := t.periods ++ [draft.stored t.nextId] }

def addAttendance (t : Tables) (draft : Attendance.Draft) : Tables :=
  { t with lastId := t.nextId, attendances := t.attendances ++ [draft.stored t.nextId] }

def addOvertime (t : Tables) (draft : Overtime.Draft) : Tables :=
  { t with lastId := t.nextId, overtimes := t.overtimes ++ [draft.stored t.nextId] }

def addReimbursement (t : Tables) (draft : Reimbursement.Draft) : Tables :=
  { t with lastId := t.nextId, reimbursements := t.reimbursements ++ [draft.stored t.nextId] }

def addPayslip (t : Tables) (draft : Payslip.Draft) : Tables :=
  { t with lastId := t.nextId, payslips := t.payslips ++ [draft.stored t.nextId] }

def addRequestEntry (t : Tables) (draft : RequestEntry.Draft) : Tables :=
  { t with lastId := t.nextId, requestEntries := t.requestEntries ++ [draft.stored t.nextId] }

def addAuditEntry (t : Tables) (draft : AuditEntry.Draft) : Tables :=
  { t with lastId := t.nextId, auditEntries := t.auditEntries ++ [draft.stored t.nextId] }

def period? (t : Tables) (id : Nat) : Option Period := t.periods.find? (·.id = id)

def attendance? (t : Tables) (user period : Nat) (date : Date) : Option Attendance :=
  t.attendances.find? fun a => a.user = user ∧ a.period = period ∧ a.date = date

def overtime? (t : Tables) (user period : Nat) (date : Date) : Option Overtime :=
  t.overtimes.find? fun o => o.user = user ∧ o.period = period ∧ o.date = date

def payslip? (t : Tables) (user period : Nat) : Option Payslip :=
  t.payslips.find? fun p => p.user = user ∧ p.period = period

def user? (t : Tables) (username : String) : Option User :=
  t.users.find? (·.username = username)

/-- What amounts come to together, in 64 bits. -/
def total (ns : List Int) : Int := Amount.wrapped (ns.foldr (· + ·) 0)

def tally (t : Tables) (period : Nat) (user : User) : Tally :=
  { user := user.id, baseSalary := user.salary
    presentDays := (t.attendances.filter fun a => a.user = user.id ∧ a.period = period).length
    overtimeHours :=
      total ((t.overtimes.filter fun o => o.user = user.id ∧ o.period = period).map (·.hours))
    reimbursementTotal :=
      total ((t.reimbursements.filter fun r => r.user = user.id ∧ r.period = period).map
        (·.amount)) }

/-- What each employee has handed in for a period; admins are not paid. -/
def tallies (t : Tables) (period : Nat) : List Tally :=
  ((t.users.filter (!·.isAdmin)).mergeSort (·.id ≤ ·.id)).map (t.tally period)

/-- A user's payslips, the oldest period first. -/
def payslipsOf (t : Tables) (user : Nat) : List Payslip :=
  (t.payslips.filter (·.user = user)).mergeSort (·.period ≤ ·.period)

def addPay (p : Payslip) : List UserTotal → List UserTotal
  | [] => [⟨p.user, p.takeHomePay⟩]
  | t :: ts =>
    if t.user = p.user then
      { t with totalTakeHome := Amount.wrapped (t.totalTakeHome + p.takeHomePay) } :: ts
    else t :: addPay p ts

def report (t : Tables) (period : Nat) : Report :=
  let totals := (t.payslips.filter (·.period = period)).foldl (fun acc p => addPay p acc) []
  let perUser := totals.mergeSort (·.user ≤ ·.user)
  { perUser, total := total (perUser.map (·.totalTakeHome)) }

end Tables
end Wagebook
