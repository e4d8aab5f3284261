import Wagebook.Calendar.Json

/-!
Payslips, and the report that adds up the pay of a period.
-/

namespace Wagebook

structure Payslip where
  id : Nat
  user : Nat
  period : Nat
  baseSalary : Int
  workingDays : Int
  presentDays : Int
  attendanceAmount : Int
  overtimeHours : Int
  overtimeAmount : Int
  reimbursementTotal : Int
  takeHomePay : Int
  createdAt : Stamp
  updatedAt : Stamp
  deriving DecidableEq

structure Payslip.Draft where
  user : Nat
  period : Nat
  baseSalary : Int
  workingDays : Int
  presentDays : Int
  attendanceAmount : Int
  overtimeHours : Int
  overtimeAmount : Int
  reimbursementTotal : Int
  takeHomePay : Int
  createdAt : Stamp
  deriving DecidableEq

structure UserTotal where
  user : Nat
  totalTakeHome : Int
  deriving DecidableEq, Repr

structure Report where
  perUser : List UserTotal
  total : Int
  deriving DecidableEq, Repr

namespace Payslip

def Draft.stored (draft : Draft) (id : Nat) : Payslip :=
  { id, user := draft.user, period := draft.period, baseSalary := draft.baseSalary
    workingDays := draft.workingDays, presentDays := draft.presentDays
    attendanceAmount := draft.attendanceAmount, overtimeHours := draft.overtimeHours
    overtimeAmount := draft.overtimeAmount, reimbursementTotal := draft.reimbursementTotal
    takeHomePay := draft.takeHomePay, createdAt := draft.createdAt, updatedAt := draft.createdAt }

def Draft.fieldNames : List String :=
  ["user_id", "period_id", "base_salary", "working_days", "present_days", "attendance_amount",
    "overtime_hours", "overtime_amount", "reimbursement_total", "take_home_pay", "created_at"]

def Draft.toJson (d : Draft) : Json :=
  .record Draft.fieldNames [.nat d.user, .nat d.period, .int d.baseSalary, .int d.workingDays,
    .int d.presentDays, .int d.attendanceAmount, .int d.overtimeHours, .int d.overtimeAmount,
    .int d.reimbursementTotal, .int d.takeHomePay, d.createdAt.toJson]

def Draft.ofFields? : List Json → Option Draft
  | [user, period, baseSalary, workingDays, presentDays, attendanceAmount, overtimeHours,
      overtimeAmount, reimbursementTotal, takeHomePay, createdAt] => do
    return { user := ← user.nat64?, period := ← period.nat64?
             baseSalary := ← baseSalary.int64?, workingDays := ← workingDays.int64?
             presentDays := ← presentDays.int64?, attendanceAmount := ← attendanceAmount.int64?
             overtimeHours := ← overtimeHours.int64?, overtimeAmount := ← overtimeAmount.int64?
             reimbursementTotal := ← reimbursementTotal.int64?
             takeHomePay := ← takeHomePay.int64?, createdAt := ← createdAt.stamp? }
  | _ => none

def Draft.ofJson? (v : Json) : Option Draft := do
  Draft.ofFields? (← v.fields? Draft.fieldNames [])

def fieldNames : List String := "id" :: Draft.fieldNames ++ ["updated_at"]

def toJson (p : Payslip) : Json :=
  .record fieldNames [.nat p.id, .nat p.user, .nat p.period, .int p.baseSalary,
    .int p.workingDays, .int p.presentDays, .int p.attendanceAmount, .int p.overtimeHours,
    .int p.overtimeAmount, .int p.reimbursementTotal, .int p.takeHomePay, p.createdAt.toJson,
    p.updatedAt.toJson]

def ofFields? : List Json → Option Payslip
  | [id, user, period, baseSalary, workingDays, presentDays, attendanceAmount, overtimeHours,
      overtimeAmount, reimbursementTotal, takeHomePay, createdAt, updatedAt] => do
    return { id := ← id.nat64?, user := ← user.nat64?, period := ← period.nat64?
             baseSalary := ← baseSalary.int64?, workingDays := ← workingDays.int64?
             presentDays := ← presentDays.int64?, attendanceAmount := ← attendanceAmount.int64?
             overtimeHours := ← overtimeHours.int64?, overtimeAmount := ← overtimeAmount.int64?
             reimbursementTotal := ← reimbursementTotal.int64?
             takeHomePay := ← takeHomePay.int64?
             createdAt := ← createdAt.stamp?, updatedAt := ← updatedAt.stamp? }
  | _ => none

def ofJson? (v : Json) : Option Payslip := do ofFields? (← v.fields? fieldNames [])

end Payslip

namespace UserTotal

def fieldNames : List String := ["user_id", "total_take_home"]

def toJson (t : UserTotal) : Json := .record fieldNames [.nat t.user, .int t.totalTakeHome]

def ofFields? : List Json → Option UserTotal
  | [user, totalTakeHome] => do
    return { user := ← user.nat64?, totalTakeHome := ← totalTakeHome.int64? }
  | _ => none

def ofJson? (v : Json) : Option UserTotal := do ofFields? (← v.fields? fieldNames [])

end UserTotal

namespace Report

def fieldNames : List String := ["per_user", "total"]

def toJson (r : Report) : Json :=
  .record fieldNames [.arr (r.perUser.map UserTotal.toJson), .int r.total]

def ofFields? : List Json → Option Report
  | [perUser, total] => do
    return { perUser := ← perUser.list? UserTotal.ofJson?, total := ← total.int64? }
  | _ => none

def ofJson? (v : Json) : Option Report := do ofFields? (← v.fields? fieldNames [])

end Report
end Wagebook
