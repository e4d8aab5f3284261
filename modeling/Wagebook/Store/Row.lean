import Wagebook.Attendance
import Wagebook.Overtime
import Wagebook.Payslip
import Wagebook.Period
import Wagebook.Store.Statement
import Wagebook.User

/-!
Rows as records. Each kind of row has its columns in the order in which its query names them.
-/

namespace Wagebook

namespace Cell

def int? : Cell → Option Int
  | .int n => some n
  | .bool b => some (if b then 1 else 0)
  | _ => none

def nat? (c : Cell) : Option Nat := do
  let n ← c.int?
  if 0 ≤ n then some n.toNat else none

def bool? (c : Cell) : Option Bool := c.int?.map (· ≠ 0)

def text? : Cell → Option String
  | .text s => some s
  | _ => none

def date? : Cell → Option Date
  | .date d => some d
  | _ => none

/-- A column keeps microseconds. -/
def stamp? : Cell → Option Stamp
  | .stamp s => some s.toMicros
  | _ => none

end Cell

namespace Row

def period? : List Cell → Option Period
  | [id, first, last, isProcessed, createdAt, updatedAt] => do
    return { id := ← id.nat?, first := ← first.date?, last := ← last.date?
             isProcessed := ← isProcessed.bool?
             createdAt := ← createdAt.stamp?, updatedAt := ← updatedAt.stamp? }
  | _ => none

def attendance? : List Cell → Option Attendance
  | [id, user, period, date, createdAt, updatedAt] => do
    return { id := ← id.nat?, user := ← user.nat?, period := ← period.nat?, date := ← date.date?
             createdAt := ← createdAt.stamp?, updatedAt := ← updatedAt.stamp? }
  | _ => none

def overtime? : List Cell → Option Overtime
  | [id, user, period, date, hours, createdAt, updatedAt] => do
    return { id := ← id.nat?, user := ← user.nat?, period := ← period.nat?, date := ← date.date?
             hours := ← hours.int?
             createdAt := ← createdAt.stamp?, updatedAt := ← updatedAt.stamp? }
  | _ => none

def tally? : List Cell → Option Tally
  | [user, baseSalary, presentDays, overtimeHours, reimbursementTotal] => do
    return { user := ← user.nat?, baseSalary := ← baseSalary.int?
             presentDays := ← presentDays.int?, overtimeHours := ← overtimeHours.int?
             reimbursementTotal := ← reimbursementTotal.int? }
  | _ => none

def payslip? : List Cell → Option Payslip
  | [id, user, period, baseSalary, workingDays, presentDays, attendanceAmount, overtimeHours,
      overtimeAmount, reimbursementTotal, takeHomePay, createdAt, updatedAt] => do
    return { id := ← id.nat?, user := ← user.nat?, period := ← period.nat?
             baseSalary := ← baseSalary.int?, workingDays := ← workingDays.int?
             presentDays := ← presentDays.int?, attendanceAmount := ← attendanceAmount.int?
             overtimeHours := ← overtimeHours.int?, overtimeAmount := ← overtimeAmount.int?
             reimbursementTotal := ← reimbursementTotal.int?, takeHomePay := ← takeHomePay.int?
             createdAt := ← createdAt.stamp?, updatedAt := ← updatedAt.stamp? }
  | _ => none

def userTotal? : List Cell → Option UserTotal
  | [user, totalTakeHome] => do
    return { user := ← user.nat?, totalTakeHome := ← totalTakeHome.int? }
  | _ => none

def user? : List Cell → Option User
  | [id, username, passwordHash, fullName, salary, isAdmin, createdAt, updatedAt] => do
    return { id := ← id.nat?, username := ← username.text?, passwordHash := ← passwordHash.text?
             fullName := ← fullName.text?, salary := ← salary.int?, isAdmin := ← isAdmin.bool?
             createdAt := ← createdAt.stamp?, updatedAt := ← updatedAt.stamp? }
  | _ => none

def int? : List Cell → Option Int
  | [n] => n.int?
  | _ => none

end Row

end Wagebook
