import Wagebook.Calendar.Json

/-!
Attendance: the days on which an employee was present, and what a period's facts about an employee
add up to.
-/

namespace Wagebook

structure Attendance where
  id : Nat
  user : Nat
  period : Nat
  date : Date
  createdAt : Stamp
  updatedAt : Stamp
  deriving DecidableEq

structure Attendance.Draft where
  user : Nat
  period : Nat
  date : Date
  createdAt : Stamp
  deriving DecidableEq

namespace Attendance

def Draft.stored (draft : Draft) (id : Nat) : Attendance :=
  { id, user := draft.user, period := draft.period, date := draft.date
    createdAt := draft.createdAt, updatedAt := draft.createdAt }

def fieldNames : List String :=
  ["id", "user_id", "period_id", "date", "created_at", "updated_at"]

def toJson (a : Attendance) : Json :=
  .record fieldNames [.nat a.id, .nat a.user, .nat a.period, a.date.toJson,
    a.createdAt.toJson, a.updatedAt.toJson]

def ofFields? : List Json → Option Attendance
  | [id, user, period, date, createdAt, updatedAt] => do
    return { id := ← id.nat64?, user := ← user.nat64?, period := ← period.nat64?
             date := ← date.date?
             createdAt := ← createdAt.stamp?, updatedAt := ← updatedAt.stamp? }
  | _ => none

def ofJson? (v : Json) : Option Attendance := do ofFields? (← v.fields? fieldNames [])

end Attendance

/-- What an employee has handed in for one period, with the salary it is paid by. -/
structure Tally where
  user : Nat
  baseSalary : Int
  presentDays : Int
  overtimeHours : Int
  reimbursementTotal : Int
  deriving DecidableEq, Repr

end Wagebook
