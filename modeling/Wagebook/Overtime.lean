import Wagebook.Calendar.Json

/-!
Overtime: hours worked on a day beyond the attendance of that day.
-/

namespace Wagebook

structure Overtime where
  id : Nat
  user : Nat
  period : Nat
  date : Date
  hours : Int
  createdAt : Stamp
  updatedAt : Stamp
  deriving DecidableEq

structure Overtime.Draft where
  user : Nat
  period : Nat
  date : Date
  hours : Int
  createdAt : Stamp
  deriving DecidableEq

namespace Overtime

def leastHours : Int := 1

def mostHours : Int := 3

def Draft.stored (draft : Draft) (id : Nat) : Overtime :=
  { id, user := draft.user, period := draft.period, date := draft.date, hours := draft.hours
    createdAt := draft.createdAt, updatedAt := draft.createdAt }

def fieldNames : List String :=
  ["id", "user_id", "period_id", "date", "hours", "created_at", "updated_at"]

def toJson (o : Overtime) : Json :=
  .record fieldNames [.nat o.id, .nat o.user, .nat o.period, o.date.toJson, .int o.hours,
    o.createdAt.toJson, o.updatedAt.toJson]

def ofFields? : List Json → Option Overtime
  | [id, user, period, date, hours, createdAt, updatedAt] => do
    return { id := ← id.nat64?, user := ← user.nat64?, period := ← period.nat64?
             date := ← date.date?, hours := ← hours.int32?
             createdAt := ← createdAt.stamp?, updatedAt := ← updatedAt.stamp? }
  | _ => none

def ofJson? (v : Json) : Option Overtime := do ofFields? (← v.fields? fieldNames [])

end Overtime
end Wagebook
