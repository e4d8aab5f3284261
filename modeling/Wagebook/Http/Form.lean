import Wagebook.Calendar.DateText
import Wagebook.Http.Fault

/-!
What the bodies of requests hold.
-/

namespace Wagebook.Http

structure PeriodForm where
  first : String
  last : String

structure PayrollForm where
  period : Nat

structure AttendanceForm where
  period : Nat
  date : String

structure OvertimeForm where
  period : Nat
  date : String
  hours : Int
  workCompleted : Bool

structure ReimbursementForm where
  period : Nat
  amount : Int
  description : String

structure LoginForm where
  username : String
  password : String

def PeriodForm.ofJson? (v : Json) : Option PeriodForm := do
  match ← v.fields? ["start_date", "end_date"] [] with
  | [first, last] => return { first := ← first.str?, last := ← last.str? }
  | _ => none

def PayrollForm.ofJson? (v : Json) : Option PayrollForm := do
  match ← v.fields? ["period_id"] [] with
  | [period] => return { period := ← period.nat64? }
  | _ => none

def AttendanceForm.ofJson? (v : Json) : Option AttendanceForm := do
  match ← v.fields? ["period_id", "date"] [] with
  | [period, date] => return { period := ← period.nat64?, date := ← date.str? }
  | _ => none

def OvertimeForm.ofJson? (v : Json) : Option OvertimeForm := do
  match ← v.fields? ["period_id", "date", "hours", "work_completed"] [] with
  | [period, date, hours, workCompleted] =>
    return { period := ← period.nat64?, date := ← date.str?, hours := ← hours.int32?
             workCompleted := ← workCompleted.bool? }
  | _ => none

def ReimbursementForm.ofJson? (v : Json) : Option ReimbursementForm := do
  match ← v.fields? ["period_id", "amount", "description"] [] with
  | [period, amount, description] =>
    return { period := ← period.nat64?, amount := ← amount.int64?
             description := ← description.str? }
  | _ => none

def LoginForm.ofJson? (v : Json) : Option LoginForm := do
  match ← v.fields? ["username", "password"] [] with
  | [username, password] => return { username := ← username.str?, password := ← password.str? }
  | _ => none

def dateField (name text : String) : Except Fault Date :=
  match Date.readField? text with
  | some d => .ok d
  | none => .error (.malformedField name)

end Wagebook.Http
