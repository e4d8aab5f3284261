import Wagebook.Http.SharedPath

/-!
Routes: which endpoint a method and a path lead to, below the path that all of them share.
-/

namespace Wagebook.Http

inductive Endpoint
  | ping
  | login
  | openPeriod
  | runPayroll
  /-- With the part of the path that names the period, when it is the only variable one. -/
  | report (period : Option (List Char))
  | submitAttendance
  | submitOvertime
  | submitReimbursement
  | payslips
  deriving DecidableEq, Repr

/-- The parts of the service, each with its own way in. -/
inductive Area
  /-- Open to everyone. -/
  | health
  | login
  /-- For callers with a token. -/
  | guarded
  deriving DecidableEq, Repr

structure Route where
  area : Area
  /-- Nothing when the area has no such endpoint. -/
  endpoint : Option Endpoint
  deriving DecidableEq, Repr

namespace Route

def adminEndpoint (shared : SharedPath) (method : String) : List String → Option Endpoint
  | ["add-attendance-period"] => if method = "POST" then some .openPeriod else none
  | ["run-payroll"] => if method = "POST" then some .runPayroll else none
  | ["get-payslip-summary", period] =>
    if method = "GET" then some (.report (if shared.parts = 0 then some period.toList else none))
    else none
  | _ => none

def employeeEndpoint (method : String) : List String → Option Endpoint
  | ["submit-attendance"] => if method = "POST" then some .submitAttendance else none
  | ["submit-overtime"] => if method = "POST" then some .submitOvertime else none
  | ["submit-reimbursement"] => if method = "POST" then some .submitReimbursement else none
  | ["generate-payslips"] => if method = "GET" then some .payslips else none
  | _ => none

def below? (shared : SharedPath) (method : String) : List String → Option Route
  | ["ping"] => some ⟨.health, if method = "GET" then some .ping else none⟩
  | ["login"] => some ⟨.login, if method = "POST" then some .login else none⟩
  | "admin" :: rest => some ⟨.guarded, adminEndpoint shared method rest⟩
  | "employee" :: rest => some ⟨.guarded, employeeEndpoint method rest⟩
  | _ => none

def of? (shared : SharedPath) (method : String) (path : List Char) : Option Route := do
  match ← shared.rest? path with
  | '/' :: rest => below? shared method ((rest.splitOn '/').map String.ofList)
  | _ => none

end Route
end Wagebook.Http
