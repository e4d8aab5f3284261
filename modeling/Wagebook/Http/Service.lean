import Wagebook.Http.Caller
import Wagebook.Http.Form
import Wagebook.Http.Request
import Wagebook.Http.Route
import Wagebook.Operations
import Wagebook.Password
import Wagebook.Store.Basic

/-!
The endpoints. Each one takes what it needs of the request in a fixed order, then asks for the role
that it is for, then checks its form, and then does its work; the first that fails is the answer.
-/

namespace Wagebook.Http

structure ServiceConfig where
  secret : String := "test-secret"
  tokenSeconds : Nat := 3600
  timeoutMs : Nat := 5000
  loginsPerMinute : Nat := 60
  guardedPerMinute : Nat := 1000
  sharedPath : String := "/v1"
  decoders : Decoders := {}

structure Parts where
  store : Bool := true
  config : Bool := true
  deriving DecidableEq, Repr

/-- What the world gives to a request: the time, and an id that nothing else has. -/
structure Occasion where
  now : Stamp
  freshId : String

/-- Serving a request, which changes the store and ends in an answer or, early, in a refusal. -/
abbrev Serve (σ : Type) [Store σ] := ExceptT Response (StateM (Shared σ))

structure Service where
  config : ServiceConfig
  parts : Parts
  occasion : Occasion

namespace Service

variable {σ : Type} [Store σ]

def orRefuse (result : Except Fault α) : Serve σ α :=
  match result with
  | .ok a => return a
  | .error fault => throw fault.response

def needs (present : Bool) : Serve σ Unit :=
  if present then return () else throw .partMissing

def perform (s : Service) (operation : Operation α) : Serve σ α := do
  let (result, shared) := (← get).run s.config.timeoutMs operation
  set shared
  orRefuse (result.mapError .payroll)

def ping (s : Service) : Serve σ Response := do
  needs s.parts.store
  let (result, shared) := (← get).ping
  set shared
  match result with
  | .ok () => return .ok (.record ["server_says"] [.str "pong"])
  | .error _ => throw Fault.internal.response

/-- A token for a user whose password fits. Nothing tells apart why there is none. -/
def login (s : Service) (request : Request) : Serve σ Response := do
  let form ← orRefuse (request.json? s.config.decoders LoginForm.ofJson?)
  needs s.parts.store
  needs s.parts.config
  if (Text.trim form.username.toList).isEmpty ∨ form.password.isEmpty then
    throw Fault.blankCredentials.response
  let (result, shared) := (← get).runUntimed (findUser form.username)
  set shared
  match result with
  | .error _ => throw Fault.internal.response
  | .ok none => throw Fault.wrongCredentials.response
  | .ok (some user) =>
    if Password.matches? form.password user.passwordHash ≠ some true then
      throw Fault.wrongCredentials.response
    let token := Token.issue s.occasion.now s.occasion.freshId user.id user.username
      (Role.ofIsAdmin user.isAdmin) s.config.secret s.config.tokenSeconds
    return .ok (.record ["token"] [.str token])

/-- The caller, the request's log entry and the form of an endpoint that changes something. -/
def takeForm (s : Service) (context : Context) (request : Request) (ofJson? : Json → Option α) :
    Serve σ (Caller × Nat × α) := do
  let caller ← orRefuse context.caller
  let logged ← orRefuse context.logged
  needs s.parts.store
  needs s.parts.config
  return (caller, logged, ← orRefuse (request.json? s.config.decoders ofJson?))

def openPeriod (s : Service) (context : Context) (request : Request) : Serve σ Response := do
  let (caller, logged, form) ← s.takeForm context request PeriodForm.ofJson?
  orRefuse caller.requireAdmin
  let first ← orRefuse (dateField "start_date" form.first)
  let last ← orRefuse (dateField "end_date" form.last)
  let id ← s.perform (createPeriod s.occasion.now first last (caller.actor logged))
  return .ok (.record ["period_id", "message"] [.nat id, .str "attendance period created"])

def startPayroll (s : Service) (context : Context) (request : Request) : Serve σ Response := do
  let (caller, logged, form) ← s.takeForm context request PayrollForm.ofJson?
  orRefuse caller.requireAdmin
  let count ← s.perform (runPayroll s.occasion.now form.period (caller.actor logged))
  return .ok (.record ["period_id", "payslips_generated"] [.nat form.period, .nat count])

def submitted (id : Nat) (message : String) : Response :=
  .ok (.record ["id", "message"] [.nat id, .str message])

def handInAttendance (s : Service) (context : Context) (request : Request) :
    Serve σ Response := do
  let (caller, logged, form) ← s.takeForm context request AttendanceForm.ofJson?
  orRefuse caller.requireEmployee
  let date ← orRefuse (dateField "date" form.date)
  let id ← s.perform (submitAttendance s.occasion.now (caller.actor logged) form.period date)
  return submitted id "attendance submitted"

def handInOvertime (s : Service) (context : Context) (request : Request) : Serve σ Response := do
  let (caller, logged, form) ← s.takeForm context request OvertimeForm.ofJson?
  orRefuse caller.requireEmployee
  let date ← orRefuse (dateField "date" form.date)
  if ¬ form.workCompleted then throw Fault.workUnfinished.response
  let id ← s.perform
    (submitOvertime s.occasion.now (caller.actor logged) form.period date form.hours)
  return submitted id "overtime submitted"

def handInReimbursement (s : Service) (context : Context) (request : Request) :
    Serve σ Response := do
  let (caller, logged, form) ← s.takeForm context request ReimbursementForm.ofJson?
  orRefuse caller.requireEmployee
  if form.amount ≤ 0 then throw Fault.amountNotPositive.response
  let id ← s.perform (submitReimbursement s.occasion.now (caller.actor logged) form.period
    form.amount form.description)
  return submitted id "reimbursement submitted"

def showReport (s : Service) (context : Context) (period : Option (List Char)) :
    Serve σ Response := do
  let caller ← orRefuse context.caller
  needs s.parts.store
  needs s.parts.config
  let some period := period.bind Target.number? | throw Fault.malformedParameter.response
  orRefuse caller.requireAdmin
  return .ok (← s.perform (getReport period)).toJson

def showPayslips (s : Service) (context : Context) : Serve σ Response := do
  let caller ← orRefuse context.caller
  needs s.parts.store
  needs s.parts.config
  orRefuse caller.requireEmployee
  return .ok (.arr ((← s.perform (getPayslips caller.user)).map Payslip.toJson))

def answer (s : Service) (context : Context) (request : Request) : Endpoint → Serve σ Response
  | .ping => s.ping
  | .login => s.login request
  | .openPeriod => s.openPeriod context request
  | .runPayroll => s.startPayroll context request
  | .report period => s.showReport context period
  | .submitAttendance => s.handInAttendance context request
  | .submitOvertime => s.handInOvertime context request
  | .submitReimbursement => s.handInReimbursement context request
  | .payslips => s.showPayslips context

end Service
end Wagebook.Http
