import Wagebook.Http.App
import Wagebook.Proofs.Histories
import Wagebook.Proofs.Sessions
import Wagebook.Proofs.Trail

/-!
Serving requests on a store in memory. Before an endpoint touches the store it has decided what to
do: it refuses, looks something up, or has one command run for its caller. The decision depends on
the caller and the request alone.
-/

namespace Wagebook

/-- The endpoint that has a command run. -/
def Command.endpoint? : Command → Option Http.Endpoint
  | .createPeriod .. => some .openPeriod
  | .submitAttendance .. => some .submitAttendance
  | .submitOvertime .. => some .submitOvertime
  | .submitReimbursement .. => some .submitReimbursement
  | .runPayroll .. => some .runPayroll
  | .recordRequest .. => none

namespace Http

/-- Neither a success nor an answer of the limiter. -/
def Response.IsRefusal (response : Response) : Prop :=
  response.status ≠ 200 ∧ response.status ≠ 429

theorem Fault.isRefusal (fault : Fault) : fault.response.IsRefusal := by
  cases fault with
  | payroll cause => cases cause <;> exact ⟨nofun, nofun⟩
  | _ => exact ⟨nofun, nofun⟩

theorem bearerToken_fault {header : Option String} {fault : Fault}
    (refused : bearerToken header = .error fault) : fault = .tokenMissing ∨ fault = .notBearer := by
  unfold bearerToken at refused
  split at refused
  · cases refused
    exact .inl rfl
  · split at refused <;> cases refused
    exact .inr rfl

/-- Why a caller does not get in. -/
theorem Caller.authenticate_fault {now : Stamp} {secret : String} {header : Option String}
    {fault : Fault} (refused : authenticate now secret header = .error fault) :
    fault = .tokenMissing ∨ fault = .notBearer ∨ fault = .tokenRefused ∨ fault = .roleUnknown := by
  unfold authenticate at refused
  cases bearer : bearerToken header with
  | error cause =>
      rw [bearer] at refused
      cases refused
      exact (bearerToken_fault bearer).imp_right .inl
  | ok token =>
      simp only [bearer, bind, Except.bind] at refused
      split at refused
      · unfold ofClaims at refused
        split at refused <;> cases refused
        exact .inr (.inr (.inr rfl))
      · cases refused
        exact .inr (.inr (.inl rfl))

/-- What the limiter says to those that it does not let through. -/
theorem App.letThrough_refusal {limiter : Limiter} {request : Request} {now : Stamp}
    {refusal : Response} (refused : letThrough limiter request now = .error refusal) :
    request.peer = none ∧ refusal = .peerUnknown ∨ ∃ seconds, refusal = .tooMany seconds := by
  unfold letThrough at refused
  split at refused
  · cases refused
    exact .inl ⟨‹_›, rfl⟩
  · split at refused <;> cases refused
    exact .inr ⟨_, rfl⟩

namespace Serve

section Runs
variable {σ : Type} [Store σ] (shared : Shared σ)

theorem run_bind (serve : Serve σ α) (next : α → Serve σ β) :
    (serve >>= next).run shared =
      match serve.run shared with
      | (.error response, shared) => (.error response, shared)
      | (.ok a, shared) => (next a).run shared := by
  change StateT.run (ExceptT.run (serve >>= next)) shared =
    match StateT.run (ExceptT.run serve) shared with
    | (.error response, shared) => (.error response, shared)
    | (.ok a, shared) => (next a).run shared
  rw [ExceptT.run_bind, StateT.run_bind]
  rcases StateT.run (ExceptT.run serve) shared with ⟨response | a, shared⟩ <;> rfl

theorem run_get : ExceptT.run (get : Serve σ (Shared σ)) shared = (.ok shared, shared) := rfl

theorem run_set (shared' : Shared σ) :
    ExceptT.run (set shared' : Serve σ PUnit) shared = (.ok ⟨⟩, shared') := rfl

theorem run_perform (s : Service) (operation : Operation α) :
    (s.perform operation).run shared =
      ((shared.run s.config.timeoutMs operation).1.mapError fun cause =>
        (Fault.payroll cause).response, (shared.run s.config.timeoutMs operation).2) := by
  change (Service.orRefuse ((shared.run s.config.timeoutMs operation).1.mapError .payroll)).run
    (shared.run s.config.timeoutMs operation).2 = _
  cases (shared.run s.config.timeoutMs operation).1 <;> rfl

end Runs
end Serve

namespace Endpoint

def method : Endpoint → String
  | .ping | .report _ | .payslips => "GET"
  | _ => "POST"

def area : Endpoint → Area
  | .ping => .health
  | .login => .login
  | _ => .guarded

/-- Who an endpoint is for. -/
def role? : Endpoint → Option Role
  | .openPeriod | .runPayroll | .report _ => some .admin
  | .submitAttendance | .submitOvertime | .submitReimbursement | .payslips => some .employee
  | _ => none

theorem method_of_command {command : Command} {endpoint : Endpoint}
    (made : command.endpoint? = some endpoint) : endpoint.method = "POST" := by
  cases command with
  | recordRequest now url method ipAddress => cases made
  | _ =>
      cases made
      rfl

end Endpoint

/-- What an endpoint decides to do for a caller whose request has been logged under an id. It does
not look at the store before, and the id only goes into the command. -/
inductive Decides (s : Service) (caller : Caller) (endpoint : Endpoint) :
    (Nat → Serve Memory Response) → Prop
  | refuse (genuine : refusal.IsRefusal) : Decides s caller endpoint fun _ => throw refusal
  | look {operation : Operation α} (role : endpoint.role? = some caller.role)
      (method : endpoint.method = "GET")
      (idle : ∀ memory : Memory, (operation.run memory).2 = memory) (reply : α → Json) :
      Decides s caller endpoint fun _ =>
        (s.perform operation : Serve Memory α) >>= fun a => pure (.ok (reply a))
  | order (command : Nat → Command) (role : endpoint.role? = some caller.role)
      (made : ∀ id, (command id).endpoint? = some endpoint ∧
        (command id).actor? = some (caller.actor id)) (reply : Nat → Json) :
      Decides s caller endpoint fun id =>
        (s.perform (command id).operation : Serve Memory Nat) >>= fun n => pure (.ok (reply n))

namespace Decides

variable {s : Service} {caller : Caller} {endpoint : Endpoint}

theorem orRefuse {result : Except Fault α} {next : Nat → α → Serve Memory Response}
    (h : ∀ a, result = .ok a → Decides s caller endpoint fun id => next id a) :
    Decides s caller endpoint fun id => Service.orRefuse result >>= next id := by
  cases result with
  | error fault => exact .refuse fault.isRefusal
  | ok a => exact h a rfl

theorem needs {present : Bool} {next : Nat → Unit → Serve Memory Response}
    (h : Decides s caller endpoint fun id => next id ()) :
    Decides s caller endpoint fun id => Service.needs present >>= next id := by
  cases present with
  | false => exact .refuse ⟨nofun, nofun⟩
  | true => exact h

theorem check {c : Prop} [Decidable c] {fault : Fault} {α : Type}
    {next : Nat → α → Serve Memory Response} {go : Nat → Serve Memory Response}
    (h : ¬ c → Decides s caller endpoint go) :
    Decides s caller endpoint fun id =>
      if c then (throw fault.response : Serve Memory α) >>= next id else go id := by
  by_cases broken : c
  · simp only [if_pos broken]
    exact .refuse fault.isRefusal
  · simp only [if_neg broken]
    exact h broken

theorem takeForm {request : Request} {ofJson? : Json → Option α}
    {next : Nat → Caller × Nat × α → Serve Memory Response}
    (h : ∀ form, Decides s caller endpoint fun id => next id (caller, id, form)) :
    Decides s caller endpoint fun id =>
      s.takeForm ⟨some caller, some id⟩ request ofJson? >>= next id := by
  simp only [Service.takeForm, bind_assoc, pure_bind]
  exact .needs (.needs (.orRefuse fun form _ => h form))

theorem requireAdmin (for_admins : endpoint.role? = some .admin)
    {next : Nat → Unit → Serve Memory Response}
    (h : endpoint.role? = some caller.role → Decides s caller endpoint fun id => next id ()) :
    Decides s caller endpoint fun id => Service.orRefuse caller.requireAdmin >>= next id := by
  refine orRefuse fun _ admin => h ?_
  unfold Caller.requireAdmin at admin
  split at admin
  · rename_i role
    rw [for_admins, role]
  · cases admin

theorem requireEmployee (for_employees : endpoint.role? = some .employee)
    {next : Nat → Unit → Serve Memory Response}
    (h : endpoint.role? = some caller.role → Decides s caller endpoint fun id => next id ()) :
    Decides s caller endpoint fun id => Service.orRefuse caller.requireEmployee >>= next id := by
  refine orRefuse fun _ employee => h ?_
  unfold Caller.requireEmployee at employee
  split at employee
  · rename_i role
    rw [for_employees, role]
  · cases employee

end Decides

namespace Service

variable (s : Service) (caller : Caller) (request : Request)

theorem openPeriod_decides : Decides s caller .openPeriod fun id =>
    s.openPeriod ⟨some caller, some id⟩ request := by
  refine .takeForm fun form => ?_
  refine .requireAdmin rfl fun role => ?_
  refine .orRefuse fun first _ => ?_
  refine .orRefuse fun last _ => ?_
  exact .order (fun id => .createPeriod s.occasion.now first last (caller.actor id))
    role (fun _ => ⟨rfl, rfl⟩) _

theorem startPayroll_decides : Decides s caller .runPayroll fun id =>
    s.startPayroll ⟨some caller, some id⟩ request := by
  refine .takeForm fun form => ?_
  refine .requireAdmin rfl fun role => ?_
  exact .order (fun id => .runPayroll s.occasion.now form.period (caller.actor id))
    role (fun _ => ⟨rfl, rfl⟩) _

theorem handInAttendance_decides : Decides s caller .submitAttendance fun id =>
    s.handInAttendance ⟨some caller, some id⟩ request := by
  refine .takeForm fun form => ?_
  refine .requireEmployee rfl fun role => ?_
  refine .orRefuse fun date _ => ?_
  exact .order (fun id => .submitAttendance s.occasion.now (caller.actor id) form.period date)
    role (fun _ => ⟨rfl, rfl⟩) _

theorem handInOvertime_decides : Decides s caller .submitOvertime fun id =>
    s.handInOvertime ⟨some caller, some id⟩ request := by
  refine .takeForm fun form => ?_
  refine .requireEmployee rfl fun role => ?_
  refine .orRefuse fun date _ => ?_
  refine .check fun _ => ?_
  exact .order
    (fun id => .submitOvertime s.occasion.now (caller.actor id) form.period date form.hours)
    role (fun _ => ⟨rfl, rfl⟩) _

theorem handInReimbursement_decides : Decides s caller .submitReimbursement fun id =>
    s.handInReimbursement ⟨some caller, some id⟩ request := by
  refine .takeForm fun form => ?_
  refine .requireEmployee rfl fun role => ?_
  refine .check fun _ => ?_
  exact .order
    (fun id => .submitReimbursement s.occasion.now (caller.actor id) form.period form.amount
      form.description)
    role (fun _ => ⟨rfl, rfl⟩) _

theorem showReport_decides (logged? : Option Nat) (period : Option (List Char)) :
    Decides s caller (.report period) fun _ => s.showReport ⟨some caller, logged?⟩ period := by
  refine .needs (.needs ?_)
  cases period.bind Target.number? with
  | none => exact .refuse (Fault.isRefusal _)
  | some period =>
      refine .requireAdmin rfl fun role => ?_
      exact .look role rfl (Memory.run_reading _) Report.toJson

theorem showPayslips_decides (logged? : Option Nat) :
    Decides s caller .payslips fun _ => s.showPayslips ⟨some caller, logged?⟩ := by
  refine .needs (.needs (.requireEmployee rfl fun role => ?_))
  exact .look role rfl (Memory.run_reading _)
    fun payslips : List Payslip => .arr (payslips.map Payslip.toJson)

/-- What the context of a guarded endpoint holds: its caller, and the log entry of its request
unless that only reads. -/
def inner (endpoint : Endpoint) (caller : Caller) (id : Nat) : Context :=
  ⟨some caller, if endpoint.method = "GET" then none else some id⟩

theorem answer_decides {endpoint : Endpoint} (guarded : endpoint.area = .guarded) :
    Decides s caller endpoint fun id => s.answer (inner endpoint caller id) request endpoint := by
  cases endpoint with
  | ping => cases guarded
  | login => cases guarded
  | openPeriod => exact s.openPeriod_decides caller request
  | runPayroll => exact s.startPayroll_decides caller request
  | report period => exact s.showReport_decides caller none period
  | submitAttendance => exact s.handInAttendance_decides caller request
  | submitOvertime => exact s.handInOvertime_decides caller request
  | submitReimbursement => exact s.handInReimbursement_decides caller request
  | payslips => exact s.showPayslips_decides caller none

end Service

/-- What a request is answered, early or not. -/
def Serve.told : Except Response Response → Response
  | .ok response => response
  | .error response => response

theorem App.serve_run {σ : Type} [Store σ] (app : App σ) (occasion : Occasion) (request : Request)
    (route : Route) :
    let service : Service := { config := app.config, parts := app.parts, occasion }
    app.serve occasion request route =
      (Serve.told ((service.serve request route).run app.shared).1,
        { app with shared := ((service.serve request route).run app.shared).2 }) := by
  unfold serve
  rcases ended : (Service.serve { config := app.config, parts := app.parts, occasion } request
    route).run app.shared with ⟨response | response, shared⟩
  · simp only [ended]
    rfl
  · simp only [ended]
    rfl

/-- What is left behind by an endpoint that is for callers with a token. It leaves the store as it
is, or a command has written for its caller. -/
inductive Outcome (endpoint : Endpoint) (caller : Caller) (id : Nat) (shared : Shared Memory) :
    Response → Shared Memory → Prop
  | kept (unlimited : response.status ≠ 429)
      (idle : response.status = 200 → endpoint.method = "GET") :
      Outcome endpoint caller id shared response shared
  | wrote (role : endpoint.role? = some caller.role) (command : Command)
      (made : command.endpoint? = some endpoint) (actor : command.actor? = some (caller.actor id))
      (writes : Command.Writes shared.store.tables command n t) (reply : Json) :
      Outcome endpoint caller id shared (.ok reply)
        { shared with store := { shared.store with tables := t } }

/-- A command under a deadline fails without a trace, or writes. -/
theorem run_command (command : Command) (limitMs : Nat) (shared : Shared Memory) :
    (∃ cause, shared.run limitMs command.operation = (.error cause, shared)) ∨
      ∃ n t, shared.run limitMs command.operation =
          (.ok n, { shared with store := { shared.store with tables := t } }) ∧
        Command.Writes shared.store.tables command n t := by
  cases checked : command.operation.check with
  | error refusal => exact .inl ⟨refusal, Shared.run_of_refused checked limitMs⟩
  | ok passed =>
      cases held : shared.held with
      | some copy => exact .inl ⟨.timeout, Shared.run_of_held held checked limitMs⟩
      | none =>
          rw [Shared.run_of_free held]
          obtain ⟨cause, failed⟩ | ⟨n, t, done, writes⟩ := command.run_cases shared.store
          · exact .inl ⟨cause, by rw [failed]⟩
          · exact .inr ⟨n, t, by rw [done, held], writes⟩

theorem run_idle {operation : Operation α}
    (idle : ∀ memory : Memory, (operation.run memory).2 = memory) (limitMs : Nat)
    (shared : Shared Memory) : (shared.run limitMs operation).2 = shared := by
  cases checked : operation.check with
  | error refusal => rw [Shared.run_of_refused checked]
  | ok passed =>
      cases held : shared.held with
      | some copy => rw [Shared.run_of_held held checked]
      | none => rw [Shared.run_of_free held, idle]

theorem runUntimed_idle {operation : Operation α}
    (idle : ∀ memory : Memory, (operation.run memory).2 = memory) (shared : Shared Memory) :
    (shared.runUntimed operation).2 = shared := by
  change { shared with store := (operation.run shared.store).2 } = shared
  rw [idle]

theorem Decides.outcome {s : Service} {caller : Caller} {endpoint : Endpoint}
    {serve : Nat → Serve Memory Response} (h : Decides s caller endpoint serve) (id : Nat)
    (shared : Shared Memory) :
    Outcome endpoint caller id shared (Serve.told ((serve id).run shared).1)
      ((serve id).run shared).2 := by
  cases h with
  | refuse genuine => exact .kept genuine.2 fun success => absurd success genuine.1
  | @look α operation role method idle reply =>
      rw [Serve.run_bind, Serve.run_perform]
      have same := run_idle idle s.config.timeoutMs shared
      revert same
      rcases shared.run s.config.timeoutMs operation with ⟨cause | a, shared'⟩
      · rintro rfl
        exact .kept (Fault.isRefusal _).2 fun _ => method
      · rintro rfl
        exact .kept nofun fun _ => method
  | order command role made reply =>
      rw [Serve.run_bind, Serve.run_perform]
      obtain ⟨cause, failed⟩ | ⟨n, t, done, writes⟩ :=
        run_command (command id) s.config.timeoutMs shared
      · rw [failed]
        exact .kept (Fault.isRefusal _).2 fun success => absurd success (Fault.isRefusal _).1
      · rw [done]
        exact .wrote role (command id) (made id).1 (made id).2 writes (reply n)

end Http
end Wagebook
