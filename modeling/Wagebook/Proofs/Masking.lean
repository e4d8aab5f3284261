import Wagebook.Proofs.Failures
import Wagebook.Proofs.Serving

/-!
What clients are told when a call of the store has failed: nothing of what the store says. Every
part of the way of a request through the service comes to the same on a store that tells its
failures in other words, and where one has failed that is no collision the answer is that of an
internal failure.
-/

namespace Wagebook

namespace Http

/-- Of a failure of the store it gives away only that there was one. -/
def Masks (refusal : PayrollError → Response) : Prop :=
  ∀ cause, refusal (.store cause) = Fault.internal.response

theorem masks_payroll : Masks fun cause => (Fault.payroll cause).response := fun _ => rfl

theorem masks_internal : Masks fun _ => Fault.internal.response := fun _ => rfl

section Refusals
variable {refusal : PayrollError → Response} (masks : Masks refusal)
  (conflict? : Option PayrollError)
include masks

theorem refusal_internal {cause : StoreError} (plain : cause.isCollision = false) :
    refusal (.ofStore conflict? cause) = Fault.internal.response := by
  cases cause with
  | uniqueViolation text => cases plain
  | database fault => exact masks _
  | unavailable what => exact masks _

theorem refusal_alike {cause told : StoreError} (alike : told.Alike cause) :
    refusal (.ofStore conflict? told) = refusal (.ofStore conflict? cause) := by
  cases told with
  | uniqueViolation text =>
      cases cause with
      | uniqueViolation text' =>
          cases conflict? with
          | none => exact (masks _).trans (masks _).symm
          | some conflict => rfl
      | _ => cases alike
  | database fault =>
      cases cause with
      | database fault' => exact (masks _).trans (masks _).symm
      | _ => cases alike
  | unavailable what =>
      cases cause with
      | unavailable what' => exact (masks _).trans (masks _).symm
      | _ => cases alike

end Refusals

variable {σ α β : Type} [Store σ]

/-- The session on the store behind. -/
def behind (shared : Shared (Retold σ)) : Shared σ := ⟨shared.store.store, shared.held⟩

/-- The end of a part of the service on a store that retells, beside that on the store behind. At
most one call has failed, and then the part has been refused. -/
structure Veiled (before : Retold σ) (ended : Except Response α × Shared (Retold σ))
    (ended₀ : Except Response α × Shared σ) : Prop where
  result : ended.1 = ended₀.1
  behind : behind ended.2 = ended₀.2
  retelling : ended.2.store.retelling = before.retelling
  failures : ended.2.store.failures = before.failures ∨ ∃ cause refusal,
    ended.2.store.failures = before.failures ++ [cause] ∧ ended.1 = .error refusal ∧
      (cause.isCollision = false → refusal = Fault.internal.response)

theorem Veiled.of_echo {refusal : PayrollError → Response} (masks : Masks refusal) {r : Retold σ}
    {ended : Except PayrollError α × Retold σ} {ended₀ : Except PayrollError α × σ}
    (echo : r.Echo ended ended₀) (held : Option (Store.Held σ)) :
    Veiled r (ended.1.mapError refusal, (⟨ended.2, held⟩ : Shared (Retold σ)))
      (ended₀.1.mapError refusal, ⟨ended₀.2, held⟩) := by
  cases echo with
  | kept result store => exact ⟨rfl, rfl, rfl, .inl rfl⟩
  | failed conflict? cause store =>
      have same := refusal_alike masks conflict? (r.retelling.alike r.failures.length cause)
      refine ⟨congrArg _ same, rfl, rfl, .inr ⟨cause, _, rfl, rfl, fun plain => ?_⟩⟩
      exact same.trans (refusal_internal masks conflict? plain)

theorem veiled_run {operation : Operation α} (candid : operation.work.Candid)
    {refusal : PayrollError → Response} (masks : Masks refusal) (limitMs : Nat)
    (shared : Shared (Retold σ)) :
    Veiled shared.store
      ((shared.run limitMs operation).1.mapError refusal, (shared.run limitMs operation).2)
      (((behind shared).run limitMs operation).1.mapError refusal,
        ((behind shared).run limitMs operation).2) := by
  have echo := Retold.echo_operation candid shared.store
  obtain ⟨r, held⟩ := shared
  unfold Shared.run
  cases operation.check with
  | error cause => exact .of_echo masks echo held
  | ok passed =>
      cases held with
      | some held => exact ⟨rfl, rfl, rfl, .inl rfl⟩
      | none => exact .of_echo masks echo none

theorem veiled_runUntimed {operation : Operation α} (candid : operation.work.Candid)
    {refusal : PayrollError → Response} (masks : Masks refusal) (shared : Shared (Retold σ)) :
    Veiled shared.store
      ((shared.runUntimed operation).1.mapError refusal, (shared.runUntimed operation).2)
      (((behind shared).runUntimed operation).1.mapError refusal,
        ((behind shared).runUntimed operation).2) :=
  .of_echo masks (Retold.echo_operation candid shared.store) shared.held

/-- The same part of the service, on a store that retells and on the store behind. -/
def Echoes (serve : Serve (Retold σ) α) (serve₀ : Serve σ α) : Prop :=
  ∀ shared, Veiled shared.store (serve.run shared) (serve₀.run (behind shared))

namespace Veiled

variable {before : Retold σ} {shared : Shared (Retold σ)} {shared₀ : Shared σ}

theorem refused {refusal : Response}
    (h : Veiled before ((.error refusal : Except Response α), shared) (.error refusal, shared₀)) :
    Veiled before ((.error refusal : Except Response β), shared) (.error refusal, shared₀) := by
  refine ⟨rfl, h.behind, h.retelling, ?_⟩
  obtain unfailed | ⟨cause, response, grown, refused, plain⟩ := h.failures
  · exact .inl unfailed
  · cases refused
    exact .inr ⟨cause, refusal, grown, rfl, plain⟩

/-- What goes on has not failed before. -/
theorem andThen {a : α} (h : Veiled before (.ok a, shared) (.ok a, shared₀))
    {ended : Except Response β × Shared (Retold σ)} {ended₀ : Except Response β × Shared σ}
    (rest : Veiled shared.store ended ended₀) : Veiled before ended ended₀ := by
  have unfailed : shared.store.failures = before.failures :=
    h.failures.resolve_right fun ⟨_, _, _, refused, _⟩ => nomatch refused
  refine ⟨rest.result, rest.behind, rest.retelling.trans h.retelling, ?_⟩
  rw [← unfailed]
  exact rest.failures

theorem internal {ended : Except Response α × Shared (Retold σ)}
    {ended₀ : Except Response α × Shared σ} (h : Veiled before ended ended₀)
    (fresh : before.failures = []) {cause : StoreError} (mem : cause ∈ ended.2.store.failures)
    (plain : cause.isCollision = false) : ended.1 = .error Fault.internal.response := by
  obtain unfailed | ⟨other, refusal, grown, refused, masked⟩ := h.failures
  · rw [unfailed, fresh] at mem
    cases mem
  · rw [grown, fresh] at mem
    obtain rfl := List.mem_singleton.mp mem
    rw [refused, masked plain]

end Veiled

namespace Echoes

/-- What does not touch the store. -/
theorem pure (a : α) : Echoes (Pure.pure a : Serve (Retold σ) α) (Pure.pure a) :=
  fun _ => ⟨rfl, rfl, rfl, .inl rfl⟩

theorem throw (refusal : Response) :
    Echoes (MonadExcept.throw refusal : Serve (Retold σ) α) (MonadExcept.throw refusal) :=
  fun _ => ⟨rfl, rfl, rfl, .inl rfl⟩

theorem bind {serve : Serve (Retold σ) α} {serve₀ : Serve σ α} (first : Echoes serve serve₀)
    {next : α → Serve (Retold σ) β} {next₀ : α → Serve σ β}
    (later : ∀ a, Echoes (next a) (next₀ a)) : Echoes (serve >>= next) (serve₀ >>= next₀) := by
  intro shared
  have begun := first shared
  rw [Serve.run_bind, Serve.run_bind]
  generalize serve.run shared = ended, serve₀.run (behind shared) = ended₀ at begun ⊢
  obtain ⟨result, shared'⟩ := ended
  obtain ⟨result₀, shared₀⟩ := ended₀
  obtain rfl : result = result₀ := begun.result
  cases result with
  | error refusal => exact begun.refused
  | ok a =>
      obtain rfl : behind shared' = shared₀ := begun.behind
      exact begun.andThen (later a shared')

theorem ite {c : Prop} [Decidable c] {a b : Serve (Retold σ) α} {a₀ b₀ : Serve σ α}
    (yes : Echoes a a₀) (no : Echoes b b₀) :
    Echoes (if c then a else b) (if c then a₀ else b₀) := by
  split
  · exact yes
  · exact no

theorem orRefuse (result : Except Fault α) :
    Echoes (Service.orRefuse result : Serve (Retold σ) α) (Service.orRefuse result) := by
  cases result with
  | error fault => exact throw fault.response
  | ok a => exact pure a

theorem needs (present : Bool) :
    Echoes (Service.needs present : Serve (Retold σ) Unit) (Service.needs present) := by
  cases present with
  | false => exact throw .partMissing
  | true => exact pure ()

/-- An operation whose failures are answered as internal ones, whatever they are. -/
theorem lookUp {operation : Operation α} (candid : operation.work.Candid)
    (next : Except PayrollError α → Serve (Retold σ) β) (next₀ : Except PayrollError α → Serve σ β)
    (failed : ∀ cause, next (.error cause) = MonadExcept.throw Fault.internal.response)
    (failed₀ : ∀ cause, next₀ (.error cause) = MonadExcept.throw Fault.internal.response)
    (later : ∀ a, Echoes (next (.ok a)) (next₀ (.ok a))) :
    Echoes
      (do let (result, shared) := (← get).runUntimed operation
          set shared
          next result)
      (do let (result, shared) := (← get).runUntimed operation
          set shared
          next₀ result) := by
  intro shared
  have ran := veiled_runUntimed candid masks_internal shared
  change Veiled shared.store ((next (shared.runUntimed operation).1).run
      (shared.runUntimed operation).2)
    ((next₀ ((behind shared).runUntimed operation).1).run
      ((behind shared).runUntimed operation).2)
  generalize shared.runUntimed operation = ended,
    (behind shared).runUntimed operation = ended₀ at ran ⊢
  obtain ⟨result, shared'⟩ := ended
  obtain ⟨result₀, shared₀⟩ := ended₀
  obtain rfl : behind shared' = shared₀ := ran.behind
  have same := ran.result
  cases result with
  | error cause =>
      cases result₀ with
      | error cause₀ =>
          rw [failed, failed₀]
          exact ran.refused
      | ok a => cases same
  | ok a =>
      cases result₀ with
      | error cause₀ => cases same
      | ok a₀ =>
          cases same
          exact ran.andThen (later a shared')

theorem perform (s : Service) {operation : Operation α} (candid : operation.work.Candid) :
    Echoes (s.perform operation : Serve (Retold σ) α) (s.perform operation) := by
  intro shared
  rw [Serve.run_perform, Serve.run_perform]
  exact veiled_run candid masks_payroll s.config.timeoutMs shared

end Echoes

namespace Service

section Endpoints
variable (s : Service) (context : Context) (request : Request)

theorem ping_echoes : Echoes (s.ping : Serve (Retold σ) Response) s.ping := by
  refine .bind (.needs _) fun _ shared => ?_
  obtain ⟨r, held⟩ := shared
  simp only [Serve.run_bind, Serve.run_get, Serve.run_set, Shared.ping, behind, Retold.ping_eq]
  rcases Store.ping r.store with ⟨cause | answered, store⟩
  · exact ⟨rfl, rfl, rfl, .inr ⟨cause, _, rfl, rfl, fun _ => rfl⟩⟩
  · exact ⟨rfl, rfl, rfl, .inl rfl⟩

/-- How a login goes on when its user has been looked up. -/
def loginEnd (s : Service) (form : LoginForm) :
    Except PayrollError (Option User) → Serve σ Response
  | .error _ => throw Fault.internal.response
  | .ok none => throw Fault.wrongCredentials.response
  | .ok (some user) => do
    if Password.matches? form.password user.passwordHash ≠ some true then
      throw Fault.wrongCredentials.response
    let token := Token.issue s.occasion.now s.occasion.freshId user.id user.username
      (Role.ofIsAdmin user.isAdmin) s.config.secret s.config.tokenSeconds
    return .ok (.record ["token"] [.str token])

theorem login_echoes : Echoes (s.login request : Serve (Retold σ) Response) (s.login request) := by
  refine .bind (.orRefuse _) fun form => .bind (.needs _) fun _ => .bind (.needs _) fun _ =>
    .ite (.throw _) ?_
  have candid : (findUser form.username).work.Candid := .asked _
  refine .lookUp candid (s.loginEnd form) (s.loginEnd form) (fun _ => rfl) (fun _ => rfl)
    fun user? => ?_
  cases user? with
  | none => exact .throw _
  | some user => exact .ite (.throw _) (.pure _)

theorem takeForm_echoes (ofJson? : Json → Option α) :
    Echoes (s.takeForm context request ofJson? : Serve (Retold σ) (Caller × Nat × α))
      (s.takeForm context request ofJson?) :=
  .bind (.orRefuse _) fun _ => .bind (.orRefuse _) fun _ => .bind (.needs _) fun _ =>
    .bind (.needs _) fun _ => .bind (.orRefuse _) fun _ => .pure _

theorem openPeriod_echoes :
    Echoes (s.openPeriod context request : Serve (Retold σ) Response)
      (s.openPeriod context request) :=
  .bind (s.takeForm_echoes context request _) fun _ => .bind (.orRefuse _) fun _ =>
    .bind (.orRefuse _) fun _ => .bind (.orRefuse _) fun _ =>
      .bind (.perform s (createPeriod_candid _ _ _ _)) fun _ => .pure _

theorem startPayroll_echoes :
    Echoes (s.startPayroll context request : Serve (Retold σ) Response)
      (s.startPayroll context request) :=
  .bind (s.takeForm_echoes context request _) fun _ => .bind (.orRefuse _) fun _ =>
    .bind (.perform s (runPayroll_candid _ _ _)) fun _ => .pure _

theorem handInAttendance_echoes :
    Echoes (s.handInAttendance context request : Serve (Retold σ) Response)
      (s.handInAttendance context request) :=
  .bind (s.takeForm_echoes context request _) fun _ => .bind (.orRefuse _) fun _ =>
    .bind (.orRefuse _) fun _ =>
      .bind (.perform s (submitAttendance_candid _ _ _ _)) fun _ => .pure _

theorem handInOvertime_echoes :
    Echoes (s.handInOvertime context request : Serve (Retold σ) Response)
      (s.handInOvertime context request) := by
  refine .bind (s.takeForm_echoes context request _) fun _ => .bind (.orRefuse _) fun _ =>
    .bind (.orRefuse _) fun _ => .ite (.throw _) ?_
  exact .bind (.perform s (submitOvertime_candid _ _ _ _ _)) fun _ => .pure _

theorem handInReimbursement_echoes :
    Echoes (s.handInReimbursement context request : Serve (Retold σ) Response)
      (s.handInReimbursement context request) := by
  refine .bind (s.takeForm_echoes context request _) fun _ => .bind (.orRefuse _) fun _ =>
    .ite (.throw _) ?_
  exact .bind (.perform s (submitReimbursement_candid _ _ _ _ _)) fun _ => .pure _

theorem showReport_echoes (period : Option (List Char)) :
    Echoes (s.showReport context period : Serve (Retold σ) Response)
      (s.showReport context period) := by
  refine .bind (.orRefuse _) fun _ => .bind (.needs _) fun _ => .bind (.needs _) fun _ => ?_
  cases period.bind Target.number? with
  | none => exact .throw _
  | some period =>
      exact .bind (.orRefuse _) fun _ => .bind (.perform s (.asked _)) fun _ => .pure _

theorem showPayslips_echoes :
    Echoes (s.showPayslips context : Serve (Retold σ) Response) (s.showPayslips context) :=
  .bind (.orRefuse _) fun _ => .bind (.needs _) fun _ => .bind (.needs _) fun _ =>
    .bind (.orRefuse _) fun _ => .bind (.perform s (.asked _)) fun _ => .pure _

theorem answer_echoes (endpoint : Endpoint) :
    Echoes (s.answer context request endpoint : Serve (Retold σ) Response)
      (s.answer context request endpoint) := by
  cases endpoint with
  | ping => exact s.ping_echoes
  | login => exact s.login_echoes request
  | openPeriod => exact s.openPeriod_echoes context request
  | runPayroll => exact s.startPayroll_echoes context request
  | report period => exact s.showReport_echoes context period
  | submitAttendance => exact s.handInAttendance_echoes context request
  | submitOvertime => exact s.handInOvertime_echoes context request
  | submitReimbursement => exact s.handInReimbursement_echoes context request
  | payslips => exact s.showPayslips_echoes context

end Endpoints

section Ways
variable (s : Service) (request : Request) {next : Context → Serve (Retold σ) Response}
  {next₀ : Context → Serve σ Response} (later : ∀ context, Echoes (next context) (next₀ context))
include later

theorem logFirst_echoes (context : Context) :
    Echoes (s.logFirst request next context) (s.logFirst request next₀ context) := by
  unfold logFirst
  refine .ite (later context) (.ite (.throw _) ?_)
  exact .bind (.perform s (.asked _)) fun _ => later _

theorem authenticateFirst_echoes (context : Context) :
    Echoes (s.authenticateFirst request next context)
      (s.authenticateFirst request next₀ context) := by
  unfold authenticateFirst
  exact .ite (.throw _) (.bind (.orRefuse _) fun _ => later _)

end Ways

theorem serve_echoes (s : Service) (request : Request) (route : Route) :
    Echoes (s.serve request route : Serve (Retold σ) Response) (s.serve request route) := by
  obtain ⟨area, endpoint?⟩ := route
  cases endpoint? with
  | none =>
      cases area with
      | health => exact .pure Response.methodNotAllowed
      | login => exact s.logFirst_echoes request (fun _ => .pure Response.methodNotAllowed) {}
      | guarded =>
          refine s.logFirst_echoes request ?_ {}
          exact s.authenticateFirst_echoes request fun _ => .pure Response.notFound
  | some endpoint =>
      have answered (context : Context) : Echoes (s.answer context request endpoint :
          Serve (Retold σ) Response) (s.answer context request endpoint) :=
        s.answer_echoes context request endpoint
      cases area with
      | health => exact answered {}
      | login => exact s.logFirst_echoes request answered {}
      | guarded =>
          exact s.logFirst_echoes request (s.authenticateFirst_echoes request answered) {}

end Service

namespace App

/-- The service on a store that tells its failures in other words. -/
def retold (app : App σ) (retelling : Retelling) : App (Retold σ) :=
  { app with shared := ⟨{ store := app.shared.store, retelling }, app.shared.held⟩ }

/-- A request has the same answer and leaves the same store behind. If the store has failed in
anything but a collision, the answer is that of an internal failure. -/
structure Masked (ended : Response × App (Retold σ)) (ended₀ : Response × App σ) : Prop where
  response : ended.1 = ended₀.1
  behind : behind ended.2.shared = ended₀.2.shared
  failures : ∀ cause ∈ ended.2.shared.store.failures, cause.isCollision = false →
    ended.1 = ⟨500, .json (envelope false "internal server error" .null)⟩

theorem masked_serve (app : App σ) (retelling : Retelling) (occasion : Occasion)
    (request : Request) (route : Route) :
    Masked ((app.retold retelling).serve occasion request route)
      (app.serve occasion request route) := by
  let service : Service := ⟨app.config, app.parts, occasion⟩
  have veiled := service.serve_echoes request route (app.retold retelling).shared
  rw [serve_run, serve_run]
  exact ⟨congrArg Serve.told veiled.result, veiled.behind, fun cause mem plain =>
    congrArg Serve.told (veiled.internal rfl mem plain)⟩

/-- What a store says of a failure never reaches a client, in no session and at no call. -/
theorem store_failures_are_masked (app : App σ) (retelling : Retelling) (occasion : Occasion)
    (request : Request) :
    Masked ((app.retold retelling).handle occasion request) (app.handle occasion request) := by
  have kept (response : Response) : Masked (response, app.retold retelling) (response, app) :=
    ⟨rfl, rfl, List.forall_mem_nil _⟩
  simp only [handle, retold]
  cases (SharedPath.read? app.config.sharedPath).bind fun shared =>
    Route.of? shared request.method request.target.routed with
  | none => exact kept .notFound
  | some route =>
      obtain ⟨area, endpoint?⟩ := route
      cases area with
      | health => exact app.masked_serve retelling occasion request _
      | login =>
          simp only
          cases letThrough app.logins request occasion.now with
          | error refusal => exact kept refusal
          | ok logins =>
              exact { app with logins }.masked_serve retelling occasion request _
      | guarded =>
          simp only
          cases letThrough app.guarded request occasion.now with
          | error refusal => exact kept refusal
          | ok guarded =>
              exact { app with guarded }.masked_serve retelling occasion request _

/-- A service that cannot log requests says nothing of its request log. -/
example :
    let offline : App Memory := { config := {}, shared.store.switches.requestLogFails := true }
    let login : Request := ⟨"POST", .read "/v1/login", [], [], some (.v4 [10, 0, 0, 1])⟩
    let same : Retelling := ⟨fun _ cause => cause, fun _ => StoreError.alike_refl⟩
    let (response, app) := (offline.retold same).handle ⟨.epoch, ""⟩ login
    app.shared.store.failures = [.unavailable "request log offline"] ∧ response.status = 500 := by
  decide +kernel

end App

end Http
end Wagebook
