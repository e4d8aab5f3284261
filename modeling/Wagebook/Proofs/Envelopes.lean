import Wagebook.Proofs.Lookups
import Wagebook.Proofs.Serving

/-!
Answers in envelopes. Whatever the store, the service behind its limiters answers every request of a
declared endpoint with an envelope: every failure that an operation can end in has words of its own,
and every part of the way of a request tells its refusals in an envelope. What stops a request
before the service is the exception: the limiter answers in plain text, and so does a service that
has been set up without one of its parts.
-/

namespace Wagebook

/-- Failures that say something. -/
def PayrollError.IsWorded : PayrollError → Prop
  | .invalid (.other text) => text ≠ ""
  | _ => True

instance : DecidablePred PayrollError.IsWorded
  | .invalid (.other text) => inferInstanceAs (Decidable (text ≠ ""))
  | .invalid .startNotBeforeEnd | .invalid .hoursOutOfRange | .invalid .amountNotPositive
  | .invalid .noWorkingDays | .invalid (.amountTooLarge _) | .notFound _ | .outOfWindow ..
  | .alreadyExists _ | .attendanceMissing | .alreadyProcessed _ | .store _ | .unserializable
  | .timeout => inferInstanceAs (Decidable True)

theorem append_ne_empty {s t : String} (some : s ≠ "" ∨ t ≠ "") : s ++ t ≠ "" := by
  rw [Ne, String.append_eq_empty_iff]
  rcases some with some | some
  · exact fun none => some none.1
  · exact fun none => some none.2

theorem Violation.message_ne_empty {violation : Violation}
    (worded : (PayrollError.invalid violation).IsWorded) : violation.message ≠ "" := by
  cases violation with
  | amountTooLarge user =>
      have prose : "payslip amount out of range for employee " ≠ "" := by decide
      exact append_ne_empty (.inl prose)
  | other text => exact worded
  | _ => decide

theorem PayrollError.message_ne_empty {cause : PayrollError} (worded : cause.IsWorded) :
    cause.message ≠ "" := by
  cases cause with
  | invalid violation => exact Violation.message_ne_empty worded
  | notFound what =>
      have prose : " not found" ≠ "" := by decide
      exact append_ne_empty (.inr prose)
  | outOfWindow first last =>
      have prose : "date must be between " ≠ "" := by decide
      exact append_ne_empty (.inl (append_ne_empty (.inl (append_ne_empty (.inl prose)))))
  | alreadyExists what =>
      have prose : " already exists" ≠ "" := by decide
      exact append_ne_empty (.inr prose)
  | alreadyProcessed period =>
      have prose : "payroll already generated" ≠ "" := by decide
      exact prose
  | store failure =>
      have prose : "storage failure" ≠ "" := by decide
      exact prose
  | _ => decide

/-- Work whose failures all say something, whatever it is replied. -/
inductive Work.Worded : Work (Except PayrollError α) → Prop
  | done {result : Except PayrollError α}
      (worded : ∀ cause, result = .error cause → cause.IsWorded) : Worded (.done result)
  | ask {call : Call} {next : Except StoreError call.Reply → Work (Except PayrollError α)}
      (later : ∀ reply, Worded (next reply)) : Worded (.ask call next)

namespace Work.Worded

theorem run {work : Work (Except PayrollError α)} (worded : work.Worded)
    (answer : (call : Call) → σ → Except StoreError call.Reply × σ) (s : σ) {cause : PayrollError}
    (failed : (work.run answer s).1 = .error cause) : cause.IsWorded := by
  induction worded generalizing s with
  | done worded => exact worded cause failed
  | ask later ih => exact ih _ _ failed

theorem pure (a : α) : Worded (Pure.pure a : Step α) := by
  change Worded (.done (.ok a))
  exact .done fun _ same => nomatch same

theorem throw {cause : PayrollError} (worded : cause.IsWorded := by trivial) :
    Worded (MonadExcept.throw cause : Step α) := by
  change Worded (.done (.error cause))
  exact .done fun _ same => Except.error.inj same ▸ worded

theorem bind {step : Step α} (first : Worded step) {next : α → Step β}
    (later : ∀ a, Worded (next a)) : Worded (step >>= next : Step β) := by
  change Worded (Work.bind step (ExceptT.bindCont next))
  induction first with
  | @done result worded =>
      cases result with
      | error cause => exact .done fun _ same => Except.error.inj same ▸ worded cause rfl
      | ok a => exact later a
  | ask _ ih => exact .ask ih

theorem asked (call : Call) : Worded (Step.ask call) := by
  refine .ask fun reply => .done fun cause same => ?_
  cases reply with
  | error _ =>
      cases same
      exact trivial
  | ok _ => cases same

theorem askedUnless {conflict : PayrollError} (call : Call)
    (worded : conflict.IsWorded := by trivial) : Worded (Step.askUnless conflict call) := by
  refine .ask fun reply => .done fun cause same => ?_
  cases reply with
  | error failure =>
      cases failure <;> cases same
      · exact worded
      · exact trivial
      · exact trivial
  | ok _ => cases same

theorem check {c : Prop} [Decidable c] {cause : PayrollError} {next : α → Step β}
    {step : Step β} (rest : Worded step) (worded : cause.IsWorded := by trivial) :
    Worded (if c then (MonadExcept.throw cause : Step α) >>= next else step : Step β) := by
  split
  · exact throw worded
  · exact rest

end Work.Worded

/-- An operation whose failures all say something. -/
structure Operation.Worded (operation : Operation α) : Prop where
  check : ∀ cause, operation.check = .error cause → cause.IsWorded
  work : operation.work.Worded

namespace Operation.Worded

theorem of_step {operation : Operation α} (unchecked : operation.check = .ok ())
    (work : operation.work.Worded) : operation.Worded where
  check cause refused := by
    rw [unchecked] at refused
    cases refused
  work := work

variable {σ : Type} [Store σ]

theorem close {commits : Bool} {result : Except PayrollError α} {unit : σ × Store.Held σ}
    (worded : ∀ cause, result = .error cause → cause.IsWorded) {cause : PayrollError}
    (failed : (Operation.close commits result unit).1 = .error cause) : cause.IsWorded := by
  cases result with
  | error other => exact worded cause failed
  | ok a =>
      cases commits with
      | false => cases failed
      | true =>
          simp only [Operation.close, if_true] at failed
          split at failed
          · cases failed
            exact trivial
          · cases failed

theorem run {operation : Operation α} (worded : operation.Worded) (store : σ)
    {cause : PayrollError} (failed : (operation.run store).1 = .error cause) :
    cause.IsWorded := by
  unfold Operation.run at failed
  split at failed
  · rename_i refused
    cases failed
    exact worded.check _ refused
  · split at failed
    · cases failed
      exact trivial
    · exact close (fun _ => worded.work.run Store.answer _) failed

theorem shared_run {operation : Operation α} (worded : operation.Worded) (shared : Shared σ)
    (limitMs : Nat) {cause : PayrollError}
    (failed : (shared.run limitMs operation).1 = .error cause) : cause.IsWorded := by
  unfold Shared.run at failed
  split at failed
  · cases failed
    exact trivial
  · simp only [Course.within, Nat.zero_le, if_true] at failed
    exact worded.run shared.store failed

section Operations
variable (now : Stamp) (actor : Actor)

theorem createPeriod (first last : Date) : (createPeriod now first last actor).Worded where
  check cause refused := by
    simp only [Wagebook.createPeriod] at refused
    split at refused
    · cases refused
    · cases refused
      exact trivial
  work := .bind (.asked _) fun _ => .bind (.asked _) fun _ => .pure _

theorem submitAttendance (period : Nat) (date : Date) :
    (submitAttendance now actor period date).Worded := by
  refine .of_step rfl (.bind (.asked _) fun _ => .check (.bind (.asked _) fun known => ?_))
  cases known with
  | none => exact .throw
  | some window =>
      exact .check (.bind (.askedUnless _) fun _ => .bind (.asked _) fun _ =>
        .pure _)

theorem submitOvertime (period : Nat) (date : Date) (hours : Int) :
    (submitOvertime now actor period date hours).Worded := by
  refine .of_step rfl (.bind (.asked _) fun _ => .check (.bind (.asked _) fun _ =>
    .check (.bind (.asked _) fun _ => .check (.check ?_))))
  exact .bind (.askedUnless _) fun _ => .bind (.asked _) fun _ => .pure _

theorem submitReimbursement (period : Nat) (amount : Int) (description : String) :
    (submitReimbursement now actor period amount description).Worded := by
  refine .of_step rfl (.bind (.asked _) fun _ => .check (.check ?_))
  exact .bind (.asked _) fun _ => .bind (.asked _) fun _ => .pure _

theorem runPayroll (period : Nat) : (runPayroll now period actor).Worded := by
  refine .of_step rfl (.bind (.asked _) fun held => .bind (.asked _) fun paid =>
    .check ?_)
  cases held with
  | none => exact .throw
  | some window =>
      refine .check (.bind (.asked _) fun tallies => .bind ?_ fun _ =>
        .bind (.askedUnless _) fun _ => .bind (.asked _) fun _ => .pure _)
      rw [Step.mapM_lift]
      refine .done fun cause computed => ?_
      obtain ⟨tally, -, failed⟩ := exists_of_mapM_error computed
      rw [(Payslip.of_compute_error failed).1]
      exact trivial

end Operations
end Operation.Worded

namespace Http

/-- An object of whether it is a success, what is wrong and what is asked for: a success has status
200 and nothing wrong, and a failure has something wrong and no data. -/
def Response.Enveloped (response : Response) : Prop :=
  ∃ success error data,
    response.body =
        .json (.obj [("success", .bool success), ("error", .str error), ("data", data)]) ∧
      (success = true ↔ response.status = 200) ∧ (error = "" ↔ success = true) ∧
      (success = false → data = .null)

theorem Response.enveloped_ok (data : Json) : (Response.ok data).Enveloped :=
  ⟨true, "", data, rfl, by simp [ok], by simp, nofun⟩

theorem Response.Enveloped.contentType {response : Response} (enveloped : response.Enveloped) :
    response.body.contentType = some "application/json" := by
  obtain ⟨success, error, data, body, -⟩ := enveloped
  rw [body]
  rfl

namespace Fault

/-- Faults that say something. -/
def IsWorded : Fault → Prop
  | .payroll cause => cause.IsWorded
  | .badRequest text => text ≠ ""
  | .unauthorized text => text ≠ ""
  | .forbidden text => text ≠ ""
  | .internal => True

instance : DecidablePred IsWorded
  | .payroll cause => inferInstanceAs (Decidable cause.IsWorded)
  | .badRequest text | .unauthorized text | .forbidden text =>
      inferInstanceAs (Decidable (text ≠ ""))
  | .internal => inferInstanceAs (Decidable True)

theorem malformedField_isWorded (name : String) : (malformedField name).IsWorded := by
  have prose : "invalid input " ≠ "" := by decide
  exact append_ne_empty (.inl prose)

theorem text_ne_empty {fault : Fault} (worded : fault.IsWorded) : fault.text ≠ "" := by
  cases fault with
  | payroll cause => exact PayrollError.message_ne_empty worded
  | internal => simp [text]
  | _ => exact worded

theorem enveloped {fault : Fault} (worded : fault.IsWorded) : fault.response.Enveloped := by
  have refusal := fault.isRefusal.1
  have said : fault.message ≠ "" := by
    unfold message
    split
    · simp [text]
    · exact text_ne_empty worded
  exact ⟨false, fault.message, .null, rfl, by simpa using refusal, by simpa using said,
    fun _ => rfl⟩

end Fault

/-- What a service with these parts answers: an envelope, unless a part is missing. -/
def Parts.Answers (parts : Parts) (response : Response) : Prop :=
  response.Enveloped ∨ ¬ (parts.store = true ∧ parts.config = true) ∧ response = .partMissing

theorem Parts.Answers.fault {parts : Parts} {fault : Fault} (worded : fault.IsWorded) :
    parts.Answers fault.response :=
  .inl (Fault.enveloped worded)

variable {σ α β : Type} [Store σ]

/-- A part of the service that refuses in an answer of these parts, or goes on with what holds. -/
def Serve.Yields (parts : Parts) (serve : Serve σ α) (holds : α → Prop) : Prop :=
  ∀ shared, match (serve.run shared).1 with
    | .error refusal => parts.Answers refusal
    | .ok a => holds a

namespace Serve.Yields

variable {parts : Parts} {holds : α → Prop} {holds' : β → Prop}

theorem pure {a : α} (h : holds a) : Yields parts (Pure.pure a : Serve σ α) holds := fun _ => h

theorem throw {refusal : Response} (h : parts.Answers refusal) :
    Yields parts (MonadExcept.throw refusal : Serve σ α) holds := fun _ => h

theorem bind {serve : Serve σ α} {next : α → Serve σ β} (first : Yields parts serve holds)
    (later : ∀ a, holds a → Yields parts (next a) holds') :
    Yields parts (serve >>= next) holds' := by
  intro shared
  have begun := first shared
  rw [Serve.run_bind]
  revert begun
  rcases serve.run shared with ⟨refusal | a, shared'⟩
  · exact id
  · exact fun begun => later a begun shared'

theorem ite {c : Prop} [Decidable c] {yes no : Serve σ α} (h : c → Yields parts yes holds)
    (h' : ¬ c → Yields parts no holds) : Yields parts (if c then yes else no) holds := by
  split
  · exact h ‹_›
  · exact h' ‹_›

theorem get : Yields parts (MonadState.get : Serve σ (Shared σ)) fun _ => True :=
  fun _ => trivial

theorem set (shared : Shared σ) :
    Yields parts (MonadStateOf.set shared : Serve σ PUnit) fun _ => True :=
  fun _ => trivial

theorem orRefuse {result : Except Fault α}
    (worded : ∀ fault, result = .error fault → fault.IsWorded) :
    Yields parts (Service.orRefuse result : Serve σ α) fun _ => True := by
  cases result with
  | error fault => exact throw (.fault (worded fault rfl))
  | ok a => exact pure trivial

theorem perform (s : Service) {operation : Operation α} (worded : operation.Worded) :
    Yields parts (s.perform operation : Serve σ α) fun _ => True := by
  intro shared
  rw [Serve.run_perform]
  cases ran : (shared.run s.config.timeoutMs operation).1 with
  | error cause =>
      have told : (Fault.payroll cause).IsWorded := worded.shared_run shared _ ran
      exact .fault told
  | ok a => exact trivial

end Serve.Yields

namespace Service

variable (s : Service) (context : Context) (request : Request)

theorem needs_yields {present : Bool} (missing : present = false →
    ¬ (s.parts.store = true ∧ s.parts.config = true)) :
    (Service.needs present : Serve σ Unit).Yields s.parts fun _ => True := by
  cases present with
  | false => exact .throw (.inr ⟨missing rfl, rfl⟩)
  | true => exact .pure trivial

theorem needs_store_yields : (Service.needs s.parts.store : Serve σ Unit).Yields s.parts
    fun _ => True :=
  s.needs_yields fun missing => by simp [missing]

theorem needs_config_yields : (Service.needs s.parts.config : Serve σ Unit).Yields s.parts
    fun _ => True :=
  s.needs_yields fun missing => by simp [missing]

theorem ping_yields : (s.ping : Serve σ Response).Yields s.parts s.parts.Answers := by
  refine .bind s.needs_store_yields fun _ _ => .bind .get fun shared _ => ?_
  rcases shared.ping with ⟨failed | answered, shared'⟩
  · exact .bind (.set _) fun _ _ => .throw (.fault trivial)
  · exact .bind (.set _) fun _ _ => .pure (.inl (Response.enveloped_ok _))

theorem json?_worded {decoders : Decoders} {ofJson? : Json → Option α} {fault : Fault}
    (refused : request.json? decoders ofJson? = .error fault) : fault.IsWorded := by
  unfold Request.json? at refused
  split at refused
  · split at refused
    · cases refused
    · cases refused
      decide
  · cases refused
    decide

theorem login_yields : (s.login request : Serve σ Response).Yields s.parts s.parts.Answers := by
  refine .bind (.orRefuse fun _ => json?_worded request) fun form _ =>
    .bind s.needs_store_yields fun _ _ => .bind s.needs_config_yields fun _ _ => ?_
  refine .ite (fun _ => .throw (.fault (by decide))) fun _ => .bind .get fun shared _ => ?_
  rcases shared.runUntimed (findUser form.username) with ⟨cause | user?, shared'⟩
  · exact .bind (.set _) fun _ _ => .throw (.fault trivial)
  · refine .bind (.set _) fun _ _ => ?_
    cases user? with
    | none => exact .throw (.fault (by decide))
    | some user =>
        exact .ite (fun _ => .throw (.fault (by decide))) fun _ =>
          .pure (.inl (Response.enveloped_ok _))

theorem caller_worded {fault : Fault} (refused : context.caller = .error fault) :
    fault.IsWorded := by
  unfold Context.caller at refused
  split at refused <;> cases refused
  exact trivial

theorem logged_worded {fault : Fault} (refused : context.logged = .error fault) :
    fault.IsWorded := by
  unfold Context.logged at refused
  split at refused <;> cases refused
  exact trivial

theorem requireAdmin_worded {caller : Caller} {fault : Fault}
    (refused : caller.requireAdmin = .error fault) : fault.IsWorded := by
  unfold Caller.requireAdmin at refused
  split at refused <;> cases refused
  decide

theorem requireEmployee_worded {caller : Caller} {fault : Fault}
    (refused : caller.requireEmployee = .error fault) : fault.IsWorded := by
  unfold Caller.requireEmployee at refused
  split at refused <;> cases refused
  decide

theorem dateField_worded {name text : String} {fault : Fault}
    (refused : dateField name text = .error fault) : fault.IsWorded := by
  unfold dateField at refused
  split at refused <;> cases refused
  exact Fault.malformedField_isWorded name

theorem takeForm_yields (ofJson? : Json → Option α) :
    (s.takeForm context request ofJson? : Serve σ (Caller × Nat × α)).Yields s.parts
      fun _ => True :=
  .bind (.orRefuse fun _ => caller_worded context) fun _ _ =>
    .bind (.orRefuse fun _ => logged_worded context) fun _ _ =>
      .bind s.needs_store_yields fun _ _ => .bind s.needs_config_yields fun _ _ =>
        .bind (.orRefuse fun _ => json?_worded request) fun _ _ => .pure trivial

theorem openPeriod_yields :
    (s.openPeriod context request : Serve σ Response).Yields s.parts s.parts.Answers :=
  .bind (s.takeForm_yields context request _) fun _ _ =>
    .bind (.orRefuse fun _ => requireAdmin_worded) fun _ _ =>
      .bind (.orRefuse fun _ => dateField_worded) fun _ _ =>
        .bind (.orRefuse fun _ => dateField_worded) fun _ _ =>
          .bind (.perform s (.createPeriod _ _ _ _)) fun _ _ =>
            .pure (.inl (Response.enveloped_ok _))

theorem startPayroll_yields :
    (s.startPayroll context request : Serve σ Response).Yields s.parts s.parts.Answers :=
  .bind (s.takeForm_yields context request _) fun _ _ =>
    .bind (.orRefuse fun _ => requireAdmin_worded) fun _ _ =>
      .bind (.perform s (.runPayroll _ _ _)) fun _ _ => .pure (.inl (Response.enveloped_ok _))

theorem handInAttendance_yields :
    (s.handInAttendance context request : Serve σ Response).Yields s.parts s.parts.Answers :=
  .bind (s.takeForm_yields context request _) fun _ _ =>
    .bind (.orRefuse fun _ => requireEmployee_worded) fun _ _ =>
      .bind (.orRefuse fun _ => dateField_worded) fun _ _ =>
        .bind (.perform s (.submitAttendance _ _ _ _)) fun _ _ =>
          .pure (.inl (Response.enveloped_ok _))

theorem handInOvertime_yields :
    (s.handInOvertime context request : Serve σ Response).Yields s.parts s.parts.Answers := by
  refine .bind (s.takeForm_yields context request _) fun _ _ =>
    .bind (.orRefuse fun _ => requireEmployee_worded) fun _ _ =>
      .bind (.orRefuse fun _ => dateField_worded) fun _ _ =>
        .ite (fun _ => .throw (.fault (by decide))) fun _ => ?_
  exact .bind (.perform s (.submitOvertime _ _ _ _ _)) fun _ _ =>
    .pure (.inl (Response.enveloped_ok _))

theorem handInReimbursement_yields :
    (s.handInReimbursement context request : Serve σ Response).Yields s.parts
      s.parts.Answers := by
  refine .bind (s.takeForm_yields context request _) fun _ _ =>
    .bind (.orRefuse fun _ => requireEmployee_worded) fun _ _ =>
      .ite (fun _ => .throw (.fault (by decide))) fun _ => ?_
  exact .bind (.perform s (.submitReimbursement _ _ _ _ _)) fun _ _ =>
    .pure (.inl (Response.enveloped_ok _))

theorem showReport_yields (period : Option (List Char)) :
    (s.showReport context period : Serve σ Response).Yields s.parts s.parts.Answers := by
  refine .bind (.orRefuse fun _ => caller_worded context) fun _ _ =>
    .bind s.needs_store_yields fun _ _ => .bind s.needs_config_yields fun _ _ => ?_
  cases period.bind Target.number? with
  | none => exact .throw (.fault (by decide))
  | some period =>
      exact .bind (.orRefuse fun _ => requireAdmin_worded) fun _ _ =>
        .bind (.perform s (.of_step rfl (.asked _))) fun _ _ =>
          .pure (.inl (Response.enveloped_ok _))

theorem showPayslips_yields :
    (s.showPayslips context : Serve σ Response).Yields s.parts s.parts.Answers :=
  .bind (.orRefuse fun _ => caller_worded context) fun _ _ =>
    .bind s.needs_store_yields fun _ _ => .bind s.needs_config_yields fun _ _ =>
      .bind (.orRefuse fun _ => requireEmployee_worded) fun _ _ =>
        .bind (.perform s (.of_step rfl (.asked _))) fun _ _ =>
          .pure (.inl (Response.enveloped_ok _))

theorem answer_yields (endpoint : Endpoint) :
    (s.answer context request endpoint : Serve σ Response).Yields s.parts s.parts.Answers := by
  cases endpoint with
  | ping => exact s.ping_yields
  | login => exact s.login_yields request
  | openPeriod => exact s.openPeriod_yields context request
  | runPayroll => exact s.startPayroll_yields context request
  | report period => exact s.showReport_yields context period
  | submitAttendance => exact s.handInAttendance_yields context request
  | submitOvertime => exact s.handInOvertime_yields context request
  | submitReimbursement => exact s.handInReimbursement_yields context request
  | payslips => exact s.showPayslips_yields context

theorem authenticate_worded {now : Stamp} {secret : String} {header : Option String}
    {fault : Fault} (refused : Caller.authenticate now secret header = .error fault) :
    fault.IsWorded := by
  obtain rfl | rfl | rfl | rfl := Caller.authenticate_fault refused <;> decide

section Ways
variable {next : Context → Serve σ Response}
  (later : ∀ context, (next context).Yields s.parts s.parts.Answers)
include later

theorem logFirst_yields :
    (s.logFirst request next context).Yields s.parts s.parts.Answers := by
  unfold logFirst
  refine .ite (fun _ => later context) fun _ => .ite (fun _ => .throw (.fault trivial)) fun _ => ?_
  exact .bind (.perform s (.of_step rfl (.asked _))) fun _ _ => later _

theorem authenticateFirst_yields :
    (s.authenticateFirst request next context).Yields s.parts s.parts.Answers := by
  unfold authenticateFirst
  refine .ite (fun _ => .throw (.fault trivial)) fun _ => ?_
  exact .bind (.orRefuse fun _ => authenticate_worded) fun _ _ => later _

end Ways

theorem serve_yields (area : Area) (endpoint : Endpoint) :
    (s.serve request ⟨area, some endpoint⟩ : Serve σ Response).Yields s.parts
      s.parts.Answers := by
  have answered (context : Context) :
      (s.answer context request endpoint : Serve σ Response).Yields s.parts s.parts.Answers :=
    s.answer_yields context request endpoint
  cases area with
  | health => exact answered {}
  | login => exact s.logFirst_yields {} request answered
  | guarded =>
      refine s.logFirst_yields {} request fun context => ?_
      exact s.authenticateFirst_yields context request answered

end Service

namespace App

/-- The limit in front of an area. -/
def limiter? (app : App σ) : Area → Option Limiter
  | .health => none
  | .login => some app.logins
  | .guarded => some app.guarded

/-- What the limit of its client answers to a request that it does not let through. -/
def turnedAway? (app : App σ) (area : Area) (request : Request) (now : Stamp) :
    Option Response :=
  (app.limiter? area).bind fun limiter =>
    match letThrough limiter request now with
    | .error refusal => some refusal
    | .ok _ => none

theorem turnedAway_plain {app : App σ} {area : Area} {request : Request} {now : Stamp}
    {refusal : Response} (turned : app.turnedAway? area request now = some refusal) :
    request.peer = none ∧ refusal = .peerUnknown ∨ ∃ seconds, refusal = .tooMany seconds := by
  obtain ⟨limiter, -, stopped⟩ := Option.bind_eq_some_iff.mp turned
  split at stopped
  · cases stopped
    exact letThrough_refusal ‹_›
  · cases stopped

section Routed
variable (app : App σ) (occasion : Occasion) {request : Request} {path : SharedPath}
  {area : Area} {endpoint : Endpoint} (shared : SharedPath.read? app.config.sharedPath = some path)
  (routed : Route.of? path request.method request.target.routed = some ⟨area, some endpoint⟩)
include shared routed

/-- A request for an endpoint is turned away by the limit of its client, or is served. -/
theorem handle_routed :
    (∃ refusal, app.turnedAway? area request occasion.now = some refusal ∧
      app.handle occasion request = (refusal, app)) ∨
    ∃ admitted : App σ, app.turnedAway? area request occasion.now = none ∧
      admitted.parts = app.parts ∧
      app.handle occasion request = admitted.serve occasion request ⟨area, some endpoint⟩ := by
  simp only [handle, shared, Option.bind_some, routed]
  -- Only the areas with a limit take a token, and that changes no part of the service.
  cases area with
  | health => exact .inr ⟨app, rfl, rfl, rfl⟩
  | login =>
      simp only [turnedAway?, limiter?, Option.bind_some]
      cases letThrough app.logins request occasion.now with
      | error refusal => exact .inl ⟨refusal, rfl, rfl⟩
      | ok logins => exact .inr ⟨{ app with logins }, rfl, rfl, rfl⟩
  | guarded =>
      simp only [turnedAway?, limiter?, Option.bind_some]
      cases letThrough app.guarded request occasion.now with
      | error refusal => exact .inl ⟨refusal, rfl, rfl⟩
      | ok guarded => exact .inr ⟨{ app with guarded }, rfl, rfl, rfl⟩

end Routed

theorem serve_answers (app : App σ) (occasion : Occasion) (request : Request) (area : Area)
    (endpoint : Endpoint) :
    app.parts.Answers (app.serve occasion request ⟨area, some endpoint⟩).1 := by
  let service : Service := ⟨app.config, app.parts, occasion⟩
  have yields := service.serve_yields request area endpoint app.shared
  rw [serve_run]
  revert yields
  rcases (service.serve request ⟨area, some endpoint⟩).run app.shared with ⟨refusal | a, shared⟩
  · exact id
  · exact id

/-- A request for an endpoint is answered with an envelope, unless the limit of its client turns it
away or the service has been set up without one of its parts; what the limit says is not in one. -/
theorem answers_are_enveloped (app : App σ) (occasion : Occasion) (request : Request)
    {path : SharedPath} {area : Area} {endpoint : Endpoint}
    (shared : SharedPath.read? app.config.sharedPath = some path)
    (routed : Route.of? path request.method request.target.routed = some ⟨area, some endpoint⟩) :
    let response := (app.handle occasion request).1
    (∀ refusal, app.turnedAway? area request occasion.now = some refusal →
      response = refusal ∧ ¬ response.Enveloped ∧
        (request.peer = none ∧ response = .peerUnknown ∨ ∃ seconds, response = .tooMany seconds)) ∧
    (app.turnedAway? area request occasion.now = none →
      response.Enveloped ∨
        ¬ (app.parts.store = true ∧ app.parts.config = true) ∧ response = .partMissing) := by
  have plain : some "text/plain; charset=utf-8" ≠ some "application/json" := by decide
  obtain ⟨refusal, turned, handled⟩ | ⟨admitted, passed, parts, handled⟩ :=
    app.handle_routed occasion shared routed
  · rw [handled]
    refine ⟨fun other stopped => ?_, fun passed => nomatch turned.symm.trans passed⟩
    obtain rfl : refusal = other := Option.some.inj (turned.symm.trans stopped)
    refine ⟨rfl, ?_, turnedAway_plain turned⟩
    obtain ⟨-, rfl⟩ | ⟨seconds, rfl⟩ := turnedAway_plain turned
    · exact fun enveloped => plain enveloped.contentType
    · exact fun enveloped => plain enveloped.contentType
  · rw [handled, ← parts]
    refine ⟨fun _ stopped => (nomatch passed.symm.trans stopped), fun _ => ?_⟩
    exact admitted.serve_answers occasion request area endpoint

/-- A caller without a token is told so in an envelope. -/
theorem answer_without_token_is_enveloped :
    let app : App Memory := { config := {}, shared := { store := {} } }
    let request : Request :=
      ⟨"GET", .read "/v1/employee/generate-payslips", [], [], some (.v4 [10, 0, 0, 1])⟩
    SharedPath.read? app.config.sharedPath = some (.fixed "/v1".toList) ∧
      Route.of? (.fixed "/v1".toList) request.method request.target.routed =
        some ⟨.guarded, some .payslips⟩ ∧
      (app.handle ⟨.epoch, ""⟩ request).1.Enveloped := by
  intro app request
  have shared : SharedPath.read? app.config.sharedPath = some (.fixed "/v1".toList) := by
    decide +kernel
  have routed : Route.of? (.fixed "/v1".toList) request.method request.target.routed =
      some ⟨.guarded, some .payslips⟩ := by
    decide +kernel
  have passes : app.turnedAway? .guarded request .epoch = none :=
    Option.isNone_iff_eq_none.mp (by decide +kernel)
  have answered := (app.answers_are_enveloped ⟨.epoch, ""⟩ request shared routed).2 passes
  exact ⟨shared, routed, answered.resolve_right fun missing => missing.1 ⟨rfl, rfl⟩⟩

/-- A login from nowhere, and the second one in a minute where one is allowed. -/
theorem limits_answer_plainly :
    let app : App Memory := { config := { loginsPerMinute := 1 }, shared := { store := {} } }
    let login (peer : Option Address) : Request := ⟨"POST", .read "/v1/login", [], [], peer⟩
    let once := (app.handle ⟨.epoch, "first"⟩ (login (some (.v4 [10, 0, 0, 1])))).2
    Route.of? (.fixed "/v1".toList) "POST" (Target.read "/v1/login").routed =
        some ⟨.login, some .login⟩ ∧
      ¬ (app.handle ⟨.epoch, "first"⟩ (login none)).1.Enveloped ∧
      ¬ (once.handle ⟨.epoch, "second"⟩ (login (some (.v4 [10, 0, 0, 1])))).1.Enveloped := by
  intro app login once
  refine ⟨by decide +kernel, fun enveloped => ?_, fun enveloped => ?_⟩
  · exact absurd enveloped.contentType (by decide +kernel)
  · exact absurd enveloped.contentType (by decide +kernel)

end App
end Http
end Wagebook
