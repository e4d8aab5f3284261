import Wagebook.Proofs.Independence
import Wagebook.Proofs.Logins
import Wagebook.Proofs.References

/-!
Rules in their order. What an employee hands in passes the check of its token, the check of the role
and the rules of its form, and is answered with the first of them that it breaks. Each of them is a
fault or nothing here, and the first fault of the list counts.
-/

namespace Wagebook

namespace Memory

variable (memory : Memory) (sees : memory.switches.hidden = [])
include sees

theorem seenAttendance?_eq (user period : Nat) (date : Date) :
    memory.seenAttendance? user period date = memory.tables.attendance? user period date := by
  rw [seenAttendance?, sees]
  rfl

theorem seenOvertime?_eq (user period : Nat) (date : Date) :
    memory.seenOvertime? user period date = memory.tables.overtime? user period date := by
  rw [seenOvertime?, sees]
  rfl

end Memory

namespace Http

@[simp] theorem Caller.user_actor (caller : Caller) (request : Nat) :
    (caller.actor request).user = caller.user := rfl

/-- What is said unless something holds. -/
def Fault.unless (fault : Fault) (kept : Prop) [Decidable kept] : Option Fault :=
  if kept then none else some fault

@[simp] theorem Fault.unless_pos {fault : Fault} {kept : Prop} [Decidable kept] (h : kept) :
    fault.unless kept = none := if_pos h

@[simp] theorem Fault.unless_neg {fault : Fault} {kept : Prop} [Decidable kept] (h : ¬ kept) :
    fault.unless kept = some fault := if_neg h

theorem Fault.status_unless {fault told : Fault} {kept : Prop} [Decidable kept]
    (mem : told ∈ fault.unless kept) : told.status = fault.status := by
  unfold Fault.unless at mem
  split at mem
  · cases mem
  · cases mem
    rfl

/-- Each fault has the status in its place. -/
inductive InPlace : List (Option Fault) → List Nat → Prop
  | nil {statuses : List Nat} : InPlace [] statuses
  | cons {rule : Option Fault} {rules : List (Option Fault)} {status : Nat} {statuses : List Nat}
      (same : ∀ fault ∈ rule, fault.status = status) (rest : InPlace rules statuses) :
      InPlace (rule :: rules) (status :: statuses)

namespace InPlace

variable {rules : List (Option Fault)} {statuses : List Nat}

theorem kept {status : Nat} (rest : InPlace rules statuses) :
    InPlace (none :: rules) (status :: statuses) :=
  .cons (fun fault mem => absurd mem (Option.not_mem_none fault)) rest

theorem broken {fault : Fault} : InPlace [some fault] (fault.status :: statuses) :=
  .cons (by rintro _ ⟨⟩; rfl) .nil

theorem rule {fault : Fault} {kept : Prop} [Decidable kept] (rest : InPlace rules statuses) :
    InPlace (fault.unless kept :: rules) (fault.status :: statuses) :=
  .cons (fun _ => Fault.status_unless) rest

theorem mem {fault : Fault} (h : InPlace rules statuses)
    (first : rules.findSome? id = some fault) : fault.status ∈ statuses := by
  induction h with
  | nil => cases first
  | @cons rule rules status statuses same rest ih =>
      cases rule with
      | none => exact List.mem_cons_of_mem _ (ih first)
      | some told =>
          cases first
          exact same fault rfl ▸ List.mem_cons_self

end InPlace

inductive SubmissionForm
  | attendance (form : AttendanceForm)
  | overtime (form : OvertimeForm)
  | reimbursement (form : ReimbursementForm)

namespace SubmissionForm

def endpoint : SubmissionForm → Endpoint
  | .attendance _ => .submitAttendance
  | .overtime _ => .submitOvertime
  | .reimbursement _ => .submitReimbursement

def SentIn (request : Request) (decoders : Decoders) : SubmissionForm → Prop
  | .attendance form => request.json? decoders AttendanceForm.ofJson? = .ok form
  | .overtime form => request.json? decoders OvertimeForm.ofJson? = .ok form
  | .reimbursement form => request.json? decoders ReimbursementForm.ofJson? = .ok form

def message : SubmissionForm → String
  | .attendance _ => "attendance submitted"
  | .overtime _ => "overtime submitted"
  | .reimbursement _ => "reimbursement submitted"

/-- The rules of a form that a user hands in. Overtime does not ask for its period: where there is
attendance, there is a period. -/
def rules (t : Tables) (user : Nat) : SubmissionForm → List (Option Fault)
  | .attendance form =>
    match Date.readField? form.date with
    | none => [some (.malformedField "date")]
    | some date =>
      [none,
        (Fault.payroll (.alreadyExists "attendance")).unless
          (t.attendance? user form.period date = none),
        (Fault.payroll (.notFound "period")).unless (t.period? form.period ≠ none),
        (t.period? form.period).bind fun window =>
          (Fault.payroll (.outOfWindow window.first window.last)).unless (window.Contains date)]
  | .overtime form =>
    match Date.readField? form.date with
    | none => [some (.malformedField "date")]
    | some date =>
      [none,
        Fault.workUnfinished.unless (form.workCompleted = true),
        (Fault.payroll .attendanceMissing).unless (t.attendance? user form.period date ≠ none),
        (Fault.payroll (.alreadyExists "overtime")).unless
          (t.overtime? user form.period date = none),
        (Fault.payroll (.invalid .hoursOutOfRange)).unless (1 ≤ form.hours ∧ form.hours ≤ 3)]
  | .reimbursement form =>
    [Fault.amountNotPositive.unless (0 < form.amount),
      (Fault.payroll (.notFound "period")).unless (t.period? form.period ≠ none)]

/-- The statuses that say which rule is broken. -/
def statuses : SubmissionForm → List Nat
  | .attendance _ => [400, 409, 404, 400]
  | .overtime _ => [400, 400, 400, 409, 400]
  | .reimbursement _ => [400, 404]

theorem rules_inPlace (t : Tables) (user : Nat) (form : SubmissionForm) :
    InPlace (form.rules t user) form.statuses := by
  cases form with
  | attendance form =>
      simp only [rules]
      cases Date.readField? form.date with
      | none => exact .broken
      | some date =>
          refine .kept (.rule (.rule (.cons (fun fault mem => ?_) .nil)))
          obtain ⟨window, -, outside⟩ := Option.bind_eq_some_iff.mp mem
          exact Fault.status_unless outside
  | overtime form =>
      simp only [rules]
      cases Date.readField? form.date with
      | none => exact .broken
      | some date => exact .kept (.rule (.rule (.rule (.rule .nil))))
  | reimbursement form => exact .rule (.rule .nil)

theorem not_missing {form : SubmissionForm} (overtime : form.endpoint = .submitOvertime) :
    404 ∉ 401 :: 403 :: form.statuses := by
  cases form with
  | overtime form => simp [statuses]
  | _ => cases overtime

/-- All that is checked of a form, whoever sends it. -/
def checks (t : Tables) (sender : Except Fault Caller) (form : SubmissionForm) :
    List (Option Fault) :=
  match sender with
  | .error fault => [some fault]
  | .ok caller =>
    none :: Fault.notEmployee.unless (caller.role = .employee) :: form.rules t caller.user

theorem checks_inPlace {t : Tables} {sender : Except Fault Caller}
    (unknown : ∀ fault, sender = .error fault → fault.status = 401) (form : SubmissionForm) :
    InPlace (form.checks t sender) (401 :: 403 :: form.statuses) := by
  cases sender with
  | error fault => exact unknown fault rfl ▸ .broken
  | ok caller => exact .kept (.rule (form.rules_inPlace t caller.user))

/-- The tables once the form is booked. -/
def booked (t : Tables) (actor : Actor) (now : Stamp) : SubmissionForm → Tables
  | .attendance form =>
    match Date.readField? form.date with
    | none => t
    | some date => t.bookAttendance ⟨actor.user, form.period, date, now⟩ actor
  | .overtime form =>
    match Date.readField? form.date with
    | none => t
    | some date => t.bookOvertime ⟨actor.user, form.period, date, form.hours, now⟩ actor
  | .reimbursement form =>
    t.bookReimbursement ⟨actor.user, form.period, form.amount, form.description, now⟩ actor

/-- One row has come, under this id, and it is the one that the form asks for. -/
def Adds (t t' : Tables) (user id : Nat) (now : Stamp) : SubmissionForm → Prop
  | .attendance form => ∃ date, Date.readField? form.date = some date ∧
      t'.attendances = t.attendances ++ [⟨id, user, form.period, date, now, now⟩]
  | .overtime form => ∃ date, Date.readField? form.date = some date ∧
      t'.overtimes = t.overtimes ++ [⟨id, user, form.period, date, form.hours, now, now⟩]
  | .reimbursement form => t'.reimbursements =
      t.reimbursements ++ [⟨id, user, form.period, form.amount, form.description, now, now⟩]

theorem adds_booked {t : Tables} {caller : Caller} {form : SubmissionForm}
    (kept : (form.checks t (.ok caller)).findSome? id = none) (logged : Nat) (now : Stamp) :
    form.Adds t (form.booked t (caller.actor logged) now) caller.user t.nextId now := by
  have read {text : String} {rest : Date → List (Option Fault)}
      (passed : (none :: Fault.notEmployee.unless (caller.role = .employee) ::
        match Date.readField? text with
        | none => [some (.malformedField "date")]
        | some date => rest date).findSome? id = none) :
      ∃ date, Date.readField? text = some date := by
    cases read : Date.readField? text with
    | none => simp [read] at passed
    | some date => exact ⟨date, rfl⟩
  cases form with
  | attendance form =>
      obtain ⟨date, read⟩ := read kept
      simp only [booked, read]
      exact ⟨date, read, rfl⟩
  | overtime form =>
      obtain ⟨date, read⟩ := read kept
      simp only [booked, read]
      exact ⟨date, read, rfl⟩
  | reimbursement form => rfl

/-- What a form comes to at its endpoint, in a request that is logged. -/
def settled (shared : Shared Memory) (caller : Caller) (logged : Nat) (now : Stamp)
    (form : SubmissionForm) : Except Response Response × Shared Memory :=
  let t := shared.store.tables
  match (form.checks t (.ok caller)).findSome? id with
  | some fault => (.error fault.response, shared)
  | none => (.ok (Service.submitted t.nextId form.message), { shared with
      store := { shared.store with tables := form.booked t (caller.actor logged) now } })

section Settled
variable (shared : Shared Memory) {caller : Caller} {form : SubmissionForm}

theorem settled_broken {fault : Fault}
    (first : (form.checks shared.store.tables (.ok caller)).findSome? id = some fault)
    (logged : Nat) (now : Stamp) :
    form.settled shared caller logged now = (.error fault.response, shared) := by
  rw [settled, first]

theorem settled_kept (kept : (form.checks shared.store.tables (.ok caller)).findSome? id = none)
    (logged : Nat) (now : Stamp) :
    form.settled shared caller logged now =
      (.ok (Service.submitted shared.store.tables.nextId form.message), { shared with
        store := { shared.store with
          tables := form.booked shared.store.tables (caller.actor logged) now } }) := by
  rw [settled, kept]

end Settled
end SubmissionForm

namespace Service

theorem takeForm_eq {s : Service} {request : Request} (store : s.parts.store = true)
    (config : s.parts.config = true) {ofJson? : Json → Option α} {form : α}
    (asked : request.json? s.config.decoders ofJson? = .ok form) (caller : Caller) (id : Nat) :
    (s.takeForm ⟨some caller, some id⟩ request ofJson? : Serve Memory (Caller × Nat × α)) =
      pure (caller, id, form) := by
  simp only [takeForm, Context.caller, Context.logged, orRefuse, needs, store, config, asked,
    if_true, pure_bind]

theorem run_perform_submitted {s : Service} {shared : Shared Memory} (free : shared.held = none)
    (operation : Operation Nat) (message : String) :
    (s.perform operation >>= fun id => pure (submitted id message) :
        Serve Memory Response).run shared =
      match operation.run shared.store with
      | (.error cause, store) => (.error (Fault.payroll cause).response, { shared with store })
      | (.ok id, store) => (.ok (submitted id message), { shared with store }) := by
  rw [Serve.run_bind, Serve.run_perform, Shared.run_of_free free]
  rcases operation.run shared.store with ⟨cause | id, store⟩ <;> rfl

section Endpoints

variable {s : Service} {request : Request} {shared : Shared Memory}
  (free : shared.held = none) (store : s.parts.store = true) (config : s.parts.config = true)
  (audits : shared.store.switches.auditFails = false) (caller : Caller) (logged : Nat)
include free store config audits

theorem run_handInReimbursement {form : ReimbursementForm}
    (asked : request.json? s.config.decoders ReimbursementForm.ofJson? = .ok form) :
    (s.handInReimbursement ⟨some caller, some logged⟩ request).run shared =
      (SubmissionForm.reimbursement form).settled shared caller logged
        s.occasion.now.toMicros := by
  rw [handInReimbursement, takeForm_eq store config asked, pure_bind]
  simp only [SubmissionForm.settled, SubmissionForm.checks, SubmissionForm.rules,
    SubmissionForm.booked, Caller.requireEmployee, orRefuse]
  by_cases employee : caller.role = .employee
  · by_cases positive : 0 < form.amount
    · simp only [if_pos employee, if_neg (Int.not_le.mpr positive), pure_bind]
      rw [run_perform_submitted free, Memory.run_submitReimbursement]
      cases known : shared.store.tables.period? form.period with
      | none => simp [employee, positive]
      | some window =>
          simp [employee, positive, Int.not_le.mpr positive, audits, SubmissionForm.message]
    · simp only [employee, positive, Int.not_lt.mp positive]
      rfl
  · simp only [employee]
    rfl

variable (sees : shared.store.switches.hidden = [])
include sees

theorem run_handInAttendance {form : AttendanceForm}
    (asked : request.json? s.config.decoders AttendanceForm.ofJson? = .ok form) :
    (s.handInAttendance ⟨some caller, some logged⟩ request).run shared =
      (SubmissionForm.attendance form).settled shared caller logged s.occasion.now.toMicros := by
  rw [handInAttendance, takeForm_eq store config asked, pure_bind]
  simp only [SubmissionForm.settled, SubmissionForm.checks, SubmissionForm.rules,
    SubmissionForm.booked, Caller.requireEmployee, orRefuse, dateField]
  by_cases employee : caller.role = .employee
  · cases read : Date.readField? form.date with
    | none =>
        simp only [employee]
        rfl
    | some date =>
        simp only [if_pos employee, pure_bind]
        rw [run_perform_submitted free, Memory.run_submitAttendance]
        have seen := shared.store.seenAttendance?_eq sees caller.user form.period date
        cases taken : shared.store.tables.attendance? caller.user form.period date with
        | some earlier => simp [employee, seen, taken]
        | none =>
        cases known : shared.store.tables.period? form.period with
        | none => simp [employee, seen, taken]
        | some window =>
            by_cases inside : window.Contains date
            · simp [employee, seen, taken, inside, audits, SubmissionForm.message]
            · simp [employee, seen, taken, inside]
  · simp only [employee]
    rfl

/-- The look for the period finds it, as the attendance has passed its window. -/
theorem run_handInOvertime (reached : shared.store.tables.Reachable) {form : OvertimeForm}
    (asked : request.json? s.config.decoders OvertimeForm.ofJson? = .ok form) :
    (s.handInOvertime ⟨some caller, some logged⟩ request).run shared =
      (SubmissionForm.overtime form).settled shared caller logged s.occasion.now.toMicros := by
  rw [handInOvertime, takeForm_eq store config asked, pure_bind]
  simp only [SubmissionForm.settled, SubmissionForm.checks, SubmissionForm.rules,
    SubmissionForm.booked, Caller.requireEmployee, orRefuse, dateField]
  by_cases employee : caller.role = .employee
  · cases read : Date.readField? form.date with
    | none =>
        simp only [employee]
        rfl
    | some date =>
        by_cases finished : form.workCompleted = true
        · simp only [if_pos employee, finished, not_true_eq_false, if_false, pure_bind]
          rw [run_perform_submitted free, Memory.run_submitOvertime]
          have seen := shared.store.seenAttendance?_eq sees caller.user form.period date
          have seen' := shared.store.seenOvertime?_eq sees caller.user form.period date
          cases attended : shared.store.tables.attendance? caller.user form.period date with
          | none => simp [employee, seen, attended]
          | some attendance =>
          cases taken : shared.store.tables.overtime? caller.user form.period date with
          | some earlier => simp [employee, seen, seen', attended, taken]
          | none =>
          obtain ⟨mem, -, period, -⟩ := Tables.mem_of_attendance? attended
          obtain ⟨window, known, -⟩ := reached.lawful.attendance_window reached.numbered mem
          rw [period] at known
          have hours : form.hours < Overtime.leastHours ∨ Overtime.mostHours < form.hours ↔
              ¬ (1 ≤ form.hours ∧ form.hours ≤ 3) := by
            simp only [Overtime.leastHours, Overtime.mostHours]
            omega
          by_cases allowed : 1 ≤ form.hours ∧ form.hours ≤ 3
          · simp [employee, seen, seen', attended, taken, known, hours, allowed, audits,
              SubmissionForm.message]
          · simp [employee, seen, seen', attended, taken, known, hours, allowed]
        · simp only [employee, finished]
          rfl
  · simp only [employee]
    rfl

theorem run_answer_form (reached : shared.store.tables.Reachable) {form : SubmissionForm}
    (sent : form.SentIn request s.config.decoders) :
    (s.answer ⟨some caller, some logged⟩ request form.endpoint).run shared =
      form.settled shared caller logged s.occasion.now.toMicros := by
  cases form with
  | attendance form => exact run_handInAttendance free store config audits caller logged sees sent
  | overtime form =>
      exact run_handInOvertime free store config audits caller logged sees reached sent
  | reimbursement form => exact run_handInReimbursement free store config audits caller logged sent

end Endpoints
end Service

theorem Caller.authenticate_error {now : Stamp} {secret : String} {header : Option String}
    {fault : Fault} (h : authenticate now secret header = .error fault) : fault.status = 401 := by
  obtain rfl | rfl | rfl | rfl := authenticate_fault h <;> rfl

namespace App

variable {app admitted : App Memory} {occasion : Occasion} {request : Request}

/-- A request that is let in and logged gets to the check of its token, and past that to its
endpoint. -/
theorem handle_guarded {endpoint : Endpoint}
    (routed : app.route? request = some ⟨.guarded, some endpoint⟩) (asks : request.method ≠ "GET")
    (passed : app.letIn occasion request .guarded = .ok admitted)
    (logs : (app.service occasion).Logs app.shared)
    (sender : Except Fault Caller) {ended : Except Response Response × Shared Memory}
    (ends :
      let logged := logEntry app.shared (request.entry occasion.now)
      (match sender with
        | .error fault => (.error fault.response, logged)
        | .ok caller => ((app.service occasion).answer ⟨some caller, some app.tables.nextId⟩ request
            endpoint).run logged) = ended)
    (authentic : Caller.authenticate occasion.now app.config.secret
      (request.header? "authorization") = sender) :
    (app.handle occasion request).1 = Serve.told ended.1 ∧
      (app.handle occasion request).2.shared = ended.2 := by
  subst authentic ends
  obtain ⟨service, shared⟩ := letIn_ok passed
  rw [handle_eq, routed]
  simp only [passed, serve_told, service, shared, Service.serve_eq]
  rw [Service.logFirst_of_logs _ request asks logs, Service.run_authenticateFirst,
    if_neg (not_not.mpr logs.2.1)]
  exact ⟨rfl, rfl⟩

theorem form_asks {form : SubmissionForm}
    (routed : app.route? request = some ⟨.guarded, some form.endpoint⟩) :
    request.method ≠ "GET" := by
  obtain ⟨path, -, leads⟩ := Option.bind_eq_some_iff.mp routed
  have method : form.endpoint.method = request.method := (Route.of_endpoint leads rfl).2
  have posts : form.endpoint.method = "POST" := by cases form <;> rfl
  rw [← method, posts]
  decide

section Forms

variable {form : SubmissionForm} (reached : app.tables.Reachable)
  (sees : app.shared.store.switches.hidden = [])
  (audits : app.shared.store.switches.auditFails = false)
  (logs : (app.service occasion).Logs app.shared)
  (routed : app.route? request = some ⟨.guarded, some form.endpoint⟩)
  (passed : app.letIn occasion request .guarded = .ok admitted)
  (sent : form.SentIn request app.config.decoders)
include reached sees audits logs routed passed sent

/-- What a form of a known sender is answered, and what it leaves. -/
theorem handle_form {caller : Caller} (known : Caller.authenticate occasion.now app.config.secret
    (request.header? "authorization") = .ok caller) :
    let t := app.tables.addRequestEntry (request.entry occasion.now)
    let ended := app.handle occasion request
    (∃ fault, (form.checks app.tables (.ok caller)).findSome? id = some fault ∧
        ended.1 = fault.response ∧ ended.2.tables = t) ∨
      (form.checks app.tables (.ok caller)).findSome? id = none ∧
        ended.1 = Service.submitted t.nextId form.message ∧
        form.Adds t ended.2.tables caller.user t.nextId occasion.now.toMicros := by
  intro t ended
  have again : t.Reachable := reached.write .request
  let logged := logEntry app.shared (request.entry occasion.now)
  have free : logged.held = none := logs.2.2.1
  have settles := Service.run_answer_form free logs.1 logs.2.1 audits caller app.tables.nextId
    sees again sent
  have same : form.checks app.tables (.ok caller) = form.checks t (.ok caller) := by
    cases form <;> rfl
  rw [same]
  cases first : (form.checks t (.ok caller)).findSome? id with
  | some fault =>
      obtain ⟨answer, after⟩ := handle_guarded routed (form_asks routed) passed logs (.ok caller)
        (settles.trans (SubmissionForm.settled_broken logged first _ _)) known
      exact .inl ⟨fault, rfl, answer, congrArg (·.store.tables) after⟩
  | none =>
      obtain ⟨answer, after⟩ := handle_guarded routed (form_asks routed) passed logs (.ok caller)
        (settles.trans (SubmissionForm.settled_kept logged first _ _)) known
      refine .inr ⟨rfl, answer, ?_⟩
      rw [tables, after]
      exact SubmissionForm.adds_booked first _ _

end Forms

/-- A form is answered with the first check that it fails, and then nothing but its request is
logged. One that fails none is stored, and answered with the id of its row. The statuses say which
check it was, and overtime is never told that a period is missing. -/
theorem first_broken_rule_answers {form : SubmissionForm} (reached : app.tables.Reachable)
    (sees : app.shared.store.switches.hidden = [])
    (audits : app.shared.store.switches.auditFails = false)
    (logs : (app.service occasion).Logs app.shared)
    (routed : app.route? request = some ⟨.guarded, some form.endpoint⟩)
    (passed : app.letIn occasion request .guarded = .ok admitted)
    (sent : form.SentIn request app.config.decoders) :
    let t := app.tables.addRequestEntry (request.entry occasion.now)
    let sender :=
      Caller.authenticate occasion.now app.config.secret (request.header? "authorization")
    let checks := form.checks app.tables sender
    let ended := app.handle occasion request
    InPlace checks (401 :: 403 :: form.statuses) ∧
      (∀ fault, checks.findSome? id = some fault →
        ended.1 = fault.response ∧ ended.2.tables = t) ∧
      (checks.findSome? id = none → ∃ caller, sender = .ok caller ∧
        ended.1 = .ok (.record ["id", "message"] [.nat t.nextId, .str form.message]) ∧
        form.Adds t ended.2.tables caller.user t.nextId occasion.now.toMicros) ∧
      (form.endpoint = .submitOvertime → ended.1.status ≠ 404) := by
  intro t sender checks ended
  have places : InPlace checks (401 :: 403 :: form.statuses) :=
    form.checks_inPlace fun fault => Caller.authenticate_error
  have cases : (∃ fault, checks.findSome? id = some fault ∧ ended.1 = fault.response ∧
      ended.2.tables = t) ∨ checks.findSome? id = none ∧ ∃ caller, sender = .ok caller ∧
        ended.1 = Service.submitted t.nextId form.message ∧
        form.Adds t ended.2.tables caller.user t.nextId occasion.now.toMicros := by
    cases authentic : sender with
    | error fault =>
        obtain ⟨answer, after⟩ :=
          handle_guarded routed (form_asks routed) passed logs (.error fault) rfl authentic
        exact .inl ⟨fault, by simp only [checks, authentic]; rfl, answer,
          congrArg (·.store.tables) after⟩
    | ok caller =>
        obtain ⟨fault, first, failed⟩ | ⟨kept, stored⟩ :=
          handle_form reached sees audits logs routed passed sent authentic
        · exact .inl ⟨fault, by simpa only [checks, authentic] using first, failed⟩
        · exact .inr ⟨by simpa only [checks, authentic] using kept, caller, rfl, stored⟩
  obtain ⟨fault, first, answer, after⟩ | ⟨kept, stored⟩ := cases
  · refine ⟨places, fun told same => ?_, fun kept => ?_, fun overtime missing => ?_⟩
    · cases first.symm.trans same
      exact ⟨answer, after⟩
    · cases first.symm.trans kept
    · have status := places.mem first
      rw [answer] at missing
      rw [show fault.status = 404 from missing] at status
      exact absurd status (SubmissionForm.not_missing overtime)
  · refine ⟨places, fun told same => ?_, fun _ => stored, fun _ => ?_⟩
    · cases kept.symm.trans same
    · obtain ⟨caller, -, answer, -⟩ := stored
      rw [answer]
      exact nofun

end App

/-- What a token for Ann claims. -/
def annsClaims : Claims := ⟨2, "ann", 2, 3600, 0, "first"⟩

/-- Ann hands in her Monday. -/
def Request.annsMonday : Request where
  method := "POST"
  target := .read "/v1/employee/submit-attendance"
  headers := [("content-type", "application/json"),
    ("authorization", "Bearer " ++ Token.sign "test-secret" annsClaims)]
  body := Text.utf8 (Json.record ["period_id", "date"] [.nat 4, .str "2024-03-04"]).render
  peer := some (.v4 [10, 0, 0, 1])

/-- A service on which the week is open. -/
def App.withWeek : App Memory where
  config := {}
  shared := { store := Memory.after Event.sharedWeek }

/-- She breaks no rule. -/
theorem App.monday_of_ann_answers :
    (withWeek.handle .epoch .annsMonday).1 =
        .ok (.record ["id", "message"] [.nat 7, .str "attendance submitted"]) ∧
      (withWeek.handle .epoch .annsMonday).2.tables.attendances =
        [⟨7, 2, 4, .monday, .epoch, .epoch⟩] := by
  have exact : (Json.record ["period_id", "date"] [.nat 4, .str "2024-03-04"]).Exact :=
    Json.exact_record (by simp [Json.exact_nat, Json.Exact.str])
  have content : Request.annsMonday.content? withWeek.config.decoders =
      some Request.annsMonday.body :=
    Request.content?_of_plain _ rfl (by decide +kernel)
  have sent : (SubmissionForm.attendance ⟨4, "2024-03-04"⟩).SentIn .annsMonday
      withWeek.config.decoders :=
    Request.json?_of_content exact rfl content rfl
  have authentic : Caller.authenticate Occasion.epoch.now withWeek.config.secret
      (Request.annsMonday.header? "authorization") = .ok ⟨2, "ann", .employee⟩ := by
    have borne : (Request.annsMonday.valuesOf "authorization").head? =
        some ("Bearer " ++ Token.sign withWeek.config.secret annsClaims) := rfl
    rw [Request.header?_bearer borne]
    exact Caller.authenticate_sign ⟨by decide, by decide, by decide, by decide⟩ rfl (by decide)
  have reached : withWeek.tables.Reachable := Memory.after_reachable Event.sharedWeek
  have logs : (withWeek.service .epoch).Logs withWeek.shared := ⟨rfl, rfl, rfl, rfl⟩
  have routed : withWeek.route? .annsMonday = some ⟨.guarded, some .submitAttendance⟩ := by
    decide +kernel
  obtain ⟨admitted, passed⟩ : ∃ admitted,
      withWeek.letIn .epoch .annsMonday .guarded = .ok admitted := ⟨_, rfl⟩
  obtain ⟨-, -, stored, -⟩ := first_broken_rule_answers reached rfl rfl logs routed passed sent
  have kept : ((SubmissionForm.attendance ⟨4, "2024-03-04"⟩).checks withWeek.tables
      (.ok ⟨2, "ann", .employee⟩)).findSome? id = none := by
    decide +kernel
  have monday : Date.readField? "2024-03-04" = some .monday := by decide +kernel
  rw [authentic] at stored
  obtain ⟨caller, known, answer, date, read, row⟩ := stored kept
  cases known
  cases monday.symm.trans read
  exact ⟨answer, row⟩

end Http
end Wagebook
