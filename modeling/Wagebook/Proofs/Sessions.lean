import Wagebook.Proofs.Pay

/-!
Sessions: visits to a store in memory on which somebody may hold a unit of work open. An operation
that fails leaves no trace, whether a call failed after others had written or the unit of work was
never free. So a session goes the same way without its failures.
-/

namespace Wagebook

/-- What someone comes to a shared store for: an operation under a deadline, or a step with the unit
of work that is held. -/
inductive Visit
  | command (limitMs : Nat) (command : Command)
  | getPeriod (limitMs period : Nat)
  | getReport (limitMs period : Nat)
  | getPayslips (limitMs user : Nat)
  | findUser (limitMs : Nat) (username : String)
  | addUser (now : Stamp) (username passwordHash : String) (salary : Int) (isAdmin : Bool)
  | switch (switches : Switches)
  | begin
  | ask (call : Call)
  | commit
  | rollback

inductive Answer
  | number (result : Except PayrollError Nat)
  | period (result : Except PayrollError (Option Period))
  | report (result : Except PayrollError Report)
  | payslips (result : Except PayrollError (List Payslip))
  | user (result : Except PayrollError (Option User))
  | added (id : Nat)
  | reply (call : Call) (reply : Except StoreError call.Reply)
  | ended (result : Except StoreError Unit)
  /-- There is nothing to tell, or nothing yet. -/
  | nothing

/-- Whether an operation has failed. -/
def Answer.isFailure : Answer → Bool
  | .number (.error _) | .period (.error _) | .report (.error _) | .payslips (.error _)
  | .user (.error _) => true
  | _ => false

/-- Whatever a failed operation has written in its unit of work goes with it. -/
theorem Memory.run_of_work_error {operation : Operation α} {memory : Memory} {written : Tables}
    (passed : operation.check = .ok ())
    (failed : operation.work.run (answer memory.switches) memory.tables =
      (.error cause, written)) :
    operation.run memory = (.error cause, memory) := by
  rw [run_operation, passed]
  simp only [failed]

namespace Shared

/-- What a visit comes to. A new user and a new unit of work have no deadline: they wait as long as
a unit of work is held. -/
def visit (shared : Shared Memory) : Visit → Answer × Shared Memory
  | .command limitMs command => (shared.run limitMs command.operation).map .number id
  | .getPeriod limitMs period => (shared.run limitMs (Wagebook.getPeriod period)).map .period id
  | .getReport limitMs period => (shared.run limitMs (Wagebook.getReport period)).map .report id
  | .getPayslips limitMs user => (shared.run limitMs (Wagebook.getPayslips user)).map .payslips id
  | .findUser limitMs username => (shared.run limitMs (Wagebook.findUser username)).map .user id
  | .addUser now username passwordHash salary isAdmin =>
      match shared.held with
      | some _ => (.nothing, shared)
      | none => (.added shared.store.tables.nextId,
          { shared with store := shared.store.addUser now username passwordHash salary isAdmin })
  | .switch switches => (.nothing, { shared with store.switches := switches })
  | .begin =>
      match shared.held with
      | some _ => (.nothing, shared)
      | none => shared.begin.map .ended id
  | .ask call =>
      match shared.work (.ask call .done) with
      | none => (.nothing, shared)
      | some (reply, shared) => (.reply call reply, shared)
  | .commit => shared.commit.map .ended id
  | .rollback => (.nothing, shared.rollback)

/-- The visits of a session, each with its answer. -/
def session (shared : Shared Memory) : List Visit → List (Visit × Answer)
  | [] => []
  | visit :: visits => (visit, (shared.visit visit).1) :: (shared.visit visit).2.session visits

/-- The visits of a session whose operations have not failed. -/
def successes (shared : Shared Memory) (visits : List Visit) : List (Visit × Answer) :=
  (shared.session visits).filter fun entry => !entry.2.isFailure

def after (shared : Shared Memory) (visits : List Visit) : Shared Memory :=
  visits.foldl (fun shared visit => (shared.visit visit).2) shared

variable {shared shared' : Shared Memory}

/-- While a unit of work is held, an operation that gets past its check waits until it is given
up. -/
theorem run_of_held (held : shared.held = some copy) {operation : Operation α}
    (passed : operation.check = .ok ()) (limitMs : Nat) :
    shared.run limitMs operation = (.error .timeout, shared) := by
  unfold run
  rw [passed, held]
  rfl

theorem run_of_free (free : shared.held = none) (operation : Operation α) (limitMs : Nat) :
    shared.run limitMs operation =
      ((operation.run shared.store).1,
        { shared with store := (operation.run shared.store).2 }) := by
  unfold run
  rw [free]
  cases operation.check <;> rfl

theorem run_of_refused {operation : Operation α} (refused : operation.check = .error cause)
    (limitMs : Nat) : shared.run limitMs operation = (.error cause, shared) := by
  unfold run
  simp only [refused, Operation.run]
  rfl

/-- An operation that fails leaves the store as it was, and the unit of work that is held. -/
theorem run_error {operation : Operation α}
    (h : shared.run limitMs operation = (.error cause, shared')) : shared' = shared := by
  cases checked : operation.check with
  | error refusal =>
      rw [run_of_refused checked] at h
      cases h
      rfl
  | ok passed =>
      cases held : shared.held with
      | some copy =>
          rw [run_of_held held checked] at h
          cases h
          rfl
      | none =>
          rw [run_of_free held, Prod.mk.injEq] at h
          obtain ⟨failed, rfl⟩ := h
          have kept : (operation.run shared.store).2 = shared.store :=
            Memory.run_error (Prod.ext failed rfl)
          rw [kept]

/-- The answer to an operation, of whatever kind it is, tells of its failure. -/
theorem map_run_failure {operation : Operation α} {answer : Except PayrollError α → Answer}
    (fine : ∀ a, (answer (.ok a)).isFailure = false)
    (h : ((shared.run limitMs operation).map answer id).1.isFailure = true) :
    ((shared.run limitMs operation).map answer id).2 = shared := by
  cases ran : shared.run limitMs operation with
  | mk result shared' =>
      cases result with
      | error cause => exact run_error ran
      | ok a =>
          rw [ran] at h
          cases (fine a).symm.trans h

theorem visit_failure {visit : Visit} (h : (shared.visit visit).1.isFailure = true) :
    (shared.visit visit).2 = shared := by
  cases visit with
  | command limitMs command => exact map_run_failure (fun _ => rfl) h
  | getPeriod limitMs period => exact map_run_failure (fun _ => rfl) h
  | getReport limitMs period => exact map_run_failure (fun _ => rfl) h
  | getPayslips limitMs user => exact map_run_failure (fun _ => rfl) h
  | findUser limitMs username => exact map_run_failure (fun _ => rfl) h
  | addUser now username passwordHash salary isAdmin =>
      simp only [visit] at h
      split at h <;> cases h
  | switch switches => cases h
  | begin =>
      simp only [visit] at h
      split at h <;> cases h
  | ask call =>
      simp only [visit] at h
      split at h <;> cases h
  | commit => cases h
  | rollback => cases h

/-- A session without its failures goes as it went with them. -/
theorem session_successes (shared : Shared Memory) (visits : List Visit) :
    shared.session ((shared.successes visits).map (·.1)) = shared.successes visits ∧
      shared.after ((shared.successes visits).map (·.1)) = shared.after visits := by
  induction visits generalizing shared with
  | nil => exact ⟨rfl, rfl⟩
  | cons visit visits ih =>
      obtain ⟨same, last⟩ := ih (shared.visit visit).2
      cases failed : (shared.visit visit).1.isFailure with
      | true =>
          have struck : shared.successes (visit :: visits) = shared.successes visits := by
            simp [successes, session, failed, visit_failure failed]
          rw [visit_failure failed] at same last
          rw [struck]
          refine ⟨same, ?_⟩
          rw [last, after, after, List.foldl_cons, visit_failure failed]
      | false =>
          have kept : shared.successes (visit :: visits) =
              (visit, (shared.visit visit).1) :: (shared.visit visit).2.successes visits := by
            simp [successes, session, failed]
          rw [kept]
          exact ⟨congrArg _ same, last⟩

/-- A command that fails changes nothing, whatever its unit of work has written by then, and neither
does one that gives up waiting for the unit of work. So whatever is asked later is answered as if
the command had not been run. -/
theorem failures_leave_no_trace (shared : Shared Memory) :
    (∀ (command : Command) cause store,
      command.operation.run shared.store = (.error cause, store) → store = shared.store) ∧
    (∀ (command : Command) cause written, command.operation.check = .ok () →
      command.operation.work.run (Memory.answer shared.store.switches) shared.store.tables =
        (.error cause, written) →
      command.operation.run shared.store = (.error cause, shared.store)) ∧
    (∀ (command : Command) limitMs cause shared',
      shared.run limitMs command.operation = (.error cause, shared') → shared' = shared) ∧
    (∀ (command : Command) limitMs copy, shared.held = some copy →
      command.operation.check = .ok () →
      shared.run limitMs command.operation = (.error .timeout, shared)) ∧
    (∀ visit later, (shared.visit visit).1.isFailure = true →
      shared.session (visit :: later) = (visit, (shared.visit visit).1) :: shared.session later ∧
      shared.after (visit :: later) = shared.after later) ∧
    ∀ visits, shared.session ((shared.successes visits).map (·.1)) = shared.successes visits ∧
      shared.after ((shared.successes visits).map (·.1)) = shared.after visits := by
  refine ⟨fun command cause store => Memory.run_error,
    fun command cause written => Memory.run_of_work_error,
    fun command limitMs cause shared' => run_error,
    fun command limitMs copy held passed => run_of_held held passed limitMs,
    fun visit later failed => ?_, shared.session_successes⟩
  have kept := visit_failure failed
  constructor
  · rw [session, kept]
  · rw [after, List.foldl_cons, kept, after]

end Shared

/-- A run that collides has written the payslips before the collision, in its unit of work. -/
theorem Memory.work_runPayroll_taken {memory : Memory} {window : Period}
    {drafts : List Payslip.Draft} {written : Tables}
    (unseen : memory.seesPayslips period = false)
    (known : memory.tables.period? period = some window) (days : 0 < window.workingDays)
    (computed : (memory.tables.tallies period).mapM
      (Payslip.compute · period window.workingDays now.toMicros) = .ok drafts)
    (taken : insertPayslips drafts memory.tables = (.error (.uniqueViolation text), written)) :
    (runPayroll now period actor).work.run (answer memory.switches) memory.tables =
      (.error (.alreadyProcessed period), written) := by
  unfold seesPayslips at unseen
  change Step.onTables memory.switches memory.tables (runPayroll now period actor).work = _
  simp only [runPayroll, Operation.writing, Step.onTables_lockPeriod, Step.onTables_payslipsExist,
    unseen, known, Bool.false_eq_true, if_false]
  simp [Int.not_le.mpr days, computed, taken]

/-- The week is paid to Ann, but not to the other user, who is no admin here, and lookups do not see
her payslip. A run gets half way. -/
def Memory.halfPaidWeek : Memory :=
  let week := (after Event.week).tables
  { tables := { week with
      users := week.users.map ({ · with isAdmin := false })
      payslips := [Payslip.ofWeek]
      lastId := 9 }
    switches := { hidden := [.payslips] } }

theorem Memory.tallies_halfPaidWeek :
    halfPaidWeek.tables.tallies 3 = [⟨1, 0, 0, 0, 0⟩, ⟨2, 700, 1, 0, 30⟩] := by
  rw [Tables.tallies, List.mergeSort_of_pairwise (by decide)]
  rfl

theorem Memory.half_payroll_leaves_no_trace :
    let run := Command.runPayroll .payday 3 ⟨1, 13⟩
    let written := run.operation.work.run (answer halfPaidWeek.switches) halfPaidWeek.tables
    let free : Shared Memory := { store := halfPaidWeek }
    let held := free.begin.2
    (written.1 = .error (.alreadyProcessed 3) ∧ written.2.payslips.length = 2 ∧
      written.2.lastId = 10) ∧
    run.operation.run halfPaidWeek = (.error (.alreadyProcessed 3), halfPaidWeek) ∧
    (∀ later, free.session (.command 15 run :: later) =
      (.command 15 run, .number (.error (.alreadyProcessed 3))) :: free.session later) ∧
    held.held.isSome ∧ held.run 15 run.operation = (.error .timeout, held) := by
  intro run written free held
  have half : written = (.error (.alreadyProcessed 3), halfPaidWeek.tables.addPayslip
      ⟨1, 3, 0, 7, 0, 0, 0, 0, 0, 0, .payday⟩) := by
    apply work_runPayroll_taken rfl rfl (by decide)
    · rw [tallies_halfPaidWeek]
      rfl
    · rfl
  obtain ⟨-, rolled, -, -, visits, -⟩ := Shared.failures_leave_no_trace free
  have ran := rolled run _ _ rfl half
  have answered : (free.visit (.command 15 run)).1 = .number (.error (.alreadyProcessed 3)) := by
    rw [Shared.visit, Shared.run_of_free rfl, ran]
    rfl
  refine ⟨?_, ran, fun later => ?_, rfl, ?_⟩
  · rw [half]
    exact ⟨rfl, rfl, rfl⟩
  · rw [(visits (.command 15 run) later (by rw [answered]; rfl)).1, answered]
  · exact (Shared.failures_leave_no_trace held).2.2.2.1 run 15 _ rfl rfl

end Wagebook
