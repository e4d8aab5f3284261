import Wagebook.Operations
import Wagebook.Store.Memory

/-!
Units of work on the tables in memory. While a unit is open only its copy of the tables changes, so
an operation comes down to a function of the tables that it begins with. One that fails leaves no
trace.
-/

namespace Wagebook

theorem Work.run_bind (answer : (call : Call) → σ → Except StoreError call.Reply × σ)
    (work : Work α) (next : α → Work β) (s : σ) :
    (work >>= next).run answer s =
      (next (work.run answer s).1).run answer (work.run answer s).2 := by
  induction work generalizing s with
  | done a => rfl
  | ask call reply ih => exact ih (answer call s).1 (answer call s).2

namespace Memory

/-- A unit of work never writes to the tables that it was begun on. -/
theorem run_copy (work : Work α) (memory : Memory) (copy : WorkingCopy) :
    work.run Store.answer (memory, copy) =
      ((work.run (answer copy.switches) copy.tables).1, memory,
        { copy with tables := (work.run (answer copy.switches) copy.tables).2 }) := by
  induction work generalizing copy with
  | done a => rfl
  | ask call next ih =>
      exact ih (answer copy.switches call copy.tables).1
        { copy with tables := (answer copy.switches call copy.tables).2 }

/-- An operation on a store that is free, as a function of the tables. -/
theorem run_operation (operation : Operation α) (memory : Memory) :
    operation.run memory =
      match operation.check with
      | .error cause => (.error cause, memory)
      | .ok () =>
        match operation.work.run (answer memory.switches) memory.tables with
        | (.error cause, _) => (.error cause, memory)
        | (.ok result, tables) =>
          (.ok result, if operation.commits then { memory with tables } else memory) := by
  unfold Operation.run
  cases operation.check with
  | error cause => rfl
  | ok u =>
      change Operation.close _ _ _ = _
      simp only [run_copy]
      rcases operation.work.run (answer memory.switches) memory.tables with ⟨cause | result, tables⟩
      · rfl
      · cases operation.commits <;> simp [Operation.close, Store.commit, Store.drop]

theorem run_error {operation : Operation α} {memory memory' : Memory} {cause : PayrollError}
    (h : operation.run memory = (.error cause, memory')) : memory' = memory := by
  rw [run_operation] at h
  split at h
  · cases h; rfl
  · split at h
    · cases h; rfl
    · cases h

/-- What only looks changes nothing, whatever it comes to. -/
theorem run_reading (step : Step α) (memory : Memory) :
    ((Operation.reading step).run memory).2 = memory := by
  rw [run_operation]
  simp only [Operation.reading]
  split <;> rfl

end Memory

/-- What a step comes to on tables, and the tables that it leaves. -/
def Step.onTables (switches : Switches) (tables : Tables) (step : Step α) :
    Except PayrollError α × Tables :=
  Work.run (Memory.answer switches) step.run tables

namespace Memory

/-- The end of a unit of work: its tables take the place of the store's if it has succeeded. -/
def settle (memory : Memory) : Except PayrollError α × Tables → Except PayrollError α × Memory
  | (.error cause, _) => (.error cause, memory)
  | (.ok result, tables) => (.ok result, { memory with tables })

@[simp] theorem settle_error (memory : Memory) (cause : PayrollError) (tables : Tables) :
    memory.settle (.error cause, tables) = ((.error cause, memory) : Except _ α × Memory) := rfl

@[simp] theorem settle_ok (memory : Memory) (result : α) (tables : Tables) :
    memory.settle (.ok result, tables) = (.ok result, { memory with tables }) := rfl

@[simp] theorem settle_ite (memory : Memory) (c : Prop) [Decidable c]
    (a b : Except PayrollError α × Tables) :
    memory.settle (if c then a else b) = if c then memory.settle a else memory.settle b :=
  apply_ite memory.settle c a b

theorem run_writing (step : Step α) (memory : Memory) :
    (Operation.writing step).run memory =
      memory.settle (step.onTables memory.switches memory.tables) := by
  rw [run_operation]
  rfl

end Memory

namespace Step

variable (switches : Switches) (tables : Tables)

@[simp] theorem onTables_pure (a : α) :
    (pure a : Step α).onTables switches tables = (.ok a, tables) := rfl

@[simp] theorem onTables_throw (cause : PayrollError) :
    (throw cause : Step α).onTables switches tables = (.error cause, tables) := rfl

@[simp] theorem onTables_throw_bind (cause : PayrollError) (next : α → Step β) :
    (throw cause >>= next).onTables switches tables = (.error cause, tables) := rfl

@[simp] theorem onTables_ite (c : Prop) [Decidable c] (a b : Step α) :
    (if c then a else b).onTables switches tables =
      if c then a.onTables switches tables else b.onTables switches tables :=
  apply_ite (Step.onTables switches tables) c a b

theorem onTables_bind (step : Step α) (next : α → Step β) :
    (step >>= next).onTables switches tables =
      match step.onTables switches tables with
      | (.error cause, tables) => (.error cause, tables)
      | (.ok a, tables) => (next a).onTables switches tables := by
  unfold onTables
  change Work.run _ (ExceptT.run step >>= _) _ = _
  rw [Work.run_bind]
  rcases Work.run (Memory.answer switches) (ExceptT.run step) tables with ⟨cause | a, tables⟩ <;>
    rfl

private theorem mapM_loop_lift (f : α → Except PayrollError β) (as : List α) (bs : List β) :
    List.mapM.loop (fun a => (liftM (f a) : Step β)) as bs =
      (Work.done (List.mapM.loop f as bs) : Step (List β)) := by
  induction as generalizing bs with
  | nil => rfl
  | cons a as ih =>
      simp only [List.mapM.loop]
      cases f a with
      | error cause => rfl
      | ok b => exact ih (b :: bs)

/-- Computing something of each item makes no call, and the first failure counts. -/
theorem mapM_lift (f : α → Except PayrollError β) (as : List α) :
    (as.mapM fun a => (liftM (f a) : Step β)) = (Work.done (as.mapM f) : Step (List β)) :=
  mapM_loop_lift f as []

@[simp] theorem onTables_mapM (f : α → Except PayrollError β) (as : List α)
    (next : List β → Step γ) :
    (as.mapM (fun a => (liftM (f a) : Step β)) >>= next).onTables switches tables =
      match as.mapM f with
      | .error cause => (.error cause, tables)
      | .ok bs => (next bs).onTables switches tables := by
  rw [onTables_bind, mapM_lift]
  cases as.mapM f <;> rfl

/-! Lookups answer from the tables and leave them as they are. -/

@[simp] theorem onTables_getPeriod (id : Nat) (next : Option Period → Step β) :
    (@bind Step _ (Option Period) β (ask (.getPeriod id)) next).onTables switches tables =
      (next (tables.period? id)).onTables switches tables := rfl

@[simp] theorem onTables_lockPeriod (id : Nat) (next : Option Period → Step β) :
    (@bind Step _ (Option Period) β (ask (.lockPeriod id)) next).onTables switches tables =
      (next (tables.period? id)).onTables switches tables := rfl

@[simp] theorem onTables_getAttendance (user period : Nat) (date : Date)
    (next : Option Attendance → Step β) :
    (@bind Step _ (Option Attendance) β (ask (.getAttendance user period date)) next).onTables
        switches tables =
      (next (if switches.hidden.contains .attendances then none
        else tables.attendance? user period date)).onTables switches tables := rfl

@[simp] theorem onTables_getOvertime (user period : Nat) (date : Date)
    (next : Option Overtime → Step β) :
    (@bind Step _ (Option Overtime) β (ask (.getOvertime user period date)) next).onTables
        switches tables =
      (next (if switches.hidden.contains .overtimes then none
        else tables.overtime? user period date)).onTables switches tables := rfl

@[simp] theorem onTables_payslipsExist (period : Nat) (next : Bool → Step β) :
    (@bind Step _ Bool β (ask (.payslipsExist period)) next).onTables switches tables =
      (next (!switches.hidden.contains .payslips &&
        tables.payslips.any (·.period = period))).onTables switches tables := rfl

@[simp] theorem onTables_tallies (period : Nat) (next : List Tally → Step β) :
    (@bind Step _ (List Tally) β (ask (.tallies period)) next).onTables switches tables =
      (next (tables.tallies period)).onTables switches tables := rfl

/-! Inserts draw the next id, and collide with what is stored under their key. -/

@[simp] theorem onTables_insertPeriod (draft : Period.Draft) (next : Nat → Step β) :
    (@bind Step _ Nat β (ask (.insertPeriod draft)) next).onTables switches tables =
      (next tables.nextId).onTables switches (tables.addPeriod draft) := rfl

@[simp] theorem onTables_insertReimbursement (draft : Reimbursement.Draft) (next : Nat → Step β) :
    (@bind Step _ Nat β (ask (.insertReimbursement draft)) next).onTables switches tables =
      (next tables.nextId).onTables switches (tables.addReimbursement draft) := rfl

@[simp] theorem onTables_insertAttendance (conflict : PayrollError) (draft : Attendance.Draft)
    (next : Nat → Step β) :
    (@bind Step _ Nat β (askUnless conflict (.insertAttendance draft)) next).onTables
        switches tables =
      if (tables.attendance? draft.user draft.period draft.date).isSome then
        (.error conflict, tables)
      else (next tables.nextId).onTables switches (tables.addAttendance draft) := by
  unfold onTables
  change Work.run _ (.ask _ _) _ = _
  simp only [Work.run, Memory.answer]
  split <;> rfl

@[simp] theorem onTables_insertOvertime (conflict : PayrollError) (draft : Overtime.Draft)
    (next : Nat → Step β) :
    (@bind Step _ Nat β (askUnless conflict (.insertOvertime draft)) next).onTables
        switches tables =
      if (tables.overtime? draft.user draft.period draft.date).isSome then
        (.error conflict, tables)
      else (next tables.nextId).onTables switches (tables.addOvertime draft) := by
  unfold onTables
  change Work.run _ (.ask _ _) _ = _
  simp only [Work.run, Memory.answer]
  split <;> rfl

/-- A collision in the middle of a batch ends it there. -/
@[simp] theorem onTables_insertPayslips (conflict : PayrollError) (drafts : List Payslip.Draft)
    (next : Nat → Step β) :
    (@bind Step _ Nat β (askUnless conflict (.insertPayslips drafts)) next).onTables
        switches tables =
      match Memory.insertPayslips drafts tables with
      | (.error (.uniqueViolation _), tables) => (.error conflict, tables)
      | (.error cause, tables) => (.error (.store cause), tables)
      | (.ok (), tables) => (next drafts.length).onTables switches tables := by
  unfold onTables
  change Work.run _ (.ask _ _) _ = _
  simp only [Work.run, Memory.answer]
  rcases Memory.insertPayslips drafts tables with ⟨cause | u, tables⟩
  · cases cause <;> rfl
  · rfl

@[simp] theorem onTables_audit (table : AuditTable) (recordId : Nat) (record : Json) (actor : Actor)
    (now : Stamp) (next : Nat → Step β) :
    (audit table recordId record actor now >>= next).onTables switches tables =
      if switches.auditFails then
        (.error (.store (.unavailable "audit ledger offline")), tables)
      else
        (next tables.nextId).onTables switches
          (tables.addAuditEntry (AuditEntry.created table recordId record actor now)) := by
  unfold onTables audit
  change Work.run _ (.ask _ _) _ = _
  simp only [Work.run, Memory.answer]
  split <;> rfl

@[simp] theorem onTables_insertRequestEntry (draft : RequestEntry.Draft) :
    @onTables Nat switches tables (ask (.insertRequestEntry draft)) =
      if switches.requestLogFails then
        (.error (.store (.unavailable "request log offline")), tables)
      else (.ok tables.nextId, tables.addRequestEntry draft) := by
  unfold onTables
  change Work.run _ (.ask _ _) _ = _
  simp only [Work.run, Memory.answer]
  split <;> rfl

end Step
end Wagebook
