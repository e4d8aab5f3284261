import Wagebook.Proofs.Payslips

/-!
The audit trail: what an entry tells of the change that it was booked with, and how the tables are
put back from the entries. Rows and entries stand in the same order, one for one.
-/

namespace Wagebook

/-- The audited records, without users, logs and the counter. -/
def Tables.records (t : Tables) : Tables where
  periods := t.periods
  attendances := t.attendances
  overtimes := t.overtimes
  reimbursements := t.reimbursements
  payslips := t.payslips

/-- Puts back what an entry tells of. The payslips of a run have the ids just below that of the
entry. -/
def AuditEntry.restore (e : AuditEntry) (t : Tables) : Option Tables :=
  match e.table with
  | .attendancePeriods => (Period.ofJson? e.newData).map fun row =>
      { t with periods := t.periods ++ [row] }
  | .attendances => (Attendance.ofJson? e.newData).map fun row =>
      { t with attendances := t.attendances ++ [row] }
  | .overtimes => (Overtime.ofJson? e.newData).map fun row =>
      { t with overtimes := t.overtimes ++ [row] }
  | .reimbursements => (Reimbursement.ofJson? e.newData).map fun row =>
      { t with reimbursements := t.reimbursements ++ [row] }
  | .payslips => (e.newData.list? Payslip.Draft.ofJson?).map fun drafts =>
      { t with payslips := t.payslips ++ Payslip.storedFrom (e.id - drafts.length) drafts }

namespace AuditEntry

variable {e : AuditEntry} (t : Tables)

theorem restore_period (table : e.table = .attendancePeriods)
    (decoded : Period.ofJson? e.newData = some row) :
    e.restore t = some { t with periods := t.periods ++ [row] } := by
  simp only [restore, table, decoded, Option.map_some]

theorem restore_attendance (table : e.table = .attendances)
    (decoded : Attendance.ofJson? e.newData = some row) :
    e.restore t = some { t with attendances := t.attendances ++ [row] } := by
  simp only [restore, table, decoded, Option.map_some]

theorem restore_overtime (table : e.table = .overtimes)
    (decoded : Overtime.ofJson? e.newData = some row) :
    e.restore t = some { t with overtimes := t.overtimes ++ [row] } := by
  simp only [restore, table, decoded, Option.map_some]

theorem restore_reimbursement (table : e.table = .reimbursements)
    (decoded : Reimbursement.ofJson? e.newData = some row) :
    e.restore t = some { t with reimbursements := t.reimbursements ++ [row] } := by
  simp only [restore, table, decoded, Option.map_some]

theorem restore_payslips (table : e.table = .payslips)
    (decoded : e.newData.list? Payslip.Draft.ofJson? = some drafts) :
    e.restore t = some
      { t with payslips := t.payslips ++ Payslip.storedFrom (e.id - drafts.length) drafts } := by
  simp only [restore, table, decoded, Option.map_some]

end AuditEntry

def Tables.replay (entries : List AuditEntry) : Option Tables :=
  entries.foldlM (fun t e => e.restore t) {}

theorem Tables.replay_snoc (entries : List AuditEntry) (e : AuditEntry) :
    replay (entries ++ [e]) = (replay entries).bind e.restore := by
  simp [replay, List.foldlM_append]

def Actor.InRange (actor : Actor) : Prop :=
  actor.user < 0x10000000000000000 ∧ actor.request < 0x10000000000000000

namespace Command

def actor? : Command → Option Actor
  | .createPeriod _ _ _ actor => some actor
  | .submitAttendance _ actor _ _ => some actor
  | .submitOvertime _ actor _ _ _ => some actor
  | .submitReimbursement _ actor _ _ _ => some actor
  | .runPayroll _ _ actor => some actor
  | .recordRequest .. => none

/-- The arguments are of the kinds that the operations take: ids and amounts of 64 bits. -/
def InRange : Command → Prop
  | .createPeriod _ _ _ actor => actor.InRange
  | .submitAttendance _ actor _ _ => actor.InRange
  | .submitOvertime _ actor _ _ _ => actor.InRange
  | .submitReimbursement _ actor _ amount _ => actor.InRange ∧ Amount.Fits amount
  | .runPayroll _ _ actor => actor.InRange
  | .recordRequest .. => True

end Command

def Event.InRange : Event → Prop
  | .addUser _ _ _ salary _ => Amount.Fits salary
  | .call command => command.InRange
  | _ => True

/-- The command whose change an event has made, with its answer. Request logs are not audited. -/
def Event.audited (event : Event) (memory : Memory) : List (Command × Nat) :=
  match event with
  | .call command =>
    match (command.operation.run memory).1 with
    | .ok answer => if command.actor?.isSome then [(command, answer)] else []
    | .error _ => []
  | _ => []

/-- An event changes nothing in the tables, adds a user, or writes for a command, and only then
there can be something to audit. -/
theorem Event.audited_cases (event : Event) (memory : Memory) :
    ((event.apply memory).tables = memory.tables ∧ event.audited memory = []) ∨
      (∃ user, (event.apply memory).tables = memory.tables.addUser user ∧
        event.audited memory = [] ∧ (event.InRange → Amount.Fits user.salary)) ∨
      ∃ command answer, Command.Writes memory.tables command answer (event.apply memory).tables ∧
        event.audited memory = (if command.actor?.isSome then [(command, answer)] else []) ∧
        (event.InRange → command.InRange) := by
  cases event with
  | addUser now username passwordHash salary isAdmin => exact .inr (.inl ⟨_, rfl, rfl, id⟩)
  | switch switches => exact .inl ⟨rfl, rfl⟩
  | call command =>
      obtain ⟨cause, failed⟩ | ⟨answer, t, done, writes⟩ := command.run_cases memory
      · exact .inl ⟨by rw [apply, failed], by rw [audited, failed]⟩
      · refine .inr (.inr ⟨command, answer, ?_, by rw [audited, done], id⟩)
        rw [apply, done]
        exact writes
  | getPeriod id => exact .inl ⟨congrArg _ (Memory.run_reading _ memory), rfl⟩
  | getReport period => exact .inl ⟨congrArg _ (Memory.run_reading _ memory), rfl⟩
  | getPayslips user => exact .inl ⟨congrArg _ (Memory.run_reading _ memory), rfl⟩
  | findUser username => exact .inl ⟨congrArg _ (Memory.run_reading _ memory), rfl⟩

def Memory.audited (memory : Memory) : List Event → List (Command × Nat)
  | [] => []
  | event :: events => event.audited memory ++ (event.apply memory).audited events

namespace AuditEntry

/-- The entry tells of the change that a command has made, with `answer` as its answer: it holds the
one stored row of that id, or all the payslips of a run. -/
inductive Tells (t : Tables) (e : AuditEntry) : Command → Nat → Prop
  | period (table : e.table = .attendancePeriods) (record : e.recordId = answer)
      (decoded : Period.ofJson? e.newData =
        some (Period.Draft.stored ⟨first, last, now.toMicros⟩ answer))
      (stored : t.periods.filter (·.id = answer) =
        [Period.Draft.stored ⟨first, last, now.toMicros⟩ answer]) :
      Tells t e (.createPeriod now first last actor) answer
  | attendance (table : e.table = .attendances) (record : e.recordId = answer)
      (decoded : Attendance.ofJson? e.newData =
        some (Attendance.Draft.stored ⟨actor.user, period, date, now.toMicros⟩ answer))
      (stored : t.attendances.filter (·.id = answer) =
        [Attendance.Draft.stored ⟨actor.user, period, date, now.toMicros⟩ answer]) :
      Tells t e (.submitAttendance now actor period date) answer
  | overtime (table : e.table = .overtimes) (record : e.recordId = answer)
      (decoded : Overtime.ofJson? e.newData =
        some (Overtime.Draft.stored ⟨actor.user, period, date, hours, now.toMicros⟩ answer))
      (stored : t.overtimes.filter (·.id = answer) =
        [Overtime.Draft.stored ⟨actor.user, period, date, hours, now.toMicros⟩ answer]) :
      Tells t e (.submitOvertime now actor period date hours) answer
  | reimbursement (table : e.table = .reimbursements) (record : e.recordId = answer)
      (decoded : Reimbursement.ofJson? e.newData = some (Reimbursement.Draft.stored
        ⟨actor.user, period, amount, description, now.toMicros⟩ answer))
      (stored : t.reimbursements.filter (·.id = answer) = [Reimbursement.Draft.stored
        ⟨actor.user, period, amount, description, now.toMicros⟩ answer]) :
      Tells t e (.submitReimbursement now actor period amount description) answer
  | payroll {drafts : List Payslip.Draft} (table : e.table = .payslips) (record : e.recordId = 0)
      (decoded : e.newData.list? Payslip.Draft.ofJson? = some drafts)
      (run : ∀ draft ∈ drafts, draft.period = period)
      (stored : t.payslips.filter (fun p => e.id - drafts.length ≤ p.id ∧ p.id < e.id) =
        Payslip.storedFrom (e.id - drafts.length) drafts) :
      Tells t e (.runPayroll now period actor) drafts.length

/-- The entry creates something, on behalf of an actor. -/
structure Created (e : AuditEntry) (actor : Option Actor) : Prop where
  action : e.action = .create
  oldData : e.oldData = .obj []
  changedBy : e.changedBy = actor.map (·.user)
  request : e.request = actor.map (·.request)

variable {t t' : Tables} {e : AuditEntry}

/-- Later rows have ids beyond what an entry tells of. -/
theorem Tells.grow (h : e.Tells t command answer) (numbered : t.Numbered) (mem : e ∈ t.auditEntries)
    (ext : t.Extends t') : e.Tells t' command answer := by
  have drawn := numbered.auditEntries.le_of_mem mem
  cases h with
  | period table record decoded stored =>
      exact .period table record decoded (ext.periods.filter_id numbered.periods stored)
  | attendance table record decoded stored =>
      exact .attendance table record decoded
        (ext.attendances.filter_id numbered.attendances stored)
  | overtime table record decoded stored =>
      exact .overtime table record decoded (ext.overtimes.filter_id numbered.overtimes stored)
  | reimbursement table record decoded stored =>
      exact .reimbursement table record decoded
        (ext.reimbursements.filter_id numbered.reimbursements stored)
  | @payroll _ _ _ drafts table record decoded run stored =>
      refine .payroll table record decoded run ?_
      rw [ext.payslips.filter_eq (fun p => e.id - drafts.length ≤ p.id ∧ p.id < e.id), stored]
      rintro p ⟨-, before⟩
      exact Nat.le_trans (Nat.le_of_lt before) drawn

def recordIds (entries : List AuditEntry) (table : AuditTable) : List Nat :=
  (entries.filter (·.table = table)).map (·.recordId)

theorem recordIds_snoc (entries : List AuditEntry) (e : AuditEntry) (table : AuditTable) :
    recordIds (entries ++ [e]) table =
      recordIds entries table ++ if e.table = table then [e.recordId] else [] := by
  unfold recordIds
  rw [List.filter_append, List.map_append]
  by_cases same : e.table = table
  · simp [same]
  · simp [same]

end AuditEntry

namespace Tables

open AuditEntry (recordIds recordIds_snoc)

/-- Rows and entries stand in the same order, one for one. -/
structure Listed (t : Tables) : Prop where
  periods : t.periods.map (·.id) = recordIds t.auditEntries .attendancePeriods
  attendances : t.attendances.map (·.id) = recordIds t.auditEntries .attendances
  overtimes : t.overtimes.map (·.id) = recordIds t.auditEntries .overtimes
  reimbursements : t.reimbursements.map (·.id) = recordIds t.auditEntries .reimbursements

/-- The payslip is one of those that some entry tells of. -/
def Listed.payslip (entries : List AuditEntry) (p : Payslip) : Prop :=
  ∃ e ∈ entries, e.table = .payslips ∧ ∃ drafts,
    e.newData.list? Payslip.Draft.ofJson? = some drafts ∧
      p ∈ Payslip.storedFrom (e.id - drafts.length) drafts

theorem Listed.book {t t' : Tables} (h : t.Listed) {e : AuditEntry}
    (entries : t'.auditEntries = t.auditEntries ++ [e])
    (periods : t'.periods.map (·.id) =
      t.periods.map (·.id) ++ if e.table = .attendancePeriods then [e.recordId] else [])
    (attendances : t'.attendances.map (·.id) =
      t.attendances.map (·.id) ++ if e.table = .attendances then [e.recordId] else [])
    (overtimes : t'.overtimes.map (·.id) =
      t.overtimes.map (·.id) ++ if e.table = .overtimes then [e.recordId] else [])
    (reimbursements : t'.reimbursements.map (·.id) =
      t.reimbursements.map (·.id) ++ if e.table = .reimbursements then [e.recordId] else []) :
    t'.Listed where
  periods := by rw [periods, h.periods, entries, recordIds_snoc]
  attendances := by rw [attendances, h.attendances, entries, recordIds_snoc]
  overtimes := by rw [overtimes, h.overtimes, entries, recordIds_snoc]
  reimbursements := by rw [reimbursements, h.reimbursements, entries, recordIds_snoc]

theorem Listed.write {t t' : Tables} (h : t.Listed)
    (writes : Command.Writes t command answer t') : t'.Listed := by
  have same {ids : List Nat} : ids = ids ++ [] := (List.append_nil ids).symm
  cases writes with
  | period => exact h.book rfl List.map_append same same same
  | attendance => exact h.book rfl same List.map_append same same
  | overtime => exact h.book rfl same same List.map_append same
  | reimbursement => exact h.book rfl same same same List.map_append
  | payroll known days computed free =>
      rw [bookPayslips, addPayslips_eq]
      exact h.book rfl same same same same
  | request => exact { h with }

end Tables

theorem Tables.Reachable.listed {t : Tables} (h : t.Reachable) : t.Listed := by
  induction h with
  | empty => exact ⟨rfl, rfl, rfl, rfl⟩
  | addUser reached user ih => exact { ih with }
  | write reached writes ih => exact ih.write writes

end Wagebook
