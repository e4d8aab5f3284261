import Wagebook.Store.Basic
import Wagebook.Store.Tables

/-!
A store in memory. A unit of work changes a copy of the tables, which takes their place when it is
committed. Inserts keep the unique keys; writes can be made to fail and lookups to see nothing, so
that each failure and each race can be played.
-/

namespace Wagebook

/-- Faults that are played. A unit of work keeps those that it began with. -/
structure Switches where
  auditFails : Bool := false
  requestLogFails : Bool := false
  /-- Tables whose rows an existence lookup does not see, as when another unit of work has written
  them but not yet committed. -/
  hidden : List AuditTable := []
  deriving DecidableEq, Repr

structure Memory where
  tables : Tables := {}
  switches : Switches := {}

namespace Memory

def attendanceKey : String := "attendances.uq_attendance_user_period_date"

def overtimeKey : String := "overtimes.uq_overtime_user_period_date"

def payslipKey : String := "payslips.uq_payslip_user_period"

/-- Inserts payslips up to the first that collides with a stored one. -/
def insertPayslips : List Payslip.Draft → Tables → Except StoreError Unit × Tables
  | [], t => (.ok (), t)
  | draft :: drafts, t =>
    if (t.payslip? draft.user draft.period).isSome then (.error (.uniqueViolation payslipKey), t)
    else insertPayslips drafts (t.addPayslip draft)

def answer (switches : Switches) :
    (call : Call) → Tables → Except StoreError call.Reply × Tables
  | .insertPeriod draft, t => (.ok t.nextId, t.addPeriod draft)
  | .getPeriod id, t => (.ok (t.period? id), t)
  | .lockPeriod id, t => (.ok (t.period? id), t)
  | .insertAttendance draft, t =>
    if (t.attendance? draft.user draft.period draft.date).isSome then
      (.error (.uniqueViolation attendanceKey), t)
    else (.ok t.nextId, t.addAttendance draft)
  | .getAttendance user period date, t =>
    (.ok (if switches.hidden.contains .attendances then none else t.attendance? user period date),
      t)
  | .tallies period, t => (.ok (t.tallies period), t)
  | .insertOvertime draft, t =>
    if (t.overtime? draft.user draft.period draft.date).isSome then
      (.error (.uniqueViolation overtimeKey), t)
    else (.ok t.nextId, t.addOvertime draft)
  | .getOvertime user period date, t =>
    (.ok (if switches.hidden.contains .overtimes then none else t.overtime? user period date), t)
  | .insertReimbursement draft, t => (.ok t.nextId, t.addReimbursement draft)
  | .payslipsExist period, t =>
    (.ok (!switches.hidden.contains .payslips && t.payslips.any (·.period = period)), t)
  | .insertPayslips drafts, t =>
    match insertPayslips drafts t with
    | (.error cause, t) => (.error cause, t)
    | (.ok (), t) => (.ok drafts.length, t)
  | .payslipsOf user, t => (.ok (t.payslipsOf user), t)
  | .report period, t => (.ok (t.report period), t)
  | .insertRequestEntry draft, t =>
    if switches.requestLogFails then (.error (.unavailable "request log offline"), t)
    else (.ok t.nextId, t.addRequestEntry draft)
  | .insertAuditEntry draft, t =>
    if switches.auditFails then (.error (.unavailable "audit ledger offline"), t)
    else (.ok t.nextId, t.addAuditEntry draft)
  | .getUser username, t => (.ok (t.user? username), t)

structure WorkingCopy where
  tables : Tables
  switches : Switches

instance : Store Memory where
  Held := WorkingCopy
  begin memory := (.ok ⟨memory.tables, memory.switches⟩, memory)
  answer call
    | (memory, copy) =>
      let (reply, tables) := answer copy.switches call copy.tables
      (reply, memory, { copy with tables })
  commit
    | (memory, copy) => (.ok (), { memory with tables := copy.tables })
  drop
    | (memory, _) => memory
  ping memory := (.ok (), memory)

/-- Puts a user into the tables, from outside every unit of work. The name also serves as the full
name. -/
def addUser (memory : Memory) (now : Stamp) (username passwordHash : String) (salary : Int)
    (isAdmin : Bool) : Memory :=
  { memory with
    tables := memory.tables.addUser
      { id := 0, username, passwordHash, fullName := username, salary, isAdmin
        createdAt := now, updatedAt := now } }

def hide (memory : Memory) (table : AuditTable) : Memory :=
  { memory with switches.hidden := memory.switches.hidden ++ [table] }

end Memory
end Wagebook
