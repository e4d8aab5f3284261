import Wagebook.Attendance
import Wagebook.Audit
import Wagebook.Overtime
import Wagebook.Payslip
import Wagebook.Period
import Wagebook.PayrollError
import Wagebook.Reimbursement
import Wagebook.User

/-!
Work on a store, one call at a time. A piece of work does not know which store answers it: the
tables in memory and the database server both interpret the same calls.
-/

namespace Wagebook

inductive Call
  | insertPeriod (draft : Period.Draft)
  | getPeriod (id : Nat)
  /-- As `getPeriod`, and holds the period for writing until the unit of work ends. -/
  | lockPeriod (id : Nat)
  | insertAttendance (draft : Attendance.Draft)
  | getAttendance (user period : Nat) (date : Date)
  /-- What each employee has handed in for a period, in the order of their ids. -/
  | tallies (period : Nat)
  | insertOvertime (draft : Overtime.Draft)
  | getOvertime (user period : Nat) (date : Date)
  | insertReimbursement (draft : Reimbursement.Draft)
  | payslipsExist (period : Nat)
  /-- Answers how many payslips were written. -/
  | insertPayslips (drafts : List Payslip.Draft)
  | payslipsOf (user : Nat)
  | report (period : Nat)
  | insertRequestEntry (draft : RequestEntry.Draft)
  | insertAuditEntry (draft : AuditEntry.Draft)
  | getUser (username : String)

namespace Call

abbrev Reply : Call → Type
  | .insertPeriod _ => Nat
  | .getPeriod _ => Option Period
  | .lockPeriod _ => Option Period
  | .insertAttendance _ => Nat
  | .getAttendance _ _ _ => Option Attendance
  | .tallies _ => List Tally
  | .insertOvertime _ => Nat
  | .getOvertime _ _ _ => Option Overtime
  | .insertReimbursement _ => Nat
  | .payslipsExist _ => Bool
  | .insertPayslips _ => Nat
  | .payslipsOf _ => List Payslip
  | .report _ => Report
  | .insertRequestEntry _ => Nat
  | .insertAuditEntry _ => Nat
  | .getUser _ => Option User

end Call

/-- Calls on a unit of work, each chosen by the replies before it, and a result. -/
inductive Work (α : Type)
  | done (result : α)
  | ask (call : Call) (next : Except StoreError call.Reply → Work α)

namespace Work

def bind : Work α → (α → Work β) → Work β
  | .done a, f => f a
  | .ask call next, f => .ask call fun reply => (next reply).bind f

instance : Monad Work where
  pure := .done
  bind := bind

/-- Lets `answer` reply to the calls, passing on its state from one to the next. -/
def run (answer : (call : Call) → σ → Except StoreError call.Reply × σ) : Work α → σ → α × σ
  | .done a, s => (a, s)
  | .ask call next, s => (next (answer call s).1).run answer (answer call s).2

end Work

abbrev Step := ExceptT PayrollError Work

namespace Step

def ask (call : Call) : Step call.Reply :=
  Work.ask call fun reply => .done (reply.mapError .store)

/-- A call that reports a collision with a unique key as `conflict`. -/
def askUnless (conflict : PayrollError) (call : Call) : Step call.Reply :=
  Work.ask call fun reply => .done <| reply.mapError fun
    | .uniqueViolation _ => conflict
    | cause => .store cause

def audit (table : AuditTable) (recordId : Nat) (record : Json) (actor : Actor) (now : Stamp) :
    Step Nat :=
  ask (.insertAuditEntry (AuditEntry.created table recordId record actor now))

end Step

/-- One operation: a check before anything is opened, work in one unit of work, and whether that
unit is committed when the work succeeds. -/
structure Operation (α : Type) where
  check : Except PayrollError Unit
  work : Work (Except PayrollError α)
  commits : Bool

namespace Operation

def writing (step : Step α) : Operation α := ⟨.ok (), step, true⟩

def reading (step : Step α) : Operation α := ⟨.ok (), step, false⟩

end Operation
end Wagebook
