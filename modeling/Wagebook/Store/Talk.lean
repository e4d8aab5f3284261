import Wagebook.Store.Basic
import Wagebook.Store.Row
import Wagebook.Store.Server

/-!
A store on a database server: each call is a statement or more, and the results are believed as they
come.
-/

namespace Wagebook

namespace Talk

open Server

def decoded (decode : List Cell → Option α) (row : List Cell) : Talk α :=
  match decode row with
  | some a => return a
  | none => throw (.database (.unexpectedData "a row does not have the columns of its query"))

/-- Sends an insert of one row, and answers the id of the row. -/
def insert (statement : Statement) : Talk Nat := return (← send statement).insertId

def rows (decode : List Cell → Option α) (query : Statement) : Talk (List α) := do
  (← send query).found.mapM (decoded decode)

def row? (decode : List Cell → Option α) (query : Statement) : Talk (Option α) := do
  match (← send query).found with
  | [] => return none
  | row :: _ => some <$> decoded decode row

/-- The first row of a query that always has one. -/
def row (decode : List Cell → Option α) (query : Statement) : Talk α := do
  match (← send query).found with
  | [] => throw (.database .noRow)
  | row :: _ => decoded decode row

def periodInsert (d : Period.Draft) : Statement :=
  .insert "attendance_periods"
    ["start_date", "end_date", "is_processed", "created_at", "updated_at"]
    [[.ofDate d.first, .ofDate d.last, .word "FALSE", .ofStamp d.createdAt, .ofStamp d.createdAt]]

def insertPeriod (d : Period.Draft) : Talk Nat := insert (periodInsert d)

def periodText : String :=
  "SELECT id, start_date, end_date, is_processed, created_at, updated_at " ++
  "FROM attendance_periods WHERE id = ?"

def periodQuery (id : Nat) : Statement := .query periodText [.int id]

/-- As `periodQuery`, and locks the row. -/
def periodLock (id : Nat) : Statement := .query (periodText ++ " FOR UPDATE") [.int id]

def getPeriod (id : Nat) : Talk (Option Period) := row? Row.period? (periodQuery id)

def lockPeriod (id : Nat) : Talk (Option Period) := row? Row.period? (periodLock id)

def attendanceInsert (d : Attendance.Draft) : Statement :=
  .insert "attendances" ["user_id", "period_id", "date", "created_at", "updated_at"]
    [[.ofNat d.user, .ofNat d.period, .ofDate d.date, .ofStamp d.createdAt, .ofStamp d.createdAt]]

def insertAttendance (d : Attendance.Draft) : Talk Nat := insert (attendanceInsert d)

def attendanceQuery (user period : Nat) (date : Date) : Statement :=
  .query
    ("SELECT id, user_id, period_id, date, created_at, updated_at FROM attendances " ++
      "WHERE user_id = ? AND period_id = ? AND date = ?")
    [.int user, .int period, .date date]

def getAttendance (user period : Nat) (date : Date) : Talk (Option Attendance) :=
  row? Row.attendance? (attendanceQuery user period date)

/-- Groups the facts of a period by user, and joins the groups to the employees. -/
def talliesText : String :=
  "WITH attendance_count AS ( SELECT user_id, COUNT(*) AS present_days FROM attendances " ++
  "WHERE period_id = ? GROUP BY user_id ), " ++
  "overtime_sum AS ( SELECT user_id, SUM(hours) AS overtime_hours FROM overtimes " ++
  "WHERE period_id = ? GROUP BY user_id ), " ++
  "reimbursement_sum AS ( SELECT user_id, SUM(amount) AS reimbursement_total FROM reimbursements " ++
  "WHERE period_id = ? GROUP BY user_id ) " ++
  "SELECT u.id AS user_id, u.salary AS base_salary, " ++
  "CAST(COALESCE(a.present_days, 0) AS SIGNED) AS present_days, " ++
  "CAST(COALESCE(o.overtime_hours, 0) AS SIGNED) AS overtime_hours, " ++
  "CAST(COALESCE(r.reimbursement_total, 0) AS SIGNED) AS reimbursement_total " ++
  "FROM users u LEFT JOIN attendance_count a ON a.user_id = u.id " ++
  "LEFT JOIN overtime_sum o ON o.user_id = u.id " ++
  "LEFT JOIN reimbursement_sum r ON r.user_id = u.id " ++
  "WHERE u.is_admin = FALSE ORDER BY u.id"

def talliesQuery (period : Nat) : Statement :=
  .query talliesText [.int period, .int period, .int period]

def tallies (period : Nat) : Talk (List Tally) := rows Row.tally? (talliesQuery period)

def overtimeInsert (d : Overtime.Draft) : Statement :=
  .insert "overtimes" ["user_id", "period_id", "date", "hours", "created_at", "updated_at"]
    [[.ofNat d.user, .ofNat d.period, .ofDate d.date, .ofInt d.hours, .ofStamp d.createdAt,
      .ofStamp d.createdAt]]

def insertOvertime (d : Overtime.Draft) : Talk Nat := insert (overtimeInsert d)

def overtimeQuery (user period : Nat) (date : Date) : Statement :=
  .query
    ("SELECT id, user_id, period_id, date, hours, created_at, updated_at FROM overtimes " ++
      "WHERE user_id = ? AND period_id = ? AND date = ?")
    [.int user, .int period, .date date]

def getOvertime (user period : Nat) (date : Date) : Talk (Option Overtime) :=
  row? Row.overtime? (overtimeQuery user period date)

def reimbursementInsert (d : Reimbursement.Draft) : Statement :=
  .insert "reimbursements"
    ["user_id", "period_id", "amount", "description", "created_at", "updated_at"]
    [[.ofNat d.user, .ofNat d.period, .ofInt d.amount, .ofText d.description,
      .ofStamp d.createdAt, .ofStamp d.createdAt]]

def insertReimbursement (d : Reimbursement.Draft) : Talk Nat := insert (reimbursementInsert d)

def payslipsExistQuery (period : Nat) : Statement :=
  .query "SELECT EXISTS(SELECT 1 FROM payslips WHERE period_id = ?)" [.int period]

def payslipsExist (period : Nat) : Talk Bool :=
  return (← row Row.int? (payslipsExistQuery period)) ≠ 0

/-- The most rows that one insert carries; a server limits the values of a statement. -/
def chunkSize : Nat := 1000

def payslipColumns : List String :=
  ["user_id", "period_id", "base_salary", "working_days", "present_days", "attendance_amount",
    "overtime_hours", "overtime_amount", "reimbursement_total", "take_home_pay", "created_at",
    "updated_at"]

def payslipRow (d : Payslip.Draft) : List Place :=
  [.ofNat d.user, .ofNat d.period, .ofInt d.baseSalary, .ofInt d.workingDays, .ofInt d.presentDays,
    .ofInt d.attendanceAmount, .ofInt d.overtimeHours, .ofInt d.overtimeAmount,
    .ofInt d.reimbursementTotal, .ofInt d.takeHomePay, .ofStamp d.createdAt, .ofStamp d.createdAt]

def payslipInsert (chunk : List Payslip.Draft) : Statement :=
  .insert "payslips" payslipColumns (chunk.map payslipRow)

def chunks (size : Nat) (xs : List α) : List (List α) :=
  if _h : xs.length = 0 ∨ size = 0 then []
  else xs.take size :: chunks size (xs.drop size)
termination_by xs.length
decreasing_by
  simp only [List.length_drop]
  omega

/-- Sends each chunk as one insert, and adds up the rows that the server says it wrote. -/
def insertChunks : List (List Payslip.Draft) → Talk Nat
  | [] => return 0
  | chunk :: rest => do
    let reply ← send (payslipInsert chunk)
    return reply.affected + (← insertChunks rest)

def insertPayslips (drafts : List Payslip.Draft) : Talk Nat :=
  insertChunks (chunks chunkSize drafts)

def payslipsQuery (user : Nat) : Statement :=
  .query
    ("SELECT id, user_id, period_id, base_salary, working_days, present_days, " ++
      "attendance_amount, overtime_hours, overtime_amount, reimbursement_total, take_home_pay, " ++
      "created_at, updated_at FROM payslips WHERE user_id = ? ORDER BY period_id")
    [.int user]

def payslipsOf (user : Nat) : Talk (List Payslip) := rows Row.payslip? (payslipsQuery user)

def userTotalsQuery (period : Nat) : Statement :=
  .query
    ("SELECT user_id, CAST(SUM(take_home_pay) AS SIGNED) AS total_take_home FROM payslips " ++
      "WHERE period_id = ? GROUP BY user_id ORDER BY user_id")
    [.int period]

def totalQuery (period : Nat) : Statement :=
  .query "SELECT CAST(COALESCE(SUM(take_home_pay), 0) AS SIGNED) FROM payslips WHERE period_id = ?"
    [.int period]

/-- Two queries: what each user takes home, and what all do. -/
def report (period : Nat) : Talk Report := do
  let perUser ← rows Row.userTotal? (userTotalsQuery period)
  let total ← row Row.int? (totalQuery period)
  return { perUser, total }

def requestInsert (d : RequestEntry.Draft) : Statement :=
  .insert "request_logs" ["url", "method", "ip_address", "created_at"]
    [[.ofText d.url, .ofText d.method, .ofText d.ipAddress, .ofStamp d.createdAt]]

def insertRequestEntry (d : RequestEntry.Draft) : Talk Nat := insert (requestInsert d)

def auditInsert (d : AuditEntry.Draft) : Statement :=
  .insert "audit_logs"
    ["table_name", "record_id", "action", "old_data", "new_data", "changed_by", "request_id",
      "created_at"]
    [[.ofText d.table.name, .ofNat d.recordId, .ofText d.action.name, .bound (.json d.oldData),
      .bound (.json d.newData), .ofOption .ofNat d.changedBy, .ofOption .ofNat d.request,
      .ofStamp d.createdAt]]

def insertAuditEntry (d : AuditEntry.Draft) : Talk Nat := insert (auditInsert d)

/-- The newest user of a name. -/
def userQuery (username : String) : Statement :=
  .query
    ("SELECT id, username, password_hash, full_name, salary, is_admin, created_at, updated_at " ++
      "FROM users WHERE username = ? ORDER BY created_at DESC LIMIT 1")
    [.text username]

def getUser (username : String) : Talk (Option User) := row? Row.user? (userQuery username)

def answer : (call : Call) → Talk call.Reply
  | .insertPeriod draft => insertPeriod draft
  | .getPeriod id => getPeriod id
  | .lockPeriod id => lockPeriod id
  | .insertAttendance draft => insertAttendance draft
  | .getAttendance user period date => getAttendance user period date
  | .tallies period => tallies period
  | .insertOvertime draft => insertOvertime draft
  | .getOvertime user period date => getOvertime user period date
  | .insertReimbursement draft => insertReimbursement draft
  | .payslipsExist period => payslipsExist period
  | .insertPayslips drafts => insertPayslips drafts
  | .payslipsOf user => payslipsOf user
  | .report period => report period
  | .insertRequestEntry draft => insertRequestEntry draft
  | .insertAuditEntry draft => insertAuditEntry draft
  | .getUser username => getUser username

def ping : Talk Unit := do
  let _ ← send (.query "SELECT 1" [])

end Talk

instance : Store Server where
  Held := Unit
  begin := Server.begin
  answer call
    | (server, ()) =>
      let (reply, server) := (Talk.answer call).run server
      (reply, server, ())
  commit unit := unit.1.commit
  drop unit := unit.1.rollback
  ping server := Talk.ping.run server

end Wagebook
