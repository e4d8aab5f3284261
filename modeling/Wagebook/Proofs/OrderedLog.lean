import Wagebook.Proofs.Growth
import Wagebook.Proofs.Rules

/-!
The tables as one log. Each id that was drawn is that of one row, so the ids of all tables together
are the numbers from one to the last. Rows are put at the ends of tables and stay there as they are,
and no two rows share a key, even where a lookup was made to miss the first.
-/

namespace Wagebook
namespace Tables

/-- The ids of all rows, table by table. -/
def ids (t : Tables) : List Nat :=
  t.users.map (·.id) ++ t.periods.map (·.id) ++ t.attendances.map (·.id) ++
    t.overtimes.map (·.id) ++ t.reimbursements.map (·.id) ++ t.payslips.map (·.id) ++
    t.requestEntries.map (·.id) ++ t.auditEntries.map (·.id)

/-- The ids that were drawn have each gone to one row. -/
def Gapless (t : Tables) : Prop := t.ids.Perm (List.range' 1 t.lastId)

namespace Gapless

variable {t t' : Tables}

theorem empty : Gapless {} := .nil

/-- The next id goes to a row, of whatever table. -/
theorem draw (h : t.Gapless) (last : t'.lastId = t.nextId)
    (row : ∀ id, t'.ids.count id = (t.ids ++ [t.nextId]).count id) : t'.Gapless := by
  have next : 1 + 1 * t.lastId = t.nextId := by
    unfold nextId
    omega
  rw [Gapless, last, nextId, List.range'_concat, next]
  exact (List.perm_iff_count.mpr row).trans (h.append_right _)

theorem addUser (h : t.Gapless) (user : User) : (t.addUser user).Gapless :=
  h.draw rfl fun id => by
    simp only [ids, Tables.addUser, List.map_append, List.map_singleton, List.count_append]
    omega

theorem addPeriod (h : t.Gapless) (draft : Period.Draft) : (t.addPeriod draft).Gapless :=
  h.draw rfl fun id => by
    simp only [ids, Tables.addPeriod, Period.Draft.stored, List.map_append, List.map_singleton,
      List.count_append]
    omega

theorem addAttendance (h : t.Gapless) (draft : Attendance.Draft) :
    (t.addAttendance draft).Gapless :=
  h.draw rfl fun id => by
    simp only [ids, Tables.addAttendance, Attendance.Draft.stored, List.map_append,
      List.map_singleton, List.count_append]
    omega

theorem addOvertime (h : t.Gapless) (draft : Overtime.Draft) : (t.addOvertime draft).Gapless :=
  h.draw rfl fun id => by
    simp only [ids, Tables.addOvertime, Overtime.Draft.stored, List.map_append,
      List.map_singleton, List.count_append]
    omega

theorem addReimbursement (h : t.Gapless) (draft : Reimbursement.Draft) :
    (t.addReimbursement draft).Gapless :=
  h.draw rfl fun id => by
    simp only [ids, Tables.addReimbursement, Reimbursement.Draft.stored, List.map_append,
      List.map_singleton, List.count_append]
    omega

theorem addPayslip (h : t.Gapless) (draft : Payslip.Draft) : (t.addPayslip draft).Gapless :=
  h.draw rfl fun id => by
    simp only [ids, Tables.addPayslip, Payslip.Draft.stored, List.map_append,
      List.map_singleton, List.count_append]
    omega

theorem addPayslips (h : t.Gapless) (drafts : List Payslip.Draft) :
    (t.addPayslips drafts).Gapless := by
  induction drafts generalizing t with
  | nil => exact h
  | cons draft drafts ih => exact ih (h.addPayslip draft)

theorem addRequestEntry (h : t.Gapless) (draft : RequestEntry.Draft) :
    (t.addRequestEntry draft).Gapless :=
  h.draw rfl fun id => by
    simp only [ids, Tables.addRequestEntry, RequestEntry.Draft.stored, List.map_append,
      List.map_singleton, List.count_append]
    omega

theorem addAuditEntry (h : t.Gapless) (draft : AuditEntry.Draft) :
    (t.addAuditEntry draft).Gapless :=
  h.draw rfl fun id => by
    simp only [ids, Tables.addAuditEntry, AuditEntry.Draft.stored, List.map_append,
      List.map_singleton, List.count_append]
    omega

theorem write (h : t.Gapless) (writes : Command.Writes t command result t') : t'.Gapless := by
  cases writes with
  | period => exact (h.addPeriod _).addAuditEntry _
  | attendance => exact (h.addAttendance _).addAuditEntry _
  | overtime => exact (h.addOvertime _).addAuditEntry _
  | reimbursement => exact (h.addReimbursement _).addAuditEntry _
  | payroll => exact (h.addPayslips _).addAuditEntry _
  | request => exact h.addRequestEntry _

theorem nodup (h : t.Gapless) : t.ids.Nodup := h.nodup_iff.mpr List.nodup_range'

theorem mem_ids (h : t.Gapless) {id : Nat} : id ∈ t.ids ↔ 1 ≤ id ∧ id ≤ t.lastId := by
  rw [h.mem_iff, List.mem_range'_1]
  omega

end Gapless

theorem Reachable.gapless {t : Tables} (h : t.Reachable) : t.Gapless := by
  induction h with
  | empty => exact .empty
  | addUser _ user ih => exact ih.addUser user
  | write _ writes ih => exact ih.write writes

/-- A log of rows: an id for each row, ascending ids along each table, and no key twice. -/
structure OrderedLog (t : Tables) : Prop where
  distinct : t.ids.Nodup
  drawn : ∀ id, id ∈ t.ids ↔ 1 ≤ id ∧ id ≤ t.lastId
  users : (t.users.map (·.id)).Pairwise (· < ·)
  periods : (t.periods.map (·.id)).Pairwise (· < ·)
  attendances : (t.attendances.map (·.id)).Pairwise (· < ·)
  overtimes : (t.overtimes.map (·.id)).Pairwise (· < ·)
  reimbursements : (t.reimbursements.map (·.id)).Pairwise (· < ·)
  payslips : (t.payslips.map (·.id)).Pairwise (· < ·)
  requestEntries : (t.requestEntries.map (·.id)).Pairwise (· < ·)
  auditEntries : (t.auditEntries.map (·.id)).Pairwise (· < ·)
  attendanceKeys : (t.attendances.map fun a => (a.user, a.period, a.date)).Nodup
  overtimeKeys : (t.overtimes.map fun o => (o.user, o.period, o.date)).Nodup
  payslipKeys : (t.payslips.map fun p => (p.user, p.period)).Nodup

theorem Reachable.orderedLog {t : Tables} (h : t.Reachable) : t.OrderedLog where
  distinct := h.gapless.nodup
  drawn _ := h.gapless.mem_ids
  users := h.numbered.users.1
  periods := h.numbered.periods.1
  attendances := h.numbered.attendances.1
  overtimes := h.numbered.overtimes.1
  reimbursements := h.numbered.reimbursements.1
  payslips := h.numbered.payslips.1
  requestEntries := h.numbered.requestEntries.1
  auditEntries := h.numbered.auditEntries.1
  attendanceKeys := h.lawful.attendanceKeys
  overtimeKeys := h.lawful.overtimeKeys
  payslipKeys := h.lawful.payslipKeys

/-- The rows of each table are the first rows of the same table later. -/
structure Precedes (t t' : Tables) : Prop where
  users : t.users <+: t'.users
  periods : t.periods <+: t'.periods
  attendances : t.attendances <+: t'.attendances
  overtimes : t.overtimes <+: t'.overtimes
  reimbursements : t.reimbursements <+: t'.reimbursements
  payslips : t.payslips <+: t'.payslips
  requestEntries : t.requestEntries <+: t'.requestEntries
  auditEntries : t.auditEntries <+: t'.auditEntries

theorem Extends.precedes {t t' : Tables} (h : t.Extends t') : t.Precedes t' where
  users := h.users.isPrefix
  periods := h.periods.isPrefix
  attendances := h.attendances.isPrefix
  overtimes := h.overtimes.isPrefix
  reimbursements := h.reimbursements.isPrefix
  payslips := h.payslips.isPrefix
  requestEntries := h.requestEntries.isPrefix
  auditEntries := h.auditEntries.isPrefix

end Tables

/-- In every history, hidden lookups and failed calls included, the tables are an ordered log, and
whatever happens later leaves each row where and as it is. -/
theorem Memory.store_is_ordered_log (events : List Event) :
    (after events).tables.OrderedLog ∧
      ∀ more, (after events).tables.Precedes (after (events ++ more)).tables :=
  ⟨(after_reachable events).orderedLog, fun more => (after_extends events more).precedes⟩

end Wagebook
