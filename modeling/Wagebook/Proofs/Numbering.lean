import Mathlib.Data.List.Nodup
import Wagebook.Proofs.Histories

/-!
One counter numbers the rows of all tables. Along each table the ids ascend, so an id stands for one
row, and a row that is added later has a larger id than every row before it, of whatever table.
-/

namespace Wagebook

/-- The ids ascend, and were drawn from a counter that stands at `last`. -/
def Ascending (last : Nat) (ids : List Nat) : Prop :=
  ids.Pairwise (· < ·) ∧ ∀ id ∈ ids, 0 < id ∧ id ≤ last

namespace Ascending

theorem nil (last : Nat) : Ascending last [] := ⟨.nil, by simp⟩

theorem mono {last last' : Nat} {ids : List Nat} (h : Ascending last ids) (le : last ≤ last') :
    Ascending last' ids :=
  ⟨h.1, fun id mem => ⟨(h.2 id mem).1, Nat.le_trans (h.2 id mem).2 le⟩⟩

theorem snoc {last : Nat} {ids : List Nat} (h : Ascending last ids) :
    Ascending (last + 1) (ids ++ [last + 1]) := by
  refine ⟨List.pairwise_append.mpr ⟨h.1, List.pairwise_singleton _ _, ?_⟩, ?_⟩
  · intro id mem next hnext
    rw [List.mem_singleton.mp hnext]
    exact Nat.lt_succ_of_le (h.2 id mem).2
  · intro id mem
    rcases List.mem_append.mp mem with old | new
    · exact (h.mono (Nat.le_succ last)).2 id old
    · rw [List.mem_singleton.mp new]
      omega

section Rows
variable {last : Nat} {rows : List α} {id : α → Nat}

/-- A row with the next id goes to the end of its table. -/
theorem map_snoc {row : α} (h : Ascending last (rows.map id)) (hrow : id row = last + 1) :
    Ascending (last + 1) ((rows ++ [row]).map id) := by
  rw [List.map_append, List.map_singleton, hrow]
  exact h.snoc

theorem le_of_mem {row : α} (h : Ascending last (rows.map id)) (mem : row ∈ rows) :
    id row ≤ last :=
  (h.2 (id row) (List.mem_map_of_mem mem)).2

/-- Rows of one table are the same when their ids are. -/
theorem eq_of_mem {a b : α} (h : Ascending last (rows.map id)) (ha : a ∈ rows) (hb : b ∈ rows)
    (same : id a = id b) : a = b :=
  List.inj_on_of_nodup_map (h.1.imp Nat.ne_of_lt) ha hb same

end Rows
end Ascending

/-- What no two rows share picks out one row. -/
theorem filter_eq_singleton [DecidableEq β] {rows : List α} {f : α → β} {row : α}
    (nodup : (rows.map f).Nodup) (mem : row ∈ rows) :
    rows.filter (fun other => f other = f row) = [row] := by
  induction rows with
  | nil => cases mem
  | cons first rows ih =>
      rw [List.map_cons, List.nodup_cons] at nodup
      obtain rfl | later := List.mem_cons.mp mem
      · have none : rows.filter (fun other => f other = f row) = [] := by
          rw [List.filter_eq_nil_iff]
          intro other there
          rw [decide_eq_true_eq]
          intro same
          exact nodup.1 (same ▸ List.mem_map_of_mem there)
        rw [List.filter_cons, if_pos (by simp), none]
      · have other : f first ≠ f row := fun same => nodup.1 (same ▸ List.mem_map_of_mem later)
        rw [List.filter_cons, if_neg (by simpa using other), ih nodup.2 later]

structure Tables.Numbered (t : Tables) : Prop where
  users : Ascending t.lastId (t.users.map (·.id))
  periods : Ascending t.lastId (t.periods.map (·.id))
  attendances : Ascending t.lastId (t.attendances.map (·.id))
  overtimes : Ascending t.lastId (t.overtimes.map (·.id))
  reimbursements : Ascending t.lastId (t.reimbursements.map (·.id))
  payslips : Ascending t.lastId (t.payslips.map (·.id))
  requestEntries : Ascending t.lastId (t.requestEntries.map (·.id))
  auditEntries : Ascending t.lastId (t.auditEntries.map (·.id))

namespace Tables.Numbered

variable {t : Tables}

theorem empty : Numbered {} where
  users := .nil _
  periods := .nil _
  attendances := .nil _
  overtimes := .nil _
  reimbursements := .nil _
  payslips := .nil _
  requestEntries := .nil _
  auditEntries := .nil _

/-- An id that is drawn concerns no row that is there. -/
theorem drawn (h : t.Numbered) : Numbered { t with lastId := t.nextId } where
  users := h.users.mono (Nat.le_succ _)
  periods := h.periods.mono (Nat.le_succ _)
  attendances := h.attendances.mono (Nat.le_succ _)
  overtimes := h.overtimes.mono (Nat.le_succ _)
  reimbursements := h.reimbursements.mono (Nat.le_succ _)
  payslips := h.payslips.mono (Nat.le_succ _)
  requestEntries := h.requestEntries.mono (Nat.le_succ _)
  auditEntries := h.auditEntries.mono (Nat.le_succ _)

theorem addUser (h : t.Numbered) (user : User) : (t.addUser user).Numbered :=
  { h.drawn with users := h.users.map_snoc rfl }

theorem addPeriod (h : t.Numbered) (draft : Period.Draft) : (t.addPeriod draft).Numbered :=
  { h.drawn with periods := h.periods.map_snoc rfl }

theorem addAttendance (h : t.Numbered) (draft : Attendance.Draft) :
    (t.addAttendance draft).Numbered :=
  { h.drawn with attendances := h.attendances.map_snoc rfl }

theorem addOvertime (h : t.Numbered) (draft : Overtime.Draft) : (t.addOvertime draft).Numbered :=
  { h.drawn with overtimes := h.overtimes.map_snoc rfl }

theorem addReimbursement (h : t.Numbered) (draft : Reimbursement.Draft) :
    (t.addReimbursement draft).Numbered :=
  { h.drawn with reimbursements := h.reimbursements.map_snoc rfl }

theorem addPayslip (h : t.Numbered) (draft : Payslip.Draft) : (t.addPayslip draft).Numbered :=
  { h.drawn with payslips := h.payslips.map_snoc rfl }

theorem addPayslips (h : t.Numbered) (drafts : List Payslip.Draft) :
    (t.addPayslips drafts).Numbered := by
  induction drafts generalizing t with
  | nil => exact h
  | cons draft drafts ih => exact ih (h.addPayslip draft)

theorem addRequestEntry (h : t.Numbered) (draft : RequestEntry.Draft) :
    (t.addRequestEntry draft).Numbered :=
  { h.drawn with requestEntries := h.requestEntries.map_snoc rfl }

theorem addAuditEntry (h : t.Numbered) (draft : AuditEntry.Draft) :
    (t.addAuditEntry draft).Numbered :=
  { h.drawn with auditEntries := h.auditEntries.map_snoc rfl }

theorem write (h : t.Numbered) (writes : Command.Writes t command result t') : t'.Numbered := by
  cases writes with
  | period => exact (h.addPeriod _).addAuditEntry _
  | attendance => exact (h.addAttendance _).addAuditEntry _
  | overtime => exact (h.addOvertime _).addAuditEntry _
  | reimbursement => exact (h.addReimbursement _).addAuditEntry _
  | payroll => exact (h.addPayslips _).addAuditEntry _
  | request => exact h.addRequestEntry _

end Tables.Numbered

theorem Tables.Reachable.numbered {t : Tables} (h : t.Reachable) : t.Numbered := by
  induction h with
  | empty => exact .empty
  | addUser _ user ih => exact ih.addUser user
  | write _ writes ih => exact ih.write writes

namespace Tables

variable {t : Tables}

theorem mem_of_period? {id : Nat} {p : Period} (h : t.period? id = some p) :
    p ∈ t.periods ∧ p.id = id :=
  ⟨List.mem_of_find?_eq_some h, by simpa using List.find?_some h⟩

theorem mem_of_attendance? {user period : Nat} {date : Date} {a : Attendance}
    (h : t.attendance? user period date = some a) :
    a ∈ t.attendances ∧ a.user = user ∧ a.period = period ∧ a.date = date :=
  ⟨List.mem_of_find?_eq_some h, by simpa using List.find?_some h⟩

theorem mem_of_overtime? {user period : Nat} {date : Date} {o : Overtime}
    (h : t.overtime? user period date = some o) :
    o ∈ t.overtimes ∧ o.user = user ∧ o.period = period ∧ o.date = date :=
  ⟨List.mem_of_find?_eq_some h, by simpa using List.find?_some h⟩

theorem attendance?_eq_none {user period : Nat} {date : Date} :
    t.attendance? user period date = none ↔
      ∀ a ∈ t.attendances, ¬ (a.user = user ∧ a.period = period ∧ a.date = date) := by
  simp [attendance?]

theorem overtime?_eq_none {user period : Nat} {date : Date} :
    t.overtime? user period date = none ↔
      ∀ o ∈ t.overtimes, ¬ (o.user = user ∧ o.period = period ∧ o.date = date) := by
  simp [overtime?]

theorem payslip?_eq_none {user period : Nat} :
    t.payslip? user period = none ↔
      ∀ p ∈ t.payslips, ¬ (p.user = user ∧ p.period = period) := by
  simp [payslip?]

end Tables
end Wagebook
