import Wagebook.Proofs.Numbering

/-!
The tables only grow: a change puts rows with new ids at the ends of tables, and no stored row is
ever changed, removed or moved. So whatever is said of the rows up to an id stays true.
-/

namespace Wagebook

/-- The rows are followed by rows with ids beyond `last`. -/
def Grown (last : Nat) (id : α → Nat) (rows rows' : List α) : Prop :=
  ∃ new, rows' = rows ++ new ∧ ∀ row ∈ new, last < id row

namespace Grown

variable {last last' : Nat} {id : α → Nat} {rows rows' rows'' : List α}

theorem refl : Grown last id rows rows := ⟨[], by simp, by simp⟩

theorem snoc {row : α} (h : id row = last + 1) : Grown last id rows (rows ++ [row]) :=
  ⟨[row], rfl, by simp [h]⟩

theorem trans (h : Grown last id rows rows') (h' : Grown last' id rows' rows'')
    (le : last ≤ last') : Grown last id rows rows'' := by
  obtain ⟨new, rfl, beyond⟩ := h
  obtain ⟨new', rfl, beyond'⟩ := h'
  refine ⟨new ++ new', List.append_assoc _ _ _, fun row mem => ?_⟩
  rcases List.mem_append.mp mem with mem | mem
  · exact beyond row mem
  · exact Nat.lt_of_le_of_lt le (beyond' row mem)

theorem mem (h : Grown last id rows rows') {row : α} (mem : row ∈ rows) : row ∈ rows' := by
  obtain ⟨new, rfl, -⟩ := h
  exact List.mem_append_left _ mem

theorem isPrefix (h : Grown last id rows rows') : rows <+: rows' := by
  obtain ⟨new, rfl, -⟩ := h
  exact List.prefix_append rows new

/-- What holds only of rows with ids up to `last` holds of the same rows as before. -/
theorem filter_eq (h : Grown last id rows rows') (p : α → Prop) [DecidablePred p]
    (early : ∀ row, p row → id row ≤ last) :
    rows'.filter (fun row => p row) = rows.filter (fun row => p row) := by
  obtain ⟨new, rfl, beyond⟩ := h
  have none : new.filter (fun row => p row) = [] := by
    rw [List.filter_eq_nil_iff]
    intro row mem
    have late := beyond row mem
    rw [decide_eq_true_eq]
    intro holds
    exact Nat.not_le_of_lt late (early row holds)
  rw [List.filter_append, none, List.append_nil]

theorem filter_below (h : Grown last id rows rows') {bound : Nat} (le : bound ≤ last)
    (p : α → Prop) [DecidablePred p] :
    rows'.filter (fun row => id row < bound ∧ p row) =
      rows.filter (fun row => id row < bound ∧ p row) :=
  h.filter_eq _ fun _ holds => Nat.le_trans (Nat.le_of_lt holds.1) le

/-- A row that is the only one of its id stays the only one. -/
theorem filter_id (h : Grown last id rows rows') (ids : Ascending last (rows.map id)) {row : α}
    {n : Nat} (only : rows.filter (fun other => id other = n) = [row]) :
    rows'.filter (fun other => id other = n) = [row] := by
  have mem : row ∈ rows.filter fun other => id other = n := by simp [only]
  simp only [List.mem_filter, decide_eq_true_eq] at mem
  have drawn : n ≤ last := mem.2 ▸ ids.le_of_mem mem.1
  have early : ∀ other, id other = n → id other ≤ last := fun other same => same ▸ drawn
  rw [h.filter_eq (fun other => id other = n) early, only]

end Grown

structure Tables.Extends (t t' : Tables) : Prop where
  lastId : t.lastId ≤ t'.lastId
  users : Grown t.lastId (·.id) t.users t'.users
  periods : Grown t.lastId (·.id) t.periods t'.periods
  attendances : Grown t.lastId (·.id) t.attendances t'.attendances
  overtimes : Grown t.lastId (·.id) t.overtimes t'.overtimes
  reimbursements : Grown t.lastId (·.id) t.reimbursements t'.reimbursements
  payslips : Grown t.lastId (·.id) t.payslips t'.payslips
  requestEntries : Grown t.lastId (·.id) t.requestEntries t'.requestEntries
  auditEntries : Grown t.lastId (·.id) t.auditEntries t'.auditEntries

namespace Tables.Extends

variable {t t' t'' : Tables}

theorem trans (h : t.Extends t') (h' : t'.Extends t'') : t.Extends t'' where
  lastId := Nat.le_trans h.lastId h'.lastId
  users := h.users.trans h'.users h.lastId
  periods := h.periods.trans h'.periods h.lastId
  attendances := h.attendances.trans h'.attendances h.lastId
  overtimes := h.overtimes.trans h'.overtimes h.lastId
  reimbursements := h.reimbursements.trans h'.reimbursements h.lastId
  payslips := h.payslips.trans h'.payslips h.lastId
  requestEntries := h.requestEntries.trans h'.requestEntries h.lastId
  auditEntries := h.auditEntries.trans h'.auditEntries h.lastId

/-- Drawing ids adds no row. -/
theorem drawn (t : Tables) {last : Nat} (le : t.lastId ≤ last) :
    t.Extends { t with lastId := last } where
  lastId := le
  users := .refl
  periods := .refl
  attendances := .refl
  overtimes := .refl
  reimbursements := .refl
  payslips := .refl
  requestEntries := .refl
  auditEntries := .refl

theorem refl (t : Tables) : t.Extends t := drawn t (Nat.le_refl _)

variable (t)

theorem addUser (user : User) : t.Extends (t.addUser user) :=
  { drawn t (Nat.le_succ _) with users := .snoc rfl }

theorem addPeriod (draft : Period.Draft) : t.Extends (t.addPeriod draft) :=
  { drawn t (Nat.le_succ _) with periods := .snoc rfl }

theorem addAttendance (draft : Attendance.Draft) : t.Extends (t.addAttendance draft) :=
  { drawn t (Nat.le_succ _) with attendances := .snoc rfl }

theorem addOvertime (draft : Overtime.Draft) : t.Extends (t.addOvertime draft) :=
  { drawn t (Nat.le_succ _) with overtimes := .snoc rfl }

theorem addReimbursement (draft : Reimbursement.Draft) :
    t.Extends (t.addReimbursement draft) :=
  { drawn t (Nat.le_succ _) with reimbursements := .snoc rfl }

theorem addPayslip (draft : Payslip.Draft) : t.Extends (t.addPayslip draft) :=
  { drawn t (Nat.le_succ _) with payslips := .snoc rfl }

theorem addPayslips (drafts : List Payslip.Draft) : t.Extends (t.addPayslips drafts) := by
  induction drafts generalizing t with
  | nil => exact refl t
  | cons draft drafts ih => exact (addPayslip t draft).trans (ih (t.addPayslip draft))

theorem addRequestEntry (draft : RequestEntry.Draft) : t.Extends (t.addRequestEntry draft) :=
  { drawn t (Nat.le_succ _) with requestEntries := .snoc rfl }

theorem addAuditEntry (draft : AuditEntry.Draft) : t.Extends (t.addAuditEntry draft) :=
  { drawn t (Nat.le_succ _) with auditEntries := .snoc rfl }

variable {t}

theorem write (writes : Command.Writes t command result t') : t.Extends t' := by
  cases writes with
  | period => exact (addPeriod t _).trans (addAuditEntry _ _)
  | attendance => exact (addAttendance t _).trans (addAuditEntry _ _)
  | overtime => exact (addOvertime t _).trans (addAuditEntry _ _)
  | reimbursement => exact (addReimbursement t _).trans (addAuditEntry _ _)
  | payroll => exact (addPayslips t _).trans (addAuditEntry _ _)
  | request => exact addRequestEntry t _

end Tables.Extends

/-- A success draws at least one id. -/
theorem Command.Writes.nextId_le {t t' : Tables} (h : Command.Writes t command answer t') :
    t.nextId ≤ t'.lastId := by
  cases h with
  | period => exact Nat.le_succ _
  | attendance => exact Nat.le_succ _
  | overtime => exact Nat.le_succ _
  | reimbursement => exact Nat.le_succ _
  | payroll => exact Nat.succ_le_succ (Tables.Extends.addPayslips t _).lastId
  | request => exact Nat.le_refl _

theorem Event.apply_extends (event : Event) (memory : Memory) :
    memory.tables.Extends (event.apply memory).tables := by
  obtain same | ⟨user, added⟩ | ⟨command, result, writes⟩ := event.apply_cases memory
  · rw [same]
    exact .refl _
  · rw [added]
    exact .addUser _ user
  · exact .write writes

theorem Memory.play_extends (events : List Event) (memory : Memory) :
    memory.tables.Extends (memory.play events).tables := by
  induction events generalizing memory with
  | nil => exact .refl _
  | cons event events ih => exact (event.apply_extends memory).trans (ih (event.apply memory))

theorem Memory.after_extends (events more : List Event) :
    (after events).tables.Extends (after (events ++ more)).tables := by
  have split : after (events ++ more) = (after events).play more := by simp [after, play]
  rw [split]
  exact play_extends more (after events)

end Wagebook
