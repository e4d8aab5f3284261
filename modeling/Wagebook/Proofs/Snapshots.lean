import Wagebook.Proofs.Discipline

/-!
Snapshots on a database server. The columns of an insert, each with what is bound to it, and the id
that the server gives to the row, make up the record that the audit entry holds.
-/

namespace Wagebook

def Cell.toJson : Cell → Json
  | .null => .null
  | .bool b => .bool b
  | .int n => .int n
  | .text s => .str s
  | .date d => d.toJson
  | .stamp s => s.toJson
  | .json v => v

def Place.toJson : Place → Json
  | .bound value => value.toJson
  | .word text => .bool (text = "TRUE")

namespace Place

@[simp] theorem toJson_ofNat (n : Nat) : (ofNat n).toJson = .nat n := rfl

@[simp] theorem toJson_ofInt (n : Int) : (ofInt n).toJson = .int n := rfl

@[simp] theorem toJson_ofText (s : String) : (ofText s).toJson = .str s := rfl

@[simp] theorem toJson_ofDate (d : Date) : (ofDate d).toJson = d.toJson := rfl

@[simp] theorem toJson_ofStamp (s : Stamp) : (ofStamp s).toJson = s.toJson := rfl

@[simp] theorem toJson_false : (word "FALSE").toJson = .bool false := rfl

end Place

/-- The rows that a statement inserts, with the column of each place. -/
def Statement.rows : Statement → List (List (String × Place))
  | .insert _ columns rows => rows.map columns.zip
  | _ => []

/-- A row as a record. -/
def Row.toJson (row : List (String × Place)) : Json :=
  .obj (row.map fun (column, place) => (column, place.toJson))

namespace Talk

theorem chunks_flatten {size : Nat} (pos : 0 < size) (xs : List α) :
    (chunks size xs).flatten = xs := by
  induction xs using chunks.induct size with
  | case1 xs stop =>
      rw [chunks, dif_pos stop]
      have empty : xs.length = 0 := by omega
      exact (List.length_eq_zero_iff.mp empty).symm
  | case2 xs go ih =>
      rw [chunks, dif_neg go, List.flatten_cons, ih, List.take_append_drop]

/-- The rows of the chunks are those of the payslips, in their order. -/
theorem rows_payslipInserts (drafts : List Payslip.Draft) :
    ((chunks chunkSize drafts).map payslipInsert).flatMap Statement.rows =
      drafts.map fun draft => payslipColumns.zip (payslipRow draft) := by
  have each (chunk : List Payslip.Draft) : (payslipInsert chunk).rows =
      chunk.map fun draft => payslipColumns.zip (payslipRow draft) := by
    simp [payslipInsert, Statement.rows, Function.comp_def]
  rw [List.flatMap_map, funext each, List.flatMap_def, ← List.map_flatten,
    chunks_flatten (by decide)]

end Talk

namespace Command

variable {command : Command} {table : AuditTable} {id : Nat} {drafts : List Payslip.Draft}
  {entry : AuditEntry.Draft}

/-- The audit entry of a change of one row holds that row. -/
theorem entry_of_row (audited : command.table? = some table) (single : table ≠ .payslips)
    (entered : command.entry? id drafts = some entry) :
    ∃ insert row, command.inserts drafts = [insert] ∧ insert.rows = [row] ∧
      entry.recordId = id ∧ entry.newData = Row.toJson (("id", .ofNat id) :: row) := by
  cases command with
  | createPeriod now first last actor =>
      cases entered
      refine ⟨_, _, rfl, rfl, rfl, ?_⟩
      simp [AuditEntry.created, Row.toJson, Period.toJson, Period.Draft.stored, Json.record,
        Period.fieldNames]
  | submitAttendance now actor period date =>
      cases entered
      refine ⟨_, _, rfl, rfl, rfl, ?_⟩
      simp [AuditEntry.created, Row.toJson, Attendance.toJson, Attendance.Draft.stored, Json.record,
        Attendance.fieldNames]
  | submitOvertime now actor period date hours =>
      cases entered
      refine ⟨_, _, rfl, rfl, rfl, ?_⟩
      simp [AuditEntry.created, Row.toJson, Overtime.toJson, Overtime.Draft.stored, Json.record,
        Overtime.fieldNames]
  | submitReimbursement now actor period amount description =>
      cases entered
      refine ⟨_, _, rfl, rfl, rfl, ?_⟩
      simp [AuditEntry.created, Row.toJson, Reimbursement.toJson, Reimbursement.Draft.stored,
        Json.record, Reimbursement.fieldNames]
  | runPayroll now period actor =>
      cases audited
      exact absurd rfl single
  | recordRequest now url method ipAddress => cases audited

/-- The audit entry of a payroll run holds the rows of all its inserts, one after another. -/
theorem entry_of_payslips (audited : command.table? = some .payslips)
    (entered : command.entry? id drafts = some entry) :
    entry.recordId = 0 ∧ entry.newData =
      .arr (((command.inserts drafts).flatMap Statement.rows).map fun row =>
        Row.toJson (row.filter (·.1 ≠ "updated_at"))) := by
  cases command with
  | runPayroll now period actor =>
      cases entered
      refine ⟨rfl, ?_⟩
      rw [inserts, Talk.rows_payslipInserts, List.map_map]
      refine congrArg Json.arr (List.map_congr_left fun draft _ => ?_)
      simp [Row.toJson, Payslip.Draft.toJson, Json.record, Payslip.Draft.fieldNames,
        Talk.payslipColumns, Talk.payslipRow]
  | _ => cases audited

/-- The payslips that a command computes are stamped to the microsecond. -/
theorem Computes.stamped {server : Server} (computed : command.Computes server drafts) :
    ∀ draft ∈ drafts, draft.createdAt.nano % 1000 = 0 := by
  intro draft mem
  cases command with
  | runPayroll now period actor =>
      rw [Server.Pays.stamped now period computed draft mem]
      exact Stamp.nano_toMicros now
  | _ =>
      obtain rfl : drafts = [] := computed
      cases mem

/-- Every row is stamped to the microsecond, and is new: it has been changed when it was made. -/
theorem stamped_rows (audited : command.table? = some table)
    (stamped : ∀ draft ∈ drafts, draft.createdAt.nano % 1000 = 0) {row : List (String × Place)}
    (mem : row ∈ (command.inserts drafts).flatMap Statement.rows) :
    ∃ stamp, row.lookup "created_at" = some (.bound (.stamp stamp)) ∧ stamp.nano % 1000 = 0 ∧
      row.lookup "updated_at" = row.lookup "created_at" := by
  cases command with
  | runPayroll now period actor =>
      rw [inserts, Talk.rows_payslipInserts] at mem
      obtain ⟨draft, listed, rfl⟩ := List.mem_map.mp mem
      exact ⟨_, rfl, stamped draft listed, rfl⟩
  | recordRequest now url method ipAddress => cases audited
  | _ =>
      obtain rfl := List.mem_singleton.mp mem
      exact ⟨_, rfl, Stamp.nano_toMicros _, rfl⟩

/-- And so is the audit entry. -/
theorem stamped_entry (entered : command.entry? id drafts = some entry) :
    entry.createdAt.nano % 1000 = 0 := by
  cases command <;> cases entered <;> exact Stamp.nano_toMicros _

theorem filter_body (audited : command.table? = some table) :
    (command.body drafts).filter (·.target? = some table.name) = command.inserts drafts := by
  have reads : command.reads.filter (·.target? = some table.name) = [] :=
    List.filter_eq_nil_iff.mpr fun statement mem => by
      obtain ⟨text, params, rfl⟩ := query_of_reads mem
      simp [Statement.target?]
  have inserts : (command.inserts drafts).filter (·.target? = some table.name) =
      command.inserts drafts :=
    List.filter_eq_self.mpr fun statement mem => by
      obtain ⟨columns, rows, rfl⟩ := insert_of_inserts audited mem
      simp [Statement.target?]
  rw [body, List.filter_append, inserts, List.filter_cons_of_neg (by simp [Statement.target?]),
    reads, List.nil_append]

/-- What has been sent when an audit entry has. -/
theorem sent_of_audit (audited : command.table? = some table) {server : Server}
    {sent : List Statement} {audit : Statement}
    (run : (command.operation.run server).2.sent = server.sent ++ sent) (mem : audit ∈ sent)
    (target : audit.target? = some auditTarget) :
    ∃ drafts entry rest, command.Computes (server.hear .begin).2 drafts ∧
      command.entry? (command.insertId (server.hear .begin).2) drafts = some entry ∧
      audit = Talk.auditInsert entry ∧ sent = command.body drafts ++ audit :: rest ∧
      (∀ later ∈ rest, later.target? = none) ∧
      ∀ line ∈ server.transcript (command.body drafts), ∃ reply, line.2 = .ok reply := by
  obtain ⟨drafts, said, server', h, after, computed⟩ := command.dialogue audited server
  obtain ⟨entry, entered⟩ := exists_entry audited (command.insertId (server.hear .begin).2) drafts
  have ended (later) (mem : later ∈ Server.ending (server.transcript said)
      (command.operation.run server).1) : later = .rollback := by
    obtain ⟨ending, -⟩ | ⟨ending, -⟩ := ending_cases entered h
    · rw [ending] at mem
      exact List.mem_singleton.mp mem
    · rw [ending] at mem
      cases mem
  generalize Server.ending (server.transcript said) (command.operation.run server).1 = ending
    at after ended
  rw [after, h.told, Server.sent_told, Server.sent_told, List.append_assoc,
    List.append_cancel_left_eq] at run
  subst run
  obtain mem | mem := List.mem_append.mp mem
  · obtain ⟨before, rest, split⟩ := List.append_of_mem mem
    obtain ⟨rfl, rfl, last⟩ := around_audit audited entered h split target
    refine ⟨drafts, entry, rest ++ ending, computed.resolve_right fun early => ?_, entered, rfl,
      by simp [split], ?_, h.all_answered split (.inl (List.cons_ne_nil _ _))⟩
    · have mem : Talk.auditInsert entry ∈ .begin :: command.reads := early.subset mem
      exact no_audit_in_body audited (List.mem_append_left (command.inserts drafts) mem) target
    intro later mem
    obtain mem | mem := List.mem_append.mp mem
    · obtain rfl := List.mem_singleton.mp (last.subset mem)
      rfl
    · obtain rfl := ended later mem
      rfl
  · obtain rfl := ended audit mem
    cases target

/-- The id that a command books is what the server answers to its insert. -/
theorem insertId_answered (audited : command.table? = some table) (single : table ≠ .payslips)
    {row : Statement} (inserted : command.inserts drafts = [row]) {server : Server}
    {reply : ServerReply}
    (answer : ((server.told (.begin :: command.reads)).hear row).1 = .ok reply) :
    command.insertId (server.hear .begin).2 = reply.insertId := by
  have same : command.inserts [] = command.inserts drafts := by
    cases command with
    | runPayroll now period actor =>
        cases audited
        exact absurd rfl single
    | _ => rfl
  rw [insertId, same, inserted]
  exact Server.insertId_of_answered answer

/-- On a database server the audit entry holds the rows that are inserted, whatever the server
answers: each column with what is bound to it, and for a single row the id that the server has
answered. -/
theorem audit_holds_rows (command : Command) (table : AuditTable)
    (audited : command.table? = some table) (server : Server) (sent : List Statement)
    (run : (command.operation.run server).2.sent = server.sent ++ sent)
    (audit : Statement) (mem : audit ∈ sent) (target : audit.target? = some auditTarget) :
    let writes := sent.filter (·.target? = some table.name)
    let rows := writes.flatMap Statement.rows
    ∃ entry recordId data, audit.rows = [entry] ∧
      entry.lookup "record_id" = some (.ofNat recordId) ∧
      entry.lookup "new_data" = some (.bound (.json data)) ∧
      (table ≠ .payslips → ∃ insert reply row, writes = [insert] ∧ rows = [row] ∧
        (insert, .ok reply) ∈ server.transcript sent ∧ recordId = reply.insertId ∧
        data = Row.toJson (("id", .ofNat recordId) :: row)) ∧
      (table = .payslips → recordId = 0 ∧
        data = .arr (rows.map fun row => Row.toJson (row.filter (·.1 ≠ "updated_at")))) ∧
      (∀ row ∈ rows, row.lookup "updated_at" = row.lookup "created_at") ∧
      ∀ row ∈ entry :: rows, ∃ stamp,
        row.lookup "created_at" = some (.bound (.stamp stamp)) ∧ stamp.nano % 1000 = 0 := by
  intro writes rows
  obtain ⟨drafts, entry, rest, computed, entered, rfl, rfl, later, answered⟩ :=
    sent_of_audit audited run mem target
  have inserted : writes = command.inserts drafts := by
    have other : (Talk.auditInsert entry :: rest).filter (·.target? = some table.name) = [] := by
      refine List.filter_eq_nil_iff.mpr fun statement mem => ?_
      obtain rfl | mem := List.mem_cons.mp mem
      · rw [target, decide_eq_true_eq]
        exact fun same => table.name_ne_auditTarget (Option.some.inj same).symm
      · simp [later statement mem]
    rw [show writes = _ from List.filter_append .., filter_body audited, other, List.append_nil]
  have rows_eq : rows = (command.inserts drafts).flatMap Statement.rows := by rw [← inserted]
  refine ⟨_, entry.recordId, entry.newData, rfl, rfl, rfl, ?_, ?_, ?_, ?_⟩
  · intro single
    obtain ⟨insert, row, one, itsRow, id, data⟩ := entry_of_row audited single entered
    have line : (insert, ((server.told (.begin :: command.reads)).hear insert).1) ∈
        server.transcript (command.body drafts) := by
      rw [body, one, Server.transcript_append]
      exact List.mem_append_right _ List.mem_cons_self
    obtain ⟨reply, answer⟩ := answered _ line
    refine ⟨insert, reply, row, inserted.trans one, by simp [rows_eq, one, itsRow], ?_, ?_, ?_⟩
    · rw [Server.transcript_append]
      exact List.mem_append_left _ (answer ▸ line)
    · rw [id, insertId_answered audited single one answer]
    · rw [data, id]
  · intro payslips
    subst payslips
    rw [rows_eq]
    exact entry_of_payslips audited entered
  · intro row mem
    rw [rows_eq] at mem
    obtain ⟨stamp, -, -, same⟩ := stamped_rows audited computed.stamped mem
    exact same
  · intro row mem
    obtain rfl | mem := List.mem_cons.mp mem
    · exact ⟨_, rfl, stamped_entry entered⟩
    · rw [rows_eq] at mem
      obtain ⟨stamp, bound, micro, -⟩ := stamped_rows audited computed.stamped mem
      exact ⟨stamp, bound, micro⟩

/-- An attendance, and the audit entry that holds it. -/
theorem audit_holds_attendance :
    let command := Command.submitAttendance .payday ⟨2, 9⟩ 1 ⟨2024, 2, 6, by decide⟩
    let sent := (command.operation.run Server.ready).2.sent
    ∃ audit ∈ sent, ∃ entry recordId data row, audit.rows = [entry] ∧
      entry.lookup "record_id" = some (.ofNat recordId) ∧
      entry.lookup "new_data" = some (.bound (.json data)) ∧
      (sent.filter (·.target? = some "attendances")).flatMap Statement.rows = [row] ∧
      data = Row.toJson (("id", .ofNat recordId) :: row) := by
  intro command sent
  obtain ⟨audit, mem, target⟩ : ∃ audit ∈ sent, audit.target? = some auditTarget :=
    ⟨_, List.mem_of_getElem? (show sent[4]? = some _ from rfl), rfl⟩
  obtain ⟨entry, recordId, data, rows, id, held, single, -⟩ :=
    audit_holds_rows command .attendances rfl Server.ready sent rfl audit mem target
  obtain ⟨insert, reply, row, -, stored, -, -, same⟩ := single nofun
  exact ⟨audit, mem, entry, recordId, data, row, rows, id, held, stored, same⟩

end Command
end Wagebook
