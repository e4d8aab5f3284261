import Wagebook.Proofs.Snapshots

/-!
Payslips on their way to a database server. They go out a thousand at a time, each insert with a
question mark in its text for every value beside it. A refusal ends the run, and then the server has
heard of the first thousands only.
-/

namespace Wagebook

/-- What is bound for a payslip, under the columns it is kept in. A new payslip was last changed
when it was made. -/
def Payslip.Draft.cells (d : Payslip.Draft) : List (String × Cell) :=
  [("user_id", .int d.user), ("period_id", .int d.period), ("base_salary", .int d.baseSalary),
    ("working_days", .int d.workingDays), ("present_days", .int d.presentDays),
    ("attendance_amount", .int d.attendanceAmount), ("overtime_hours", .int d.overtimeHours),
    ("overtime_amount", .int d.overtimeAmount),
    ("reimbursement_total", .int d.reimbursementTotal), ("take_home_pay", .int d.takeHomePay),
    ("created_at", .stamp d.createdAt), ("updated_at", .stamp d.createdAt)]

@[simp] theorem Payslip.Draft.length_cells (d : Payslip.Draft) : d.cells.length = 12 := rfl

/-- The statement inserts these payslips, which are at least one and at most a thousand. -/
structure Statement.InsertsPayslips (statement : Statement) (part : List Payslip.Draft) :
    Prop where
  least : 1 ≤ part.length
  most : part.length ≤ 1000
  text : statement.text =
    "INSERT INTO payslips (user_id, period_id, base_salary, working_days, " ++
      "present_days, attendance_amount, overtime_hours, overtime_amount, " ++
      "reimbursement_total, take_home_pay, created_at, updated_at) VALUES " ++
      ", ".intercalate (List.replicate part.length "(?, ?, ?, ?, ?, ?, ?, ?, ?, ?, ?, ?)")
  rows : statement.rows =
    part.map fun draft => draft.cells.map fun (column, value) => (column, .bound value)
  params : statement.params = part.flatMap fun draft => draft.cells.map (·.2.encoded)
  placeholders : statement.params.length = 12 * part.length
  allowed : statement.params.length ≤ 12000 ∧ statement.params.length < 65535

namespace Talk

section Chunks
variable {size : Nat}

theorem length_of_mem_chunks {xs part : List α} (mem : part ∈ chunks size xs) :
    1 ≤ part.length ∧ part.length ≤ size := by
  induction xs using chunks.induct size with
  | case1 xs stop =>
      rw [chunks, dif_pos stop] at mem
      cases mem
  | case2 xs go ih =>
      rw [chunks, dif_neg go] at mem
      obtain rfl | mem := List.mem_cons.mp mem
      · rw [List.length_take]
        omega
      · exact ih mem

theorem length_chunks (pos : 0 < size) (xs : List α) :
    (chunks size xs).length = (xs.length + (size - 1)) / size := by
  induction xs using chunks.induct size with
  | case1 xs stop =>
      have empty : xs.length = 0 := by omega
      rw [chunks, dif_pos stop, empty, Nat.div_eq_of_lt (by omega), List.length_nil]
  | case2 xs go ih =>
      rw [chunks, dif_neg go, List.length_cons, ih, List.length_drop, ← Nat.add_div_right _ pos]
      by_cases short : xs.length < size
      · -- what is left over is a chunk of its own
        have one (n : Nat) (least : size ≤ n) (most : n < 2 * size) : n / size = 1 :=
          Nat.div_eq_of_lt_le (by omega) (by omega)
        rw [one _ (by omega) (by omega), one _ (by omega) (by omega)]
      · exact congrArg (· / size) (by omega)

/-- The first chunks are the first items. -/
theorem flatten_take_chunks (pos : 0 < size) (count : Nat) (xs : List α) :
    ((chunks size xs).take count).flatten = xs.take (size * count) := by
  induction xs using chunks.induct size generalizing count with
  | case1 xs stop =>
      have empty : xs = [] := List.length_eq_zero_iff.mp (by omega)
      rw [chunks, dif_pos stop, empty, List.take_nil, List.take_nil, List.flatten_nil]
  | case2 xs go ih =>
      rw [chunks, dif_neg go]
      cases count with
      | zero => simp
      | succ count =>
          rw [List.take_succ_cons, List.flatten_cons, ih, Nat.mul_succ, Nat.add_comm,
            List.take_add]

end Chunks

theorem run_insertChunks_cons (part : List Payslip.Draft) (parts : List (List Payslip.Draft))
    (server : Server) :
    (insertChunks (part :: parts)).run server =
      match server.hear (payslipInsert part) with
      | (.error cause, server) => (.error cause, server)
      | (.ok reply, server) =>
        match (insertChunks parts).run server with
        | (.error cause, server) => (.error cause, server)
        | (.ok written, server) => (.ok (reply.affected + written), server) := by
  change (Server.send (payslipInsert part) >>= fun reply =>
    insertChunks parts >>= fun written => pure (reply.affected + written) : Talk Nat).run server = _
  rw [run_bind, show (Server.send (payslipInsert part)).run server =
    server.hear (payslipInsert part) from rfl]
  rcases server.hear (payslipInsert part) with ⟨cause | reply, server'⟩
  · rfl
  · dsimp only
    rw [run_bind]
    rcases (insertChunks parts).run server' with ⟨cause | written, server''⟩ <;> rfl

/-- Some chunks go out one after another, until all are answered or one is refused. -/
theorem run_insertChunks (parts : List (List Payslip.Draft)) (server : Server) :
    let (result, after) := (insertChunks parts).run server
    ∃ (count : Nat) (replies : List ServerReply),
      let said := (parts.take count).map payslipInsert
      after = server.told said ∧
      ((result = .ok (replies.map (·.affected)).sum ∧
          count = parts.length ∧ replies.length = count ∧
          server.transcript said = said.zip (replies.map .ok)) ∨
        ∃ cause, result = .error cause ∧ count ≤ parts.length ∧ replies.length + 1 = count ∧
          server.transcript said = said.zip (replies.map .ok ++ [.error cause])) := by
  induction parts generalizing server with
  | nil => exact ⟨0, [], rfl, .inl ⟨rfl, rfl, rfl, rfl⟩⟩
  | cons part parts ih =>
      rcases heard : server.hear (payslipInsert part) with ⟨cause | reply, server'⟩
      · rw [run_insertChunks_cons, heard]
        refine ⟨1, [], ?_, .inr ⟨cause, rfl, by simp, rfl, ?_⟩⟩
        · exact (congrArg Prod.snd heard).symm
        · simp [Server.transcript, heard]
      · have ih := ih server'
        rcases run : (insertChunks parts).run server' with ⟨result, after⟩
        rw [run] at ih
        simp only [run_insertChunks_cons, heard, run]
        obtain ⟨count, replies, told, outcome⟩ := ih
        have told : after = server.told (((part :: parts).take (count + 1)).map payslipInsert) := by
          rw [List.take_succ_cons, List.map_cons, Server.told, List.foldl_cons, heard]
          exact told
        have line (rest : List Statement) : server.transcript (payslipInsert part :: rest) =
            (payslipInsert part, .ok reply) :: server'.transcript rest := by
          rw [Server.transcript_of_answered server (by rw [heard]), heard]
        obtain ⟨rfl, all, same, transcript⟩ | ⟨cause, rfl, most, same, transcript⟩ := outcome
        · refine ⟨count + 1, reply :: replies, told,
            .inl ⟨by simp, by simp [all], by simp [same], ?_⟩⟩
          rw [List.take_succ_cons, List.map_cons, line, transcript]
          rfl
        · refine ⟨count + 1, reply :: replies, told, .inr ⟨cause, rfl, ?_, by simp [same], ?_⟩⟩
          · simpa using most
          · rw [List.take_succ_cons, List.map_cons, line, transcript]
            rfl

theorem cells_payslipRow (draft : Payslip.Draft) :
    payslipColumns.zip (payslipRow draft) =
      draft.cells.map fun (column, value) => (column, .bound value) := rfl

theorem params_payslipRow (draft : Payslip.Draft) :
    (payslipRow draft).filterMap Place.param? = draft.cells.map (·.2.encoded) := rfl

theorem text_payslipRow (draft : Payslip.Draft) :
    Statement.parenthesized ((payslipRow draft).map Place.text) =
      "(?, ?, ?, ?, ?, ?, ?, ?, ?, ?, ?, ?)" := by
  rw [show (payslipRow draft).map Place.text = List.replicate 12 "?" from rfl]
  decide

theorem insertsPayslips_payslipInsert {part : List Payslip.Draft} (least : 1 ≤ part.length)
    (most : part.length ≤ 1000) : (payslipInsert part).InsertsPayslips part := by
  have params : (payslipInsert part).params =
      part.flatMap fun draft => draft.cells.map (·.2.encoded) := by
    rw [payslipInsert, Statement.params, List.flatMap_map, funext params_payslipRow]
  have length : (payslipInsert part).params.length = 12 * part.length := by
    rw [params]
    simp [List.length_flatMap, Nat.mul_comm]
  have opening : "INSERT INTO " ++ "payslips" ++ " " ++ Statement.parenthesized payslipColumns ++
      " VALUES " = "INSERT INTO payslips (user_id, period_id, base_salary, working_days, " ++
        "present_days, attendance_amount, overtime_hours, overtime_amount, " ++
        "reimbursement_total, take_home_pay, created_at, updated_at) VALUES " := by
    decide +kernel
  have values : part.map ((fun row => Statement.parenthesized (row.map Place.text)) ∘ payslipRow) =
      List.replicate part.length "(?, ?, ?, ?, ?, ?, ?, ?, ?, ?, ?, ?)" := by
    rw [← List.map_const']
    exact List.map_congr_left fun draft _ => text_payslipRow draft
  refine ⟨least, most, ?_, ?_, params, length, by omega, by omega⟩
  · change "INSERT INTO " ++ "payslips" ++ " " ++ Statement.parenthesized payslipColumns ++
      " VALUES " ++ ", ".intercalate ((part.map payslipRow).map
        fun row => Statement.parenthesized (row.map Place.text)) = _
    rw [List.map_map, values, opening]
  · rw [payslipInsert, Statement.rows, List.map_map]
    exact List.map_congr_left fun draft _ => cells_payslipRow draft

/-- Payslips are inserted a thousand at a time, whatever the server answers. When it answers every
insert, each payslip has been sent once and in order, and the rows that it says it wrote are added
up. An insert that it refuses is the last, and what went out by then are the first payslips. -/
theorem insertPayslips_by_thousands (drafts : List Payslip.Draft) (server : Server) :
    let (result, after) := (insertPayslips drafts).run server
    ∃ (sent : List Statement) (parts : List (List Payslip.Draft)) (replies : List ServerReply),
      after.sent = server.sent ++ sent ∧ List.Forall₂ Statement.InsertsPayslips sent parts ∧
      ((result = .ok (replies.map (·.affected)).sum ∧ replies.length = sent.length ∧
          server.transcript sent = sent.zip (replies.map .ok) ∧
          sent.length = (drafts.length + 999) / 1000 ∧ parts.flatten = drafts) ∨
        ∃ cause, result = .error cause ∧ replies.length + 1 = sent.length ∧
          server.transcript sent = sent.zip (replies.map .ok ++ [.error cause]) ∧
          parts.flatten = drafts.take (min drafts.length (1000 * sent.length))) := by
  obtain ⟨count, replies, told, outcome⟩ := run_insertChunks (chunks chunkSize drafts) server
  have inserts : List.Forall₂ Statement.InsertsPayslips
      (((chunks chunkSize drafts).take count).map payslipInsert)
      ((chunks chunkSize drafts).take count) := by
    rw [List.forall₂_map_left_iff, List.forall₂_same]
    intro part mem
    obtain ⟨least, most⟩ := length_of_mem_chunks (List.mem_of_mem_take mem)
    exact insertsPayslips_payslipInsert least most
  refine ⟨_, _, replies, ?_, inserts, ?_⟩
  · exact (congrArg Server.sent told).trans (Server.sent_told server _)
  · obtain ⟨result, all, same, transcript⟩ | ⟨cause, result, most, same, transcript⟩ := outcome
    · refine .inl ⟨result, ?_, transcript, ?_, ?_⟩
      · simp [same, all]
      · rw [List.length_map, all, List.take_length, length_chunks (by decide)]
        rfl
      · rw [all, List.take_length, chunks_flatten (by decide)]
    · refine .inr ⟨cause, result, ?_, transcript, ?_⟩
      · simp only [List.length_map, List.length_take]
        omega
      · rw [flatten_take_chunks (by decide), List.length_map, List.length_take,
          Nat.min_eq_left most, Nat.min_comm, List.take_eq_take_min]
        rfl

end Talk
end Wagebook
