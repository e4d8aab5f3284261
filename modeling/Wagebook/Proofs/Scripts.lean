import Wagebook.Proofs.Dialogue
import Wagebook.Proofs.Lookups

/-!
Scripts: what a command says to a database server if nothing stops it. It begins a unit of work,
reads, inserts what it is for, inserts the audit entry of that, and commits. Whatever the server
answers, a command keeps to its script, and a unit of work that is not committed is rolled back.
-/

namespace Wagebook

theorem Stamp.nano_toMicros (s : Stamp) : s.toMicros.nano % 1000 = 0 :=
  Nat.mul_mod_left _ _

namespace Command

/-- The table that a command changes. The request log is no table of the audit trail. -/
def table? : Command → Option AuditTable
  | .createPeriod .. => some .attendancePeriods
  | .submitAttendance .. => some .attendances
  | .submitOvertime .. => some .overtimes
  | .submitReimbursement .. => some .reimbursements
  | .runPayroll .. => some .payslips
  | .recordRequest .. => none

/-- What a collision with a unique key of the table is reported as. -/
def conflict? : Command → Option PayrollError
  | .submitAttendance .. => some (.alreadyExists "attendance")
  | .submitOvertime .. => some (.alreadyExists "overtime")
  | .runPayroll _ period _ => some (.alreadyProcessed period)
  | _ => none

def reads : Command → List Statement
  | .createPeriod .. => []
  | .submitAttendance _ actor period date =>
    [Talk.attendanceQuery actor.user period date, Talk.periodQuery period]
  | .submitOvertime _ actor period date _ =>
    [Talk.attendanceQuery actor.user period date, Talk.overtimeQuery actor.user period date,
      Talk.periodQuery period]
  | .submitReimbursement _ _ period _ _ => [Talk.periodQuery period]
  | .runPayroll _ period _ =>
    [Talk.periodLock period, Talk.payslipsExistQuery period, Talk.talliesQuery period]
  | .recordRequest .. => []

/-- The inserts, which of a payroll run are those of the payslips that it has computed. -/
def inserts (drafts : List Payslip.Draft) : Command → List Statement
  | .createPeriod now first last _ => [Talk.periodInsert ⟨first, last, now.toMicros⟩]
  | .submitAttendance now actor period date =>
    [Talk.attendanceInsert ⟨actor.user, period, date, now.toMicros⟩]
  | .submitOvertime now actor period date hours =>
    [Talk.overtimeInsert ⟨actor.user, period, date, hours, now.toMicros⟩]
  | .submitReimbursement now actor period amount description =>
    [Talk.reimbursementInsert ⟨actor.user, period, amount, description, now.toMicros⟩]
  | .runPayroll .. => (Talk.chunks Talk.chunkSize drafts).map Talk.payslipInsert
  | .recordRequest now url method ipAddress =>
    [Talk.requestInsert ⟨url, method, ipAddress, now.toMicros⟩]

/-- The id that a server gives to the row, when it hears the reads and then the insert. -/
def insertId (command : Command) (server : Server) : Nat :=
  match command.inserts [] with
  | [insert] => (server.told command.reads).insertId insert
  | _ => 0

/-- The audit entry of a change, given the id of the new row, or the new payslips. -/
def entry? (id : Nat) (drafts : List Payslip.Draft) : Command → Option AuditEntry.Draft
  | .createPeriod now first last actor =>
    some (AuditEntry.created .attendancePeriods id
      (Period.Draft.stored ⟨first, last, now.toMicros⟩ id).toJson actor now.toMicros)
  | .submitAttendance now actor period date =>
    some (AuditEntry.created .attendances id
      (Attendance.Draft.stored ⟨actor.user, period, date, now.toMicros⟩ id).toJson actor
      now.toMicros)
  | .submitOvertime now actor period date hours =>
    some (AuditEntry.created .overtimes id
      (Overtime.Draft.stored ⟨actor.user, period, date, hours, now.toMicros⟩ id).toJson actor
      now.toMicros)
  | .submitReimbursement now actor period amount description =>
    some (AuditEntry.created .reimbursements id
      (Reimbursement.Draft.stored ⟨actor.user, period, amount, description, now.toMicros⟩ id).toJson
      actor now.toMicros)
  | .runPayroll now _ actor =>
    some (AuditEntry.created .payslips runRecordId (.arr (drafts.map Payslip.Draft.toJson)) actor
      now.toMicros)
  | .recordRequest .. => none

/-- What is said between the begin and the end of the unit of work. -/
def lines (id : Nat) (drafts : List Payslip.Draft) (command : Command) : List Line :=
  command.reads.map (⟨·, none⟩) ++ (command.inserts drafts).map (⟨·, command.conflict?⟩) ++
    (command.entry? id drafts).toList.map fun entry => ⟨Talk.auditInsert entry, none⟩

def script (id : Nat) (drafts : List Payslip.Draft) (command : Command) : List Line :=
  ⟨.begin, none⟩ :: command.lines id drafts ++ [⟨.commit, none⟩]

variable {command : Command} {table : AuditTable}

theorem exists_entry (audited : command.table? = some table) (id : Nat)
    (drafts : List Payslip.Draft) : ∃ entry, command.entry? id drafts = some entry := by
  cases command with
  | recordRequest now url method ipAddress => cases audited
  | _ => exact ⟨_, rfl⟩

/-- After the reads there is at least the audit entry to be sent. -/
theorem exists_booking (audited : command.table? = some table) (id : Nat)
    (drafts : List Payslip.Draft) : ∃ booking ≠ [],
    command.lines id drafts = command.reads.map (⟨·, none⟩) ++ booking := by
  obtain ⟨entry, entered⟩ := exists_entry audited id drafts
  refine ⟨_, ?_, List.append_assoc ..⟩
  simp [entered]

end Command

variable {server : Server} {found : List (List Cell)}

namespace Talk

theorem found_of_readRow? {decode : List Cell → Option α} {reply : ServerReply} {row? : Option α}
    (read : readRow? decode reply = .ok row?) (some : row?.isSome = true) : reply.found ≠ [] := by
  intro none
  simp only [readRow?, none, Except.ok.injEq] at read
  subst read
  cases some

theorem found_of_readFirst {decode : List Cell → Option α} {reply : ServerReply}
    (read : readFirst decode reply = .ok a) : reply.found ≠ [] := by
  intro none
  simp [readFirst, none] at read

end Talk

open Talk

theorem Server.insertId_of_answered {statement : Statement} {reply : ServerReply}
    (answered : (server.hear statement).1 = .ok reply) :
    server.insertId statement = reply.insertId := by
  rw [insertId, answered]

namespace Step

/-- The audit entry is the last line. -/
theorem audit_script (table : AuditTable) (recordId : Nat) (record : Json) (actor : Actor)
    (now : Stamp) (answer : α) :
    (@bind Step _ Nat _ (audit table recordId record actor now) fun _ => pure answer).Says
      found server [⟨auditInsert (AuditEntry.created table recordId record actor now), none⟩] :=
  .insert (.insertAuditEntry (AuditEntry.created table recordId record actor now))
    (sends_insert fun _ => rfl) fun _ _ => .pure answer

/-- What is computed of each item is said to nobody. -/
theorem mapM_script {f : α → Except PayrollError β} {as : List α} {next : List β → Step γ}
    {lines : List Line} (left : lines ≠ [])
    (apt : ∀ cause, as.mapM f = .error cause → cause.isConflict = false)
    (rest : ∀ bs, as.mapM f = .ok bs → (next bs).Says found server lines) :
    (as.mapM (fun a => (liftM (f a) : Step β)) >>= next).Says found server lines := by
  rw [mapM_lift]
  cases computed : as.mapM f with
  | error cause =>
      refine ⟨[], .stopped left fun conflict => ?_⟩
      rw [apt cause computed] at conflict
      cases conflict
  | ok bs => exact rest bs computed

end Step

section Scripts
variable (now : Stamp) (actor : Actor) (period : Nat)

theorem createPeriod_script (first last : Date) :
    let command := Command.createPeriod now first last actor
    Step.Says command.operation.work found server
      (command.lines (command.insertId server) []) := by
  refine .insert (.insertPeriod _) (sends_insert fun _ => rfl) fun reply answered => ?_
  rw [← Server.insertId_of_answered answered]
  exact Step.audit_script ..

theorem submitAttendance_script (date : Date) :
    let command := Command.submitAttendance now actor period date
    Step.Says command.operation.work found server
      (command.lines (command.insertId server) []) := by
  refine .query (.getAttendance actor.user period date) (sends_row? _ fun _ => rfl)
    (List.cons_ne_nil _ _) fun reply earlier _ read => ?_
  refine .check (List.cons_ne_nil _ _) (fun seen _ => found_of_readRow? read seen) fun _ => ?_
  refine .query (.getPeriod period) (sends_row? _ fun _ => rfl)
    (List.cons_ne_nil _ _) fun reply window? _ _ => ?_
  cases window? with
  | none => exact .throw (List.cons_ne_nil _ _) nofun
  | some window =>
      refine .check (List.cons_ne_nil _ _) nofun fun _ => ?_
      refine .insertUnless (.insertAttendance _) (sends_insert fun _ => rfl)
        (fun reply answered => ?_) (.alreadyExists "attendance")
      rw [← Server.insertId_of_answered answered]
      exact Step.audit_script ..

theorem submitOvertime_script (date : Date) (hours : Int) :
    let command := Command.submitOvertime now actor period date hours
    Step.Says command.operation.work found server
      (command.lines (command.insertId server) []) := by
  refine .query (.getAttendance actor.user period date) (sends_row? _ fun _ => rfl)
    (List.cons_ne_nil _ _) fun _ _ _ _ => ?_
  refine .check (List.cons_ne_nil _ _) nofun fun _ => ?_
  refine .query (.getOvertime actor.user period date) (sends_row? _ fun _ => rfl)
    (List.cons_ne_nil _ _) fun reply earlier _ read => ?_
  refine .check (List.cons_ne_nil _ _) (fun seen _ => found_of_readRow? read seen) fun _ => ?_
  refine .query (.getPeriod period) (sends_row? _ fun _ => rfl)
    (List.cons_ne_nil _ _) fun _ _ _ _ => ?_
  refine .check (List.cons_ne_nil _ _) nofun fun _ => ?_
  refine .check (List.cons_ne_nil _ _) nofun fun _ => ?_
  refine .insertUnless (.insertOvertime _) (sends_insert fun _ => rfl)
    (fun reply answered => ?_) (.alreadyExists "overtime")
  rw [← Server.insertId_of_answered answered]
  exact Step.audit_script ..

theorem submitReimbursement_script (amount : Int) (description : String) :
    let command := Command.submitReimbursement now actor period amount description
    Step.Says command.operation.work found server
      (command.lines (command.insertId server) []) := by
  refine .query (.getPeriod period) (sends_row? _ fun _ => rfl)
    (List.cons_ne_nil _ _) fun _ _ _ _ => ?_
  refine .check (List.cons_ne_nil _ _) nofun fun _ => ?_
  refine .check (List.cons_ne_nil _ _) nofun fun _ => ?_
  refine .insert (.insertReimbursement _) (sends_insert fun _ => rfl) fun reply answered => ?_
  rw [← Server.insertId_of_answered answered]
  exact Step.audit_script ..

/-- The payslips that a payroll run computes from what a server answers it. -/
def Server.Pays (server : Server) (now : Stamp) (period : Nat) (drafts : List Payslip.Draft) :
    Prop :=
  ∃ held window tallied tallies,
    (server.hear (periodLock period)).1 = .ok held ∧
    readRow? Row.period? held = .ok (some window) ∧
    ((server.told [periodLock period, payslipsExistQuery period]).hear
      (talliesQuery period)).1 = .ok tallied ∧
    tallied.found.mapM (readRow Row.tally?) = .ok tallies ∧
    tallies.mapM (Payslip.compute · period window.workingDays now.toMicros) = .ok drafts

/-- What the payslips of a command have to be, given what a server answers it. -/
def Command.Computes (server : Server) (drafts : List Payslip.Draft) : Command → Prop
  | .runPayroll now period _ => server.Pays now period drafts
  | _ => drafts = []

theorem Server.Pays.unique {drafts drafts' : List Payslip.Draft}
    (h : server.Pays now period drafts) (h' : server.Pays now period drafts') :
    drafts = drafts' := by
  obtain ⟨held, window, tallied, tallies, answer, read, answer', read', computed⟩ := h
  obtain ⟨_, _, _, _, same, same₁, same₂, same₃, same₄⟩ := h'
  simp_all

theorem Server.Pays.stamped {drafts : List Payslip.Draft} (h : server.Pays now period drafts) :
    ∀ draft ∈ drafts, draft.createdAt = now.toMicros := by
  obtain ⟨held, window, tallied, tallies, -, -, -, -, computed⟩ := h
  intro draft mem
  obtain ⟨tally, -, of⟩ := exists_of_mem_right (forall₂_of_mapM computed) mem
  rw [(Payslip.of_compute of).1]

/-- A payroll run reads, and goes on with what it has computed. If it can compute nothing, it stops
with the reads, whatever was to come after them. -/
theorem runPayroll_script {rest : List Line} (left : rest ≠ [])
    {command : Command} (run : command = .runPayroll now period actor)
    (books : ∀ drafts, server.Pays now period drafts →
      command.lines (command.insertId server) drafts = command.reads.map (⟨·, none⟩) ++ rest) :
    Step.Says command.operation.work found server (command.reads.map (⟨·, none⟩) ++ rest) := by
  subst run
  refine .query (.lockPeriod period) (sends_row? _ fun _ => rfl)
    (List.cons_ne_nil _ _) fun held window? answer read => ?_
  refine .query (.payslipsExist period) (sends_payslipsExist period)
    (List.cons_ne_nil _ _) fun reply paid _ exists? => ?_
  refine .check (List.cons_ne_nil _ _) (fun seen _ => ?_) fun _ => ?_
  · cases first : readFirst Row.int? reply with
    | error cause => simp [first, Except.map] at exists?
    | ok n => exact found_of_readFirst first
  cases window? with
  | none => exact .throw (List.cons_ne_nil _ _) nofun
  | some window =>
      refine .check (List.cons_ne_nil _ _) nofun fun _ => ?_
      refine .query (.tallies period) (sends_rows _ fun _ => rfl) left
        fun tallied tallies answer' read' => ?_
      refine Step.mapM_script left (fun cause failed => ?_) fun drafts computed => ?_
      · obtain ⟨tally, -, failed⟩ := exists_of_mapM_error failed
        obtain ⟨rfl, -⟩ := Payslip.of_compute_error failed
        rfl
      · have booked := books drafts
          ⟨held, window, tallied, tallies, answer, read, answer', read', computed⟩
        rw [Command.lines, List.append_assoc, List.append_cancel_left_eq] at booked
        rw [← booked]
        change Step.Says _ _ _ (((chunks chunkSize drafts).map payslipInsert).map
          (⟨·, some (.alreadyProcessed period)⟩) ++ _)
        rw [List.map_map]
        exact .insertPayslips _ drafts fun _ _ _ => Step.audit_script ..

end Scripts

/-- What is said at the end: a unit of work that was begun and not committed is rolled back. -/
def Server.ending : List (Statement × Except StoreError ServerReply) → Except PayrollError α →
    List Statement
  | (_, .ok _) :: _, .error _ => [.rollback]
  | _, _ => []

theorem Server.run_unit (work : Work α) (server : Server) :
    work.run Store.answer (server, ()) =
      ((work.run (fun call => (Talk.answer call).run) server).1,
        (work.run (fun call => (Talk.answer call).run) server).2, ()) := by
  induction work generalizing server with
  | done a => rfl
  | ask call next ih => exact ih _ _

theorem Server.close_unit (step : Step α) (server : Server) :
    Operation.close true (Work.run Store.answer step.run (server, ())).1
        (Work.run Store.answer step.run (server, ())).2 =
      match step.onServer server with
      | (.error cause, server) => (.error cause, server.rollback)
      | (.ok a, server) =>
        match server.hear .commit with
        | (.error cause, server) => (.error (.store cause), server.rollback)
        | (.ok _, server) => (.ok a, server) := by
  rw [Server.run_unit]
  change Operation.close true (step.onServer server).1 ((step.onServer server).2, ()) = _
  rcases step.onServer server with ⟨cause | a, server⟩
  · rfl
  · simp only [Operation.close, Store.commit, commit, hear]
    rcases due server.commits with ⟨cause | u, commits⟩ <;> rfl

/-- An operation that writes, as statements and what comes between them. -/
theorem Server.run_operation {operation : Operation α} (commits : operation.commits = true)
    (server : Server) :
    operation.run server =
      match operation.check with
      | .error cause => (.error cause, server)
      | .ok () =>
        match server.hear .begin with
        | (.error cause, server) => (.error (.store cause), server)
        | (.ok _, server) =>
          match Step.onServer server operation.work with
          | (.error cause, server) => (.error cause, server.rollback)
          | (.ok a, server) =>
            match server.hear .commit with
            | (.error cause, server) => (.error (.store cause), server.rollback)
            | (.ok _, server) => (.ok a, server) := by
  unfold Operation.run
  rcases operation.check with cause | ⟨⟨⟩⟩
  · rfl
  · have begins : Store.begin server =
        ((due server.begins).1, (server.hear .begin).2) := rfl
    have heard : (server.hear .begin).1 = (due server.begins).1.map fun _ => .written 0 0 := rfl
    rw [begins, show server.hear .begin = (_, (server.hear .begin).2) from Prod.ext heard rfl]
    rcases (due server.begins).1 with cause | ⟨⟨⟩⟩
    · rfl
    · rw [commits]
      exact close_unit operation.work (server.hear .begin).2

/-- An operation that writes says its lines between the begin and the end of a unit of work. What it
says does not depend on how the lines go on that it does not get to. -/
theorem Operation.dialogue {operation : Operation α} (commits : operation.commits = true)
    (checks : operation.check = .ok () ∨ ∃ violation, operation.check = .error (.invalid violation))
    (server : Server) :
    ∃ said server',
      (operation.run server).2 =
        server'.told (Server.ending (server.transcript said) (operation.run server).1) ∧
      ∀ lines, (∀ found, Step.Says operation.work found (server.hear .begin).2 lines) →
        Dialogue [] server (⟨.begin, none⟩ :: lines ++ [⟨.commit, none⟩]) (operation.run server).1
          server' said := by
  rw [Server.run_operation commits]
  rcases checks with checked | ⟨violation, broken⟩
  · rw [checked]
    dsimp only
    cases begun : (server.hear .begin).1 with
    | error cause =>
        rw [show server.hear .begin = (_, _) from Prod.ext begun rfl]
        refine ⟨_, _, ?_, fun lines _ => .broken begun⟩
        simp [Server.transcript, begun, Server.ending, Server.told]
    | ok reply =>
        rw [show server.hear .begin = (_, _) from Prod.ext begun rfl]
        have keeps (lines : List Line)
            (script : ∀ found, Step.Says operation.work found (server.hear .begin).2 lines) :=
          (script reply.found).dialogue
        revert keeps
        generalize Step.said (server.hear .begin).2 operation.work = said
        dsimp only
        rcases Step.onServer (server.hear .begin).2 operation.work with ⟨cause | a, server'⟩
        · intro keeps
          refine ⟨.begin :: said, _, ?_, fun lines script =>
            .answered begun ((keeps lines script).extend _)⟩
          rw [Server.transcript_of_answered _ begun]
          rfl
        · intro keeps
          dsimp only at keeps ⊢
          cases committed : (server'.hear .commit).1 with
          | error cause =>
              rw [show server'.hear .commit = (_, _) from Prod.ext committed rfl]
              refine ⟨.begin :: (said ++ [.commit]), _, ?_, fun lines script =>
                .answered begun ((keeps lines script).append fun _ => .broken committed)⟩
              rw [Server.transcript_of_answered _ begun]
              rfl
          | ok reply =>
              rw [show server'.hear .commit = (_, _) from Prod.ext committed rfl]
              refine ⟨.begin :: (said ++ [.commit]), _, ?_, fun lines script =>
                .answered begun ((keeps lines script).append fun _ =>
                  .answered committed .finished)⟩
              rw [Server.transcript_of_answered _ begun]
              rfl
  · rw [broken]
    refine ⟨[], server, rfl, fun lines _ => .stopped (List.cons_ne_nil _ _) ?_⟩
    intro conflict
    cases conflict

/-- What begins two lists that part after `ys` begins `ys`. -/
theorem List.prefix_of_parting {xs ys zs zs' : List α} {z z' : α} (part : z ≠ z')
    (h : xs <+: ys ++ z :: zs) (h' : xs <+: ys ++ z' :: zs') : xs <+: ys := by
  obtain within | ⟨beyond, rfl⟩ := List.prefix_or_prefix_of_prefix h (List.prefix_append _ _)
  · exact within
  · rw [List.prefix_append_right_inj] at h h'
    cases beyond with
    | nil => exact (List.append_nil ys).symm ▸ List.prefix_rfl
    | cons first beyond =>
        have one := (List.cons_prefix_cons.mp h).1
        have other := (List.cons_prefix_cons.mp h').1
        exact absurd (one.symm.trans other) part

theorem Command.check_cases (command : Command) : command.operation.check = .ok () ∨
    ∃ violation, command.operation.check = .error (.invalid violation) := by
  cases command with
  | createPeriod now first last actor =>
      simp only [Command.operation, Wagebook.createPeriod]
      split
      · exact .inl rfl
      · exact .inr ⟨_, rfl⟩
  | _ => exact .inl rfl

/-- A command says its lines, with the payslips that it computes, or it does not get beyond its
reads. -/
theorem Command.says_lines {command : Command} {table : AuditTable}
    (audited : command.table? = some table) (server : Server) :
    (∃ drafts, command.Computes server drafts ∧ ∀ found, Step.Says command.operation.work found
      server (command.lines (command.insertId server) drafts)) ∨
    ∀ rest ≠ [], ∀ found, Step.Says command.operation.work found server
      (command.reads.map (⟨·, none⟩) ++ rest) := by
  cases command with
  | createPeriod now first last actor => exact .inl ⟨[], rfl, fun _ => createPeriod_script ..⟩
  | submitAttendance now actor period date =>
      exact .inl ⟨[], rfl, fun _ => submitAttendance_script ..⟩
  | submitOvertime now actor period date hours =>
      exact .inl ⟨[], rfl, fun _ => submitOvertime_script ..⟩
  | submitReimbursement now actor period amount description =>
      exact .inl ⟨[], rfl, fun _ => submitReimbursement_script ..⟩
  | runPayroll now period actor =>
      by_cases pays : ∃ drafts, server.Pays now period drafts
      · obtain ⟨drafts, pays⟩ := pays
        obtain ⟨booking, left, lines⟩ := exists_booking audited
          ((Command.runPayroll now period actor).insertId server) drafts
        refine .inl ⟨drafts, pays, fun found => ?_⟩
        rw [lines]
        refine runPayroll_script now actor period left rfl fun drafts' pays' => ?_
        rw [← pays.unique now period pays', lines]
      · exact .inr fun rest left found => runPayroll_script now actor period left rfl
          fun drafts pays' => absurd ⟨drafts, pays'⟩ pays
  | recordRequest now url method ipAddress => cases audited

/-- Whatever the server answers, a command keeps to its script. The payslips of a payroll run are
those that it computes from the answers, or it does not get beyond its reads. -/
theorem Command.dialogue {command : Command} {table : AuditTable}
    (audited : command.table? = some table) (server : Server) :
    ∃ drafts said server',
      Dialogue [] server (command.script (command.insertId (server.hear .begin).2) drafts)
        (command.operation.run server).1 server' said ∧
      (command.operation.run server).2 =
        server'.told (Server.ending (server.transcript said) (command.operation.run server).1) ∧
      (command.Computes (server.hear .begin).2 drafts ∨ said <+: .begin :: command.reads) := by
  obtain ⟨said, server', ended, keeps⟩ :=
    Operation.dialogue command.commits_operation command.check_cases server
  obtain ⟨drafts, computed, script⟩ | stops := command.says_lines audited (server.hear .begin).2
  · exact ⟨drafts, said, server', keeps _ script, ended, .inl computed⟩
  · have reads (rest : List Line) (left : rest ≠ []) :
        said <+: (.begin :: command.reads) ++ (rest.map (·.statement) ++ [.commit]) := by
      simpa [Function.comp_def] using (keeps _ (stops rest left)).isPrefix
    obtain ⟨booking, left, lines⟩ :=
      exists_booking audited (command.insertId (server.hear .begin).2) []
    refine ⟨[], said, server', ?_, ended, .inr ?_⟩
    · rw [script, lines]
      exact keeps _ (stops booking left)
    · refine List.prefix_of_parting (fun same => ?_)
        (reads [⟨.begin, none⟩] (List.cons_ne_nil _ _))
        (reads [⟨.commit, none⟩] (List.cons_ne_nil _ _))
      cases same

end Wagebook
