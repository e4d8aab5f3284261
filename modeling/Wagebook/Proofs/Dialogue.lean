import Wagebook.Proofs.Units
import Wagebook.Store.Talk

/-!
Dialogues: what a unit of work says to a database server, line by line. It goes on to the next line
only when the server has answered the one before, so a line that is refused is the last. A step of
an operation says its lines whatever the server answers.
-/

namespace Wagebook

namespace Server

/-- What the server answers to a statement, and the server after it. -/
def hear (server : Server) : Statement → Except StoreError ServerReply × Server
  | .begin =>
    ((due server.begins).1.map fun _ => .written 0 0,
      { server.record .begin with begins := (due server.begins).2 })
  | .commit =>
    ((due server.commits).1.map fun _ => .written 0 0,
      { server.record .commit with commits := (due server.commits).2 })
  | .rollback => (.ok (.written 0 0), server.rollback)
  | .insert table columns rows => (send (.insert table columns rows)).run server
  | .query text params => (send (.query text params)).run server

/-- The server after it has heard these statements. -/
def told (server : Server) (statements : List Statement) : Server :=
  statements.foldl (fun server statement => (server.hear statement).2) server

/-- The statements, each with what the server answers to it. -/
def transcript (server : Server) : List Statement → List (Statement × Except StoreError ServerReply)
  | [] => []
  | statement :: rest =>
    (statement, (server.hear statement).1) :: (server.hear statement).2.transcript rest

/-- The id of the row that a statement has inserted. -/
def insertId (server : Server) (statement : Statement) : Nat :=
  match (server.hear statement).1 with
  | .ok reply => reply.insertId
  | .error _ => 0

variable (server : Server)

theorem sent_hear (statement : Statement) :
    (server.hear statement).2.sent = server.sent ++ [statement] := by
  cases statement with
  | begin => rfl
  | commit => rfl
  | rollback => rfl
  | insert table columns rows =>
      simp only [hear, ExceptT.run, send, record]
      split <;> rfl
  | query text params =>
      simp only [hear, ExceptT.run, send, record]
      split <;> rfl

theorem sent_told (statements : List Statement) :
    (server.told statements).sent = server.sent ++ statements := by
  induction statements generalizing server with
  | nil => simp [told]
  | cons statement rest ih =>
      rw [told, List.foldl_cons, ← told, ih, sent_hear, List.append_assoc, List.singleton_append]

theorem transcript_append (before after : List Statement) :
    server.transcript (before ++ after) =
      server.transcript before ++ (server.told before).transcript after := by
  induction before generalizing server with
  | nil => rfl
  | cons statement before ih =>
      simp only [List.cons_append, transcript, ih]
      rfl

theorem transcript_of_answered {statement : Statement} {reply : ServerReply}
    (answered : (server.hear statement).1 = .ok reply) (rest : List Statement) :
    server.transcript (statement :: rest) =
      (statement, .ok reply) :: (server.hear statement).2.transcript rest := by
  rw [transcript, answered]

end Server

/-- A failure that says that something is there already. -/
def PayrollError.isConflict : PayrollError → Bool
  | .alreadyExists _ => true
  | .alreadyProcessed _ => true
  | _ => false

/-- What a failure of the store is reported as, where a collision with a unique key may have a
report of its own. -/
def PayrollError.ofStore (conflict? : Option PayrollError) : StoreError → PayrollError
  | .uniqueViolation text => conflict?.getD (.store (.uniqueViolation text))
  | cause => .store cause

theorem PayrollError.ofStore_none (cause : StoreError) : ofStore none cause = .store cause := by
  cases cause <;> rfl

/-- A statement, and what collisions with it are reported as. -/
structure Line where
  statement : Statement
  conflict? : Option PayrollError := none

def Line.failure (line : Line) : StoreError → PayrollError := .ofStore line.conflict?

/-- A unit of work that keeps to its lines. It ends when it has said all of them, when the server
refuses one, or when it stops by itself before that; that something is there already it has then
read in `found`, which is what the server found last. -/
inductive Dialogue : List (List Cell) → Server → List Line → Except PayrollError α → Server →
    List Statement → Prop
  | finished : Dialogue found server [] (.ok a) server []
  | stopped (left : lines ≠ []) (apt : cause.isConflict = true → found ≠ []) :
      Dialogue found server lines (.error cause) server []
  | refused (failed : (server.hear line.statement).1 = .error cause) :
      Dialogue found server (line :: lines) (.error (line.failure cause))
        (server.hear line.statement).2 [line.statement]
  | answered (answer : (server.hear line.statement).1 = .ok reply)
      (rest : Dialogue reply.found (server.hear line.statement).2 lines result server' said) :
      Dialogue found server (line :: lines) result server' (line.statement :: said)

namespace Dialogue

variable {found : List (List Cell)} {server server' : Server} {lines : List Line}
  {result : Except PayrollError α} {said : List Statement}

/-- A line that is refused, whose collisions have no report of their own. -/
theorem broken {statement : Statement} {cause : StoreError}
    (failed : (server.hear statement).1 = .error cause) :
    Dialogue found server (⟨statement, none⟩ :: lines)
      (.error (.store cause) : Except PayrollError α) (server.hear statement).2 [statement] := by
  rw [← PayrollError.ofStore_none cause]
  exact .refused (@id ((server.hear (Line.mk statement none).statement).1 = _) failed)

theorem told (h : Dialogue found server lines result server' said) :
    server' = server.told said := by
  induction h with
  | finished => rfl
  | stopped left apt => rfl
  | refused failed => rfl
  | answered answer rest ih => exact ih

theorem isPrefix (h : Dialogue found server lines result server' said) :
    said <+: lines.map (·.statement) := by
  induction h with
  | finished => exact List.prefix_refl []
  | stopped left apt => exact List.nil_prefix
  | refused failed => simp
  | answered answer rest ih => simpa using ih

/-- A line that is followed by another was answered, and so was every line of a success. -/
theorem all_answered (h : Dialogue found server lines result server' said) {before after}
    (split : said = before ++ after) (early : after ≠ [] ∨ ∃ a, result = .ok a) :
    ∀ entry ∈ server.transcript before, ∃ reply, entry.2 = .ok reply := by
  induction h generalizing before with
  | finished =>
      obtain ⟨rfl, rfl⟩ := List.append_eq_nil_iff.mp split.symm
      simp [Server.transcript]
  | stopped left apt =>
      obtain ⟨rfl, rfl⟩ := List.append_eq_nil_iff.mp split.symm
      simp [Server.transcript]
  | refused failed =>
      cases before with
      | nil => simp [Server.transcript]
      | cons first before =>
          simp only [List.cons_append, List.cons.injEq] at split
          obtain ⟨-, rfl⟩ := List.append_eq_nil_iff.mp split.2.symm
          rcases early with early | ⟨a, early⟩
          · exact absurd rfl early
          · cases early
  | answered answer rest ih =>
      cases before with
      | nil => simp [Server.transcript]
      | cons first before =>
          simp only [List.cons_append, List.cons.injEq] at split
          obtain ⟨rfl, split⟩ := split
          simp only [Server.transcript, List.mem_cons]
          rintro entry (rfl | mem)
          · exact ⟨_, answer⟩
          · exact ih split early entry mem

/-- A unit of work that has failed has not got to the lines that would come after its own. -/
theorem extend (h : Dialogue found server lines (.error cause : Except PayrollError α) server' said)
    (more : List Line) :
    Dialogue found server (lines ++ more) (.error cause : Except PayrollError β) server' said := by
  generalize failed : (Except.error cause : Except PayrollError α) = result at h
  induction h with
  | finished => cases failed
  | stopped left apt =>
      cases failed
      exact .stopped (fun none => left (List.append_eq_nil_iff.mp none).1) apt
  | refused refusal =>
      cases failed
      exact .refused refusal
  | answered answer rest ih => exact .answered answer (ih failed)

/-- What is said after all lines are answered. -/
theorem append (h : Dialogue found server lines (.ok a : Except PayrollError α) server' said)
    {more : List Line} {result : Except PayrollError β} {server'' : Server}
    {said' : List Statement}
    (rest : ∀ found, Dialogue found server' more result server'' said') :
    Dialogue found server (lines ++ more) result server'' (said ++ said') := by
  generalize ok : (Except.ok a : Except PayrollError α) = first at h
  induction h with
  | finished => exact rest _
  | stopped left apt => cases ok
  | refused failed => cases ok
  | answered answer _ ih => exact .answered answer (ih rest ok)

end Dialogue

/-! A call that is one statement hands on what it reads in the reply. -/

namespace Talk

open Server (send)

/-- The talk sends one statement and reads its reply. -/
def Sends (talk : Talk α) (statement : Statement)
    (read : ServerReply → Except StoreError α) : Prop :=
  ∀ server : Server,
    talk.run server = ((server.hear statement).1.bind read, (server.hear statement).2)

/-- A row as a query names its columns. -/
def readRow (decode : List Cell → Option α) (row : List Cell) : Except StoreError α :=
  match decode row with
  | some a => .ok a
  | none => .error (.database (.unexpectedData "a row does not have the columns of its query"))

def readRow? (decode : List Cell → Option α) (reply : ServerReply) : Except StoreError (Option α) :=
  match reply.found with
  | [] => .ok none
  | row :: _ => (readRow decode row).map some

def readFirst (decode : List Cell → Option α) (reply : ServerReply) : Except StoreError α :=
  match reply.found with
  | [] => .error (.database .noRow)
  | row :: _ => readRow decode row

theorem run_bind (talk : Talk α) (next : α → Talk β) (server : Server) :
    (talk >>= next).run server =
      match talk.run server with
      | (.error cause, server) => (.error cause, server)
      | (.ok a, server) => (next a).run server := by
  change StateT.run (ExceptT.run (talk >>= next)) server =
    match StateT.run (ExceptT.run talk) server with
    | (.error cause, server) => (.error cause, server)
    | (.ok a, server) => (next a).run server
  rw [ExceptT.run_bind, StateT.run_bind]
  rcases StateT.run (ExceptT.run talk) server with ⟨cause | a, server'⟩ <;> rfl

/-- Reading each of some rows says nothing to the server, and the first failure counts. -/
theorem run_mapM {f : α → Talk β} {g : α → Except StoreError β}
    (each : ∀ a (server : Server), (f a).run server = (g a, server)) (as : List α)
    (server : Server) : (as.mapM f).run server = (as.mapM g, server) := by
  induction as with
  | nil => rfl
  | cons a as ih =>
      rw [List.mapM_cons, List.mapM_cons, run_bind, each]
      cases g a with
      | error cause => rfl
      | ok b =>
          change (as.mapM f >>= fun bs => pure (b :: bs) : Talk (List β)).run server =
            (as.mapM g >>= fun bs => pure (b :: bs), server)
          rw [run_bind, ih]
          cases as.mapM g <;> rfl

theorem run_decoded (decode : List Cell → Option α) (row : List Cell) (server : Server) :
    (decoded decode row).run server = (readRow decode row, server) := by
  unfold decoded readRow
  cases decode row <;> rfl

section Sends

variable {statement : Statement} (decode : List Cell → Option α)
  (plain : ∀ server : Server, (send statement).run server = server.hear statement)
include plain

/-- What comes after one statement depends on its reply only. -/
theorem Sends.of_send {talk : Talk α} {next : ServerReply → Talk α}
    {read : ServerReply → Except StoreError α} (split : talk = send statement >>= next)
    (reads : ∀ reply (server : Server), (next reply).run server = (read reply, server)) :
    talk.Sends statement read := by
  intro server
  rw [split, run_bind, plain]
  rcases server.hear statement with ⟨cause | reply, server'⟩
  · rfl
  · exact reads reply server'

theorem sends_insert : Talk.Sends (insert statement) statement fun reply => .ok reply.insertId :=
  .of_send plain rfl fun _ _ => rfl

theorem sends_row? : Talk.Sends (row? decode statement) statement (readRow? decode) := by
  refine .of_send plain rfl fun reply server => ?_
  unfold readRow?
  cases reply.found with
  | nil => rfl
  | cons row rows =>
      change (some <$> decoded decode row : Talk (Option α)).run server =
        ((readRow decode row).map some, server)
      rw [map_eq_pure_bind, run_bind, run_decoded]
      cases readRow decode row <;> rfl

theorem sends_row : Talk.Sends (row decode statement) statement (readFirst decode) := by
  refine .of_send plain rfl fun reply server => ?_
  unfold readFirst
  cases reply.found with
  | nil => rfl
  | cons row rows => exact run_decoded decode row server

theorem sends_rows :
    Talk.Sends (rows decode statement) statement fun reply => reply.found.mapM (readRow decode) :=
  .of_send plain rfl fun reply => run_mapM (run_decoded decode) reply.found

end Sends

theorem Sends.map {talk : Talk α} {read : ServerReply → Except StoreError α}
    (h : talk.Sends statement read) (f : α → β) :
    Talk.Sends (do return f (← talk)) statement fun reply => (read reply).map f := by
  intro server
  rw [run_bind, h]
  rcases server.hear statement with ⟨cause | reply, server'⟩
  · rfl
  · change (match (read reply, server') with
      | (.error cause, server) => ((.error cause, server) : Except StoreError β × Server)
      | (.ok a, server) => (.ok (f a), server)) = ((read reply).map f, server')
    cases read reply <;> rfl

theorem sends_payslipsExist (period : Nat) :
    (payslipsExist period).Sends (payslipsExistQuery period)
      fun reply => (readFirst Row.int? reply).map (decide <| · ≠ 0) :=
  (sends_row _ fun _ => rfl).map _

end Talk

/-! A step says lines when they are what it says to the server, whatever the server answers. -/

namespace Step

/-- What a step comes to on a server, and the server after it. -/
def onServer (server : Server) (step : Step α) : Except PayrollError α × Server :=
  Work.run (fun call server => (Talk.answer call).run server) step.run server

def Says (step : Step α) (found : List (List Cell)) (server : Server) (lines : List Line) : Prop :=
  ∃ said, Dialogue found server lines (step.onServer server).1 (step.onServer server).2 said

/-- What a step says to a server. -/
def said (server : Server) (step : Step α) : List Statement :=
  (step.onServer server).2.sent.drop server.sent.length

/-- Whichever lines a step keeps to, it says the same. -/
theorem Says.dialogue {step : Step α} {found : List (List Cell)} {server : Server}
    {lines : List Line} (h : step.Says found server lines) :
    Dialogue found server lines (step.onServer server).1 (step.onServer server).2
      (step.said server) := by
  obtain ⟨said, dialogue⟩ := h
  have sent : (step.onServer server).2.sent = server.sent ++ said := by
    rw [dialogue.told, Server.sent_told]
  rwa [Step.said, sent, List.drop_left]

/-- How a step goes on after a call. -/
def resume (failure : StoreError → PayrollError) (next : α → Step β) :
    Except StoreError α × Server → Except PayrollError β × Server
  | (.error cause, server) => (.error (failure cause), server)
  | (.ok a, server) => (next a).onServer server

theorem onServer_call (failure : StoreError → PayrollError) (call : Call)
    (next : call.Reply → Step β) (server : Server) :
    (@bind Step _ _ _ (Work.ask call fun reply => .done (reply.mapError failure)) next).onServer
        server =
      resume failure next ((Talk.answer call).run server) := by
  unfold onServer
  change Work.run _ (.ask _ _) _ = _
  simp only [Work.run]
  rcases (Talk.answer call).run server with ⟨cause | a, server'⟩ <;> rfl

theorem askUnless_eq (conflict : PayrollError) (call : Call) :
    askUnless conflict call =
      Work.ask call fun reply => .done (reply.mapError (.ofStore (some conflict))) := rfl

namespace Says

variable {found : List (List Cell)} {server : Server} {lines : List Line}

theorem pure (a : α) : (Pure.pure a : Step α).Says found server [] := ⟨[], .finished⟩

theorem throw {cause : PayrollError} (left : lines ≠ [])
    (apt : cause.isConflict = true → found ≠ []) :
    (MonadExcept.throw cause : Step α).Says found server lines := ⟨[], .stopped left apt⟩

/-- A check, of what was read last or of the arguments. -/
theorem check {c : Prop} [Decidable c] {cause : PayrollError} {next : α → Step β} {step : Step β}
    (left : lines ≠ []) (apt : c → cause.isConflict = true → found ≠ [])
    (rest : ¬ c → step.Says found server lines) :
    (if c then (MonadExcept.throw cause : Step α) >>= next else step).Says found server lines := by
  split
  · rename_i broken
    exact ⟨[], .stopped left (apt broken)⟩
  · rename_i kept
    exact rest kept

/-- A call of one statement says one line, and what comes after it says the others. -/
theorem call (call : Call) {line : Line} {read : ServerReply → Except StoreError call.Reply}
    (sends : (Talk.answer call).Sends line.statement read)
    (readable : ∀ reply cause, read reply = .error cause →
      lines ≠ [] ∧ (line.failure cause).isConflict = false)
    {next : call.Reply → Step β}
    (rest : ∀ reply a, (server.hear line.statement).1 = .ok reply → read reply = .ok a →
      (next a).Says reply.found (server.hear line.statement).2 lines) :
    (@bind Step _ _ _ (Work.ask call fun reply => .done (reply.mapError line.failure))
      next).Says found server (line :: lines) := by
  unfold Says
  rw [onServer_call, sends]
  cases heard : (server.hear line.statement).1 with
  | error cause => exact ⟨_, .refused heard⟩
  | ok reply =>
      simp only [Except.bind]
      cases value : read reply with
      | error cause =>
          obtain ⟨left, other⟩ := readable reply cause value
          refine ⟨_, .answered heard (.stopped left fun conflict => ?_)⟩
          rw [other] at conflict
          cases conflict
      | ok a =>
          obtain ⟨said, dialogue⟩ := rest reply a heard value
          exact ⟨_, .answered heard dialogue⟩

private theorem failure_plain (statement : Statement) :
    (⟨statement, none⟩ : Line).failure = .store :=
  funext PayrollError.ofStore_none

/-- A query comes before other lines, since its reply may turn out not to be readable. -/
theorem query (asked : Call) {statement : Statement}
    {read : ServerReply → Except StoreError asked.Reply}
    (sends : (Talk.answer asked).Sends statement read) {next : asked.Reply → Step β}
    (left : lines ≠ [])
    (rest : ∀ reply a, (server.hear statement).1 = .ok reply → read reply = .ok a →
      (next a).Says reply.found (server.hear statement).2 lines) :
    (ask asked >>= next).Says found server (⟨statement, none⟩ :: lines) := by
  have spoken : (@bind Step _ _ _ (Work.ask asked fun reply =>
      .done (reply.mapError (⟨statement, none⟩ : Line).failure)) next).Says found server
      (⟨statement, none⟩ :: lines) :=
    Says.call asked sends (fun _ _ _ => ⟨left, by rw [failure_plain]; rfl⟩) rest
  rw [failure_plain] at spoken
  exact spoken

section Inserts
variable (asked : Call) {statement : Statement} {value : ServerReply → asked.Reply}
  (sends : (Talk.answer asked).Sends statement fun reply => .ok (value reply))
  {next : asked.Reply → Step β}
  (rest : ∀ reply, (server.hear statement).1 = .ok reply →
    (next (value reply)).Says reply.found (server.hear statement).2 lines)
include sends rest

private theorem insertLine (conflict? : Option PayrollError) :
    (@bind Step _ _ _ (Work.ask asked fun reply =>
      .done (reply.mapError (⟨statement, conflict?⟩ : Line).failure)) next).Says found server
      (⟨statement, conflict?⟩ :: lines) := by
  refine Says.call asked sends (fun _ _ unreadable => by cases unreadable) ?_
  rintro reply a heard ⟨⟩
  exact rest reply heard

theorem insert : (ask asked >>= next).Says found server (⟨statement, none⟩ :: lines) := by
  have spoken := @insertLine _ found server lines asked statement value sends next rest none
  rw [failure_plain] at spoken
  exact spoken

/-- An insert whose collisions have a report of their own. -/
theorem insertUnless (conflict : PayrollError) :
    (askUnless conflict asked >>= next).Says found server (⟨statement, some conflict⟩ :: lines) :=
  insertLine asked sends rest (some conflict)

end Inserts

private theorem resume_chunks (failure : StoreError → PayrollError) (next : Nat → Step β)
    (chunk : List Payslip.Draft) (chunks : List (List Payslip.Draft)) (server : Server) :
    resume failure next ((Talk.insertChunks (chunk :: chunks)).run server) =
      match server.hear (Talk.payslipInsert chunk) with
      | (.error cause, server) => (.error (failure cause), server)
      | (.ok reply, server) =>
        resume failure (fun n => next (reply.affected + n))
          ((Talk.insertChunks chunks).run server) := by
  have split : Talk.insertChunks (chunk :: chunks) =
      Server.send (Talk.payslipInsert chunk) >>= fun reply =>
        (return reply.affected + (← Talk.insertChunks chunks)) := rfl
  have sends : (Server.send (Talk.payslipInsert chunk)).run server =
      server.hear (Talk.payslipInsert chunk) := rfl
  rw [split, Talk.run_bind, sends]
  rcases server.hear (Talk.payslipInsert chunk) with ⟨cause | reply, server⟩
  · rfl
  · simp only [Talk.run_bind]
    rcases (Talk.insertChunks chunks).run server with ⟨cause | n, server⟩ <;> rfl

private theorem chunks (conflict : PayrollError) (chunks : List (List Payslip.Draft))
    {next : Nat → Step β} (rest : ∀ n found server, (next n).Says found server lines) :
    let told := resume (.ofStore (some conflict)) next ((Talk.insertChunks chunks).run server)
    ∃ said, Dialogue found server
      (chunks.map (fun chunk => ⟨Talk.payslipInsert chunk, some conflict⟩) ++ lines)
      told.1 told.2 said := by
  induction chunks generalizing found server next with
  | nil => exact rest 0 found server
  | cons chunk chunks ih =>
      let line : Line := ⟨Talk.payslipInsert chunk, some conflict⟩
      intro told
      have equation : told = _ := resume_chunks _ next chunk chunks server
      rw [equation]
      cases heard : (server.hear line.statement).1 with
      | error cause =>
          rw [show server.hear (Talk.payslipInsert chunk) = (_, _) from Prod.ext heard rfl]
          exact ⟨_, .refused heard⟩
      | ok reply =>
          rw [show server.hear (Talk.payslipInsert chunk) = (_, _) from Prod.ext heard rfl]
          obtain ⟨said, dialogue⟩ := @ih reply.found (server.hear line.statement).2 _
            fun n => rest (reply.affected + n)
          exact ⟨_, .answered heard dialogue⟩

/-- Payslips are sent chunk by chunk, and the first chunk that is refused is the last. -/
theorem insertPayslips (conflict : PayrollError) (drafts : List Payslip.Draft)
    {next : Nat → Step β}
    (rest : ∀ n found server, (next n).Says found server lines) :
    (@bind Step _ Nat _ (Step.askUnless conflict (.insertPayslips drafts)) next).Says found server
      ((Talk.chunks Talk.chunkSize drafts).map
        (fun chunk => ⟨Talk.payslipInsert chunk, some conflict⟩) ++ lines) := by
  have equation := onServer_call (.ofStore (some conflict)) (.insertPayslips drafts) next server
  rw [← askUnless_eq] at equation
  unfold Says
  rw [equation]
  exact Says.chunks conflict (Talk.chunks Talk.chunkSize drafts) rest

end Says
end Step
end Wagebook
