import Wagebook.Proofs.Scripts

/-!
The discipline of commits. Whatever a database server answers, a command that is audited sends its
statements in one order, commits only what has been answered and audited, and reports the failure
of a statement as what it is.
-/

namespace Wagebook

/-- The table that a statement inserts into. -/
def Statement.target? : Statement → Option String
  | .insert table _ _ => some table
  | _ => none

/-- The table of the audit trail. -/
def auditTarget : String := "audit_logs"

theorem AuditTable.name_ne_auditTarget (table : AuditTable) : table.name ≠ auditTarget := by
  cases table <;> decide

/-- Where the one item of its kind stands in the beginning of a list. -/
theorem List.split_of_only {kind : α → Prop} {xs ys before after : List α} {x y : α}
    (only : ∀ z ∈ xs ++ ys, ¬ kind z) (x_kind : kind x)
    (h : before ++ x :: after <+: xs ++ y :: ys) : before = xs ∧ x = y ∧ after <+: ys := by
  induction xs generalizing before with
  | nil =>
      cases before with
      | nil => simpa using h
      | cons b before =>
          have mem : x ∈ ys := (List.cons_prefix_cons.mp h).2.subset (by simp)
          exact absurd x_kind (only x (by simpa using mem))
  | cons a xs ih =>
      cases before with
      | nil =>
          obtain ⟨rfl, -⟩ := List.cons_prefix_cons.mp h
          exact absurd x_kind (only x (by simp))
      | cons b before =>
          obtain ⟨rfl, rest⟩ := List.cons_prefix_cons.mp h
          obtain ⟨rfl, same, rest⟩ := ih (fun z mem => only z (by simp_all)) rest
          exact ⟨rfl, same, rest⟩

namespace Server

variable {server : Server} {said : List Statement}

end Server

namespace Command

variable {command : Command} {table : AuditTable} {id : Nat} {drafts : List Payslip.Draft}

theorem query_of_reads {statement : Statement} (mem : statement ∈ command.reads) :
    ∃ text params, statement = .query text params := by
  cases command <;> simp only [reads, List.mem_cons, List.not_mem_nil, or_false] at mem <;>
    rcases mem with rfl | rfl | rfl <;> exact ⟨_, _, rfl⟩

theorem insert_of_inserts (audited : command.table? = some table) {statement : Statement}
    (mem : statement ∈ command.inserts drafts) :
    ∃ columns rows, statement = .insert table.name columns rows := by
  cases command with
  | runPayroll now period actor =>
      cases audited
      obtain ⟨chunk, -, rfl⟩ := List.mem_map.mp mem
      exact ⟨_, _, rfl⟩
  | recordRequest now url method ipAddress => cases audited
  | _ =>
      cases audited
      obtain rfl := List.mem_singleton.mp mem
      exact ⟨_, _, rfl⟩

/-- What is said before the audit entry. -/
def body (drafts : List Payslip.Draft) (command : Command) : List Statement :=
  .begin :: command.reads ++ command.inserts drafts

theorem statements_script {entry : AuditEntry.Draft}
    (audit : command.entry? id drafts = some entry) :
    (command.script id drafts).map (·.statement) =
      command.body drafts ++ [Talk.auditInsert entry, .commit] := by
  simp [script, lines, body, audit, Function.comp_def]

theorem body_cases (audited : command.table? = some table) {statement : Statement}
    (mem : statement ∈ command.body drafts) :
    statement = .begin ∨ (∃ text params, statement = .query text params) ∨
      ∃ columns rows, statement = .insert table.name columns rows := by
  simp only [body, List.cons_append, List.mem_cons, List.mem_append] at mem
  rcases mem with rfl | mem | mem
  · exact .inl rfl
  · exact .inr (.inl (query_of_reads mem))
  · exact .inr (.inr (insert_of_inserts audited mem))

theorem no_audit_in_body (audited : command.table? = some table) {statement : Statement}
    (mem : statement ∈ command.body drafts) : statement.target? ≠ some auditTarget := by
  rcases body_cases audited mem with rfl | ⟨text, params, rfl⟩ | ⟨columns, rows, rfl⟩
  · nofun
  · nofun
  · exact fun same => table.name_ne_auditTarget (Option.some.inj same)

section Said

variable {server server' : Server} {said : List Statement} {result : Except PayrollError Nat}
  {entry : AuditEntry.Draft} (audited : command.table? = some table)
  (entered : command.entry? id drafts = some entry)
  (h : Dialogue [] server (command.script id drafts) result server' said)
include entered h

theorem said_ordered : said <+: command.body drafts ++ [Talk.auditInsert entry, .commit] :=
  statements_script entered ▸ h.isPrefix

theorem ending_cases :
    Server.ending (server.transcript said) result = [.rollback] ∧
      (∃ reply, (.begin, .ok reply) ∈ server.transcript said) ∧ (∃ cause, result = .error cause) ∨
    Server.ending (server.transcript said) result = [] ∧
      ((∀ reply, (.begin, .ok reply) ∉ server.transcript said) ∨ ∃ n, result = .ok n) := by
  cases said with
  | nil => exact .inr ⟨rfl, .inl fun _ => List.not_mem_nil⟩
  | cons first rest =>
      obtain rfl := (List.cons_prefix_cons.mp (said_ordered entered h)).1
      cases begun : (server.hear .begin).1 with
      | ok reply =>
          rw [Server.transcript_of_answered _ begun]
          cases result with
          | ok n => exact .inr ⟨rfl, .inr ⟨n, rfl⟩⟩
          | error cause => exact .inl ⟨rfl, ⟨reply, List.mem_cons_self⟩, cause, rfl⟩
      | error cause =>
          have last : rest = [] := by
            by_contra more
            obtain ⟨reply, answer⟩ := h.all_answered (List.singleton_append).symm (.inl more) _
              List.mem_cons_self
            rw [begun] at answer
            cases answer
          subst last
          rw [Server.transcript, begun]
          exact .inr ⟨rfl, .inl (by simp [Server.transcript])⟩

include audited

theorem around_audit {before after : List Statement} {statement : Statement}
    (split : said = before ++ statement :: after)
    (target : statement.target? = some auditTarget) :
    before = command.body drafts ∧ statement = Talk.auditInsert entry ∧ after <+: [.commit] := by
  have ordered := said_ordered entered h
  rw [split] at ordered
  have only (other : Statement) (mem : other ∈ command.body drafts ++ [.commit]) :
      ¬ other.target? = some auditTarget := by
    rcases List.mem_append.mp mem with mem | mem
    · exact no_audit_in_body audited mem
    · obtain rfl := List.mem_singleton.mp mem
      exact nofun
  exact List.split_of_only only target ordered

end Said

end Command

/-- A server that knows a period, and takes an attendance. -/
def Server.ready : Server where
  replies :=
    [.rows [],
      .rows [[.int 1, .date ⟨2024, 2, 5, by decide⟩, .date ⟨2024, 2, 9, by decide⟩, .bool false,
        .stamp .payday, .stamp .payday]],
      .written 7 1, .written 8 1]

/-- A server with two employees, whom nobody has paid as yet. -/
def Server.unpaid : Server where
  replies :=
    [.rows [[.int 1, .date ⟨2024, 2, 5, by decide⟩, .date ⟨2024, 2, 9, by decide⟩, .bool false,
        .stamp .payday, .stamp .payday]],
      .rows [[.int 0]],
      .rows [[.int 2, .int 1000, .int 5, .int 2, .int 0],
        [.int 3, .int 700, .int 4, .int 0, .int 25]],
      .written 1 2, .written 8 1]

end Wagebook
