import Mathlib.Logic.Relation
import Wagebook.Proofs.Interleaving
import Wagebook.Proofs.Pay

/-!
A period is paid by one run only, however the steps of all clients mix. Hidden lookups do not change
that: everyone whom the first run paid is still on the roster of a later one, which collides with
it.
-/

namespace Wagebook

/-- The period that a command pays. -/
def Command.paidPeriod? : Command → Option Nat
  | .runPayroll _ period _ => some period
  | _ => none

namespace Client

def succeeded (c : Client) : Bool :=
  match c.stage with
  | .returned (.ok _) => true
  | _ => false

/-- It has committed payslips of the period. -/
def pays (period : Nat) (c : Client) : Bool :=
  c.command.paidPeriod? == some period && c.succeeded && !c.drafts.isEmpty

variable {c c' : Client} {shared shared' : Shared Memory}

theorem succeeded_iff : c.succeeded = true ↔ ∃ n, c.result? = some (.ok n) := by
  unfold succeeded result?
  split
  · rename_i n stage
    simp [stage]
  · rename_i other
    cases stage : c.stage with
    | returned result =>
        cases result with
        | ok n => exact absurd stage (other n)
        | error cause => simp
    | _ => simp

theorem not_succeeded (h : ∀ n, c.result? ≠ some (.ok n)) : c.succeeded = false := by
  rw [Bool.eq_false_iff, ne_eq, succeeded_iff]
  rintro ⟨n, ok⟩
  exact h n ok

theorem not_pays_of_result (period : Nat) (h : ∀ n, c.result? ≠ some (.ok n)) :
    c.pays period = false := by
  simp [pays, not_succeeded h]

theorem Move.pending (moved : Move shared c shared' c') : c.result? = none := by
  cases moved with
  | refuse arrived refused => simp only [result?, arrived]
  | queue arrived passed => simp only [result?, arrived]
  | begin queued free began => simp only [result?, queued]
  | call working held answered => simp only [result?, working]
  | finish working held closed => simp only [result?, working]

theorem Move.command (moved : Move shared c shared' c') : c'.command = c.command := by
  cases moved <;> rfl

end Client

/-- What a command that succeeds does to the payslips. -/
theorem Command.Writes.payslips {t t' : Tables} {command : Command} {n : Nat}
    (writes : Command.Writes t command n t') :
    (command.paidPeriod? = none ∧ t'.payslips = t.payslips) ∨
      ∃ now period actor window drafts, command = .runPayroll now period actor ∧
        t.period? period = some window ∧ 0 < window.workingDays ∧
        (t.tallies period).mapM (Payslip.compute · period window.workingDays now.toMicros) =
          .ok drafts ∧
        t.Free drafts ∧ t'.payslips = t.payslips ++ Payslip.storedFrom t.nextId drafts := by
  cases writes with
  | payroll known days computed free =>
      refine .inr ⟨_, _, _, _, _, rfl, known, days, computed, free, ?_⟩
      rw [Tables.bookPayslips, Tables.addPayslips_eq]
      rfl
  | period order => exact .inl ⟨rfl, rfl⟩
  | attendance known inside free => exact .inl ⟨rfl, rfl⟩
  | overtime attended known least most free => exact .inl ⟨rfl, rfl⟩
  | reimbursement known positive => exact .inl ⟨rfl, rfl⟩
  | request => exact .inl ⟨rfl, rfl⟩

theorem Payslip.filter_storedFrom {drafts : List Payslip.Draft} {paid : Nat}
    (h : ∀ draft ∈ drafts, draft.period = paid) (id period : Nat) :
    (storedFrom id drafts).filter (·.period = period) =
      if paid = period then storedFrom id drafts else [] := by
  have rows : ∀ p ∈ storedFrom id drafts, p.period = paid := by
    intro p mem
    obtain ⟨-, -, draft, hdraft, eq⟩ := mem_storedFrom mem
    rw [eq]
    exact h draft hdraft
  split
  · rename_i same
    rw [List.filter_eq_self]
    intro p mem
    simp [rows p mem, same]
  · rename_i other
    rw [List.filter_eq_nil_iff]
    intro p mem
    simp [rows p mem, other]

/-- The clients that have paid a period, and its stored payslips. -/
structure World.Paying (period : Nat) (w : World) : Prop where
  once : w.clients.countP (·.pays period) ≤ 1
  unpaid : w.clients.countP (·.pays period) = 0 →
    w.shared.store.tables.payslips.filter (·.period = period) = []
  stored : ∀ c ∈ w.clients, c.pays period = true →
    ∃ id, w.shared.store.tables.payslips.filter (·.period = period) =
      Payslip.storedFrom id c.drafts

namespace World.Paying

variable {period : Nat} {shared shared' : Shared Memory} {clients before after : List Client}
  {c c' : Client}

theorem replace (h : Paying period ⟨shared, before ++ c :: after⟩) (idle : c.pays period = false)
    (still : c'.pays period = false)
    (same : shared'.store.tables.payslips.filter (·.period = period) =
      shared.store.tables.payslips.filter (·.period = period)) :
    Paying period ⟨shared', before ++ c' :: after⟩ where
  once := by
    have once := h.once
    simp only [countP_middle, idle, still] at once ⊢
    exact once
  unpaid := by
    have unpaid := h.unpaid
    simp only [countP_middle, idle, still] at unpaid ⊢
    rw [same]
    exact unpaid
  stored := by
    intro d mem pays
    rw [same]
    rcases mem_middle.mp mem with rfl | other
    · rw [still] at pays
      cases pays
    · exact h.stored d (mem_middle.mpr (.inr other)) pays

/-- A run that pays someone finds the period unpaid, so no other run has paid it. -/
theorem pay (h : Paying period ⟨shared, before ++ c :: after⟩) (pays : c'.pays period = true)
    (unpaid : shared.store.tables.payslips.filter (·.period = period) = []) {id : Nat}
    (new : shared'.store.tables.payslips.filter (·.period = period) =
      Payslip.storedFrom id c'.drafts) :
    Paying period ⟨shared', before ++ c' :: after⟩ := by
  have none : ∀ d ∈ before ++ after, d.pays period = false := by
    intro d mem
    rw [Bool.eq_false_iff]
    intro pays
    obtain ⟨id, stored⟩ := h.stored d (mem_middle.mpr (.inr mem)) pays
    have len := congrArg List.length (unpaid.symm.trans stored)
    simp only [List.length_nil, Payslip.length_storedFrom] at len
    simp [Client.pays, List.eq_nil_of_length_eq_zero len.symm] at pays
  have count : before.countP (·.pays period) + after.countP (·.pays period) = 0 := by
    rw [← List.countP_append, List.countP_eq_zero]
    intro d mem
    simp [none d mem]
  constructor
  · simp only [countP_middle, count, pays, Bool.toNat_true]
    exact Nat.le_refl 1
  · simp [pays]
  · intro d mem paysToo
    rcases mem_middle.mp mem with rfl | other
    · exact ⟨id, new⟩
    · rw [none d other] at paysToo
      cases paysToo

/-- A run that has ended well is the first of its period, or has paid nobody. -/
theorem payroll (h : Paying period ⟨shared, before ++ c :: after⟩)
    (reached : shared.store.tables.Reachable) (idle : c.pays period = false)
    (command : c'.command = .runPayroll now paid actor) (succeeded : c'.succeeded = true)
    (computed : (shared.store.tables.tallies paid).mapM (Payslip.compute · paid days createdAt) =
      .ok c'.drafts)
    (free : shared.store.tables.Free c'.drafts)
    (payslips : shared'.store.tables.payslips =
      shared.store.tables.payslips ++ Payslip.storedFrom shared.store.tables.nextId c'.drafts) :
    Paying period ⟨shared', before ++ c' :: after⟩ := by
  have periods : ∀ draft ∈ c'.drafts, draft.period = paid := by
    intro draft mem
    obtain ⟨u, -, -, of⟩ := Tables.exists_employee computed mem
    rw [(Payslip.of_compute of).1]
  have new : shared'.store.tables.payslips.filter (·.period = period) =
      shared.store.tables.payslips.filter (·.period = period) ++
        if paid = period then Payslip.storedFrom shared.store.tables.nextId c'.drafts else [] := by
    rw [payslips, List.filter_append, Payslip.filter_storedFrom periods]
  have pays : c'.pays period = (paid == period && !c'.drafts.isEmpty) := by
    simp [Client.pays, command, Command.paidPeriod?, succeeded]
  by_cases same : paid = period ∧ c'.drafts ≠ []
  · obtain ⟨rfl, some⟩ := same
    have unpaid : shared.store.tables.payslips.filter (·.period = paid) = [] := by
      rw [List.filter_eq_nil_iff]
      intro p mem
      simpa using reached.paid.first_run computed free p mem
    apply h.pay (by simp [pays, some]) unpaid
    rw [new, unpaid, if_pos rfl, List.nil_append]
  · apply h.replace idle
    · simpa [pays] using same
    · rw [new]
      split
      · rename_i this
        have none : c'.drafts = [] := by simpa [this] using same
        simp [none, Payslip.storedFrom]
      · exact List.append_nil _

theorem move (h : Paying period ⟨shared, before ++ c :: after⟩)
    (sound : Sound ⟨shared, before ++ c :: after⟩) (moved : Client.Move shared c shared' c') :
    Paying period ⟨shared', before ++ c' :: after⟩ := by
  have mine := sound.consistent c (mem_middle.mpr (.inl rfl))
  have idle : c.pays period = false := c.not_pays_of_result period (by simp [moved.pending])
  obtain ⟨same, none⟩ | ⟨cause, -, rfl, refused⟩ | ⟨copy, result, -, returned, ran, made⟩ :=
    moved.cases_of_consistent mine
  · exact h.replace idle (c'.not_pays_of_result period (by simp [none])) (by rw [same])
  · exact h.replace idle (c'.not_pays_of_result period (by simp [refused])) rfl
  obtain ⟨cause, failed⟩ | ⟨n, t, done, writes⟩ :=
    c.command.run_cases { shared.store with switches := copy.switches }
  · rw [failed, Prod.mk.injEq, Memory.mk.injEq] at ran
    obtain ⟨rfl, tables, -⟩ := ran
    exact h.replace idle (c'.not_pays_of_result period (by simp [returned])) (by rw [← tables])
  have ran' := done.symm.trans ran
  rw [Prod.mk.injEq, Memory.mk.injEq] at ran'
  obtain ⟨rfl, tables, -⟩ := ran'
  obtain ⟨other, same⟩ | ⟨now, paid, actor, window, drafts, command, known, days, computed, free,
    payslips⟩ := writes.payslips
  · have still : c'.pays period = false := by simp [Client.pays, moved.command, other]
    exact h.replace idle still (by rw [← tables, same])
  · have handed : c'.drafts = drafts := by
      rw [Client.drafts, made, command]
      rw [command] at done
      exact Memory.drafts_of_run done known days computed free
    subst handed
    exact h.payroll sound.reached idle (moved.command.trans command)
      (Client.succeeded_iff.mpr ⟨n, returned⟩) computed free (tables ▸ payslips)

theorem turn {w w' : World} (h : w.Paying period) (sound : w.Sound) (turn : Turn w w') :
    w'.Paying period := by
  cases turn with
  | move moved => exact h.move sound moved
  | arrive command =>
      have fresh : ({ command := command } : Client).pays period = false :=
        Client.not_pays_of_result period (by simp [Client.result?])
      refine ⟨?_, ?_, ?_⟩
      · simpa [fresh] using h.once
      · simpa [fresh] using h.unpaid
      · intro d mem pays
        rcases List.mem_append.mp mem with old | new
        · exact h.stored d old pays
        · rw [List.mem_singleton.mp new, fresh] at pays
          cases pays
  | addUser free now username passwordHash salary isAdmin => exact ⟨h.once, h.unpaid, h.stored⟩
  | switch switches => exact ⟨h.once, h.unpaid, h.stored⟩
  | leave idle pending =>
      exact h.replace (Client.not_pays_of_result period (by simp [pending]))
        (Client.not_pays_of_result period (by simp [Client.result?])) rfl
  | drop working =>
      obtain ⟨rest, stage⟩ := Client.exists_rest working
      obtain ⟨copy, continues⟩ := (sound.consistent _ (mem_middle.mpr (.inl rfl))).continues stage
      rw [rollback_of_held continues.held]
      exact h.replace (Client.not_pays_of_result period (by simp [Client.result?, stage]))
        (Client.not_pays_of_result period (by simp [Client.result?])) rfl

end World.Paying
end Wagebook
