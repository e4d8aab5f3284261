import Wagebook.Proofs.OnePayroll
import Wagebook.Proofs.Progress

/-!
Runs that contend for one period while nothing else changes the tables. Whichever ends first pays
the period, and each of the others is told that it came late.
-/

namespace Wagebook

open Relation

/-- No amount of the employee's payslip leaves the 64 bits. -/
def Tally.Payable (tally : Tally) (days : Int) : Prop :=
  let attendance := tally.presentDays * tally.baseSalary
  let overtime := tally.overtimeHours * tally.baseSalary
  let pay := attendance.tdiv days + overtime.tdiv days
  Amount.Fits attendance ∧ Amount.Fits overtime ∧ Amount.Fits pay ∧
    Amount.Fits (pay + tally.reimbursementTotal)

theorem Tally.Payable.compute {tally : Tally} {days : Int} (h : tally.Payable days) (period : Nat)
    (createdAt : Stamp) : ∃ draft, Payslip.compute tally period days createdAt = .ok draft := by
  unfold Payslip.compute
  exact ⟨_, if_pos h⟩

namespace Tables

variable {t : Tables} {period : Nat} {drafts : List Payslip.Draft}

theorem free_of_users (users : (drafts.map (·.user)).Nodup)
    (free : ∀ draft ∈ drafts, t.payslip? draft.user draft.period = none) : t.Free drafts := by
  induction drafts generalizing t with
  | nil => trivial
  | cons draft drafts ih =>
      rw [List.map_cons, List.nodup_cons] at users
      refine ⟨free draft List.mem_cons_self, ih users.2 ?_⟩
      intro draft' mem
      have unstored := payslip?_eq_none.mp (free draft' (List.mem_cons_of_mem _ mem))
      rw [payslip?_eq_none]
      intro p hp
      rcases List.mem_append.mp hp with old | new
      · exact unstored p old
      · rw [List.mem_singleton.mp new]
        rintro ⟨same, -⟩
        exact users.1 (List.mem_map.mpr ⟨draft', mem, same.symm⟩)

/-- The employees are tallied in the order in which they joined. -/
theorem users_tallies (h : t.Numbered) (period : Nat) :
    (t.tallies period).map (·.user) = (t.users.filter (!·.isAdmin)).map (·.id) := by
  have ascending : (t.users.filter (!·.isAdmin)).Pairwise (·.id < ·.id) :=
    (List.pairwise_map.mp h.users.1).filter _
  have sorted : (t.users.filter (!·.isAdmin)).Pairwise fun u v => decide (u.id ≤ v.id) :=
    ascending.imp fun less => decide_eq_true (Nat.le_of_lt less)
  rw [tallies, List.mergeSort_of_pairwise sorted, List.map_map]
  rfl

theorem ascending_tallies (h : t.Numbered) (period : Nat) :
    ((t.tallies period).map (·.user)).Pairwise (· < ·) := by
  rw [users_tallies h]
  exact h.users.1.sublist (List.filter_sublist.map _)

theorem nodup_tallies (h : t.Numbered) (period : Nat) :
    ((t.tallies period).map (·.user)).Nodup :=
  (ascending_tallies h period).imp Nat.ne_of_lt

theorem users_of_computed
    (computed : (t.tallies period).mapM (Payslip.compute · period days createdAt) = .ok drafts) :
    drafts.map (·.user) = (t.tallies period).map (·.user) := by
  have pairs := forall₂_of_mapM computed
  clear computed
  generalize t.tallies period = tallies at pairs
  induction pairs with
  | nil => rfl
  | cons first rest ih => rw [List.map_cons, List.map_cons, ih, (Payslip.of_compute first).1]

/-- Nothing stands in the way of the first run of a period. -/
theorem free_of_unpaid (h : t.Numbered) (unpaid : ∀ p ∈ t.payslips, p.period ≠ period)
    (computed : (t.tallies period).mapM (Payslip.compute · period days createdAt) = .ok drafts) :
    t.Free drafts := by
  apply free_of_users
  · rw [users_of_computed computed]
    exact nodup_tallies h period
  · intro draft mem
    obtain ⟨u, -, -, of⟩ := exists_employee computed mem
    rw [payslip?_eq_none, (Payslip.of_compute of).1]
    intro p hp same
    exact unpaid p hp same.2

end Tables

namespace Memory

variable {memory : Memory} {window : Period}

theorem compute_tallies (payable : ∀ tally ∈ memory.tables.tallies period, tally.Payable days)
    (createdAt : Stamp) : ∃ drafts,
      (memory.tables.tallies period).mapM (Payslip.compute · period days createdAt) = .ok drafts :=
  mapM_of_forall fun tally mem => (payable tally mem).compute period createdAt

theorem workingDays_pos (reached : memory.tables.Reachable)
    (known : memory.tables.period? period = some window) : 0 < window.workingDays := by
  have order := (reached.lawful.periodOrder window (Tables.mem_of_period? known).1).1
  have := Period.two_le_workingDays order
  omega

theorem run_unpaid (memory : Memory) (reached : memory.tables.Reachable)
    (known : memory.tables.period? period = some window)
    (payable : ∀ tally ∈ memory.tables.tallies period, tally.Payable window.workingDays)
    (unpaid : ∀ p ∈ memory.tables.payslips, p.period ≠ period)
    (audited : memory.switches.auditFails = false) (now : Stamp) (actor : Actor) :
    ∃ drafts, (memory.tables.tallies period).mapM
        (Payslip.compute · period window.workingDays now.toMicros) = .ok drafts ∧
      (runPayroll now period actor).run memory = (.ok drafts.length, { memory with
        tables := memory.tables.bookPayslips drafts actor now.toMicros }) := by
  obtain ⟨drafts, computed⟩ := compute_tallies payable now.toMicros
  have free := Tables.free_of_unpaid reached.numbered unpaid computed
  have unseen : memory.seesPayslips period = false := by
    simpa [seesPayslips] using fun _ => unpaid
  refine ⟨drafts, computed, ?_⟩
  rw [run_runPayroll]
  simp [unseen, known, workingDays_pos reached known, computed, free, audited]

/-- A later run fails, whether it sees the payslips of its period or not. -/
theorem run_paid (memory : Memory) (reached : memory.tables.Reachable)
    (known : memory.tables.period? period = some window)
    (payable : ∀ tally ∈ memory.tables.tallies period, tally.Payable window.workingDays)
    (paid : ∃ p ∈ memory.tables.payslips, p.period = period) (now : Stamp) (actor : Actor) :
    (runPayroll now period actor).run memory = (.error (.alreadyProcessed period), memory) := by
  obtain ⟨drafts, computed⟩ := compute_tallies payable now.toMicros
  have taken : ¬ memory.tables.Free drafts := by
    intro free
    obtain ⟨p, mem, of⟩ := paid
    exact reached.paid.first_run computed free p mem of
  rw [run_runPayroll]
  simp [known, workingDays_pos reached known, computed, taken]

end Memory

namespace Client

variable {c c' : Client} {shared shared' : Shared Memory}

/-- It was told that the period has been processed. -/
def cameLate (period : Nat) (c : Client) : Bool :=
  match c.stage with
  | .returned (.error (.alreadyProcessed p)) => p == period
  | _ => false

theorem result?_of_cameLate {period : Nat} (h : c.cameLate period = true) :
    c.result? = some (.error (.alreadyProcessed period)) := by
  unfold cameLate at h
  split at h
  · rename_i p stage
    simp [result?, stage, beq_iff_eq.mp h]
  · cases h

theorem cameLate_of_result? {period : Nat}
    (h : c.result? = some (.error (.alreadyProcessed period))) : c.cameLate period = true := by
  unfold result? at h
  split at h
  · rename_i result stage
    cases h
    simp [cameLate, stage]
  · cases h

/-- Whether audit writes fail does not change under quiet turns. -/
theorem Move.audited (moved : Move shared c shared' c')
    (store : shared.store.switches.auditFails = false)
    (held : ∀ copy, shared.held = some copy → copy.switches.auditFails = false) :
    shared'.store.switches.auditFails = false ∧
      ∀ copy, shared'.held = some copy → copy.switches.auditFails = false := by
  cases moved with
  | refuse arrived refused => exact ⟨store, held⟩
  | queue arrived passed => exact ⟨store, held⟩
  | begin queued free began =>
      cases began
      refine ⟨store, fun copy eq => ?_⟩
      cases eq
      exact store
  | call working holds answered =>
      have same := held _ holds
      cases answered
      refine ⟨store, fun copy eq => ?_⟩
      cases eq
      exact same
  | @finish copy result result' store' _ _ working holds closed =>
      refine ⟨?_, by simp⟩
      rw [Command.commits_operation] at closed
      cases result <;> cases closed <;> exact store

end Client

theorem Command.eq_of_paidPeriod? {command : Command} (h : command.paidPeriod? = some period) :
    ∃ now actor, command = .runPayroll now period actor := by
  cases command with
  | runPayroll now p actor =>
      cases h
      exact ⟨now, actor, rfl⟩
  | _ => cases h

namespace World

/-- Nobody has paid the period yet. -/
structure Undecided (t : Tables) (w : World) : Prop where
  tables : w.shared.store.tables = t
  pending : ∀ c ∈ w.clients, c.result? = none

/-- One client has paid the period, and everyone else who is back came late. -/
structure Decided (t : Tables) (period : Nat) (w : World) : Prop where
  known : w.shared.store.tables.period? period = t.period? period
  tallies : w.shared.store.tables.tallies period = t.tallies period
  paid : ∃ p ∈ w.shared.store.tables.payslips, p.period = period
  winner : w.clients.countP (·.succeeded) = 1
  losers : ∀ c ∈ w.clients, ∀ result, c.result? = some result →
    c.succeeded = true ∨ result = .error (.alreadyProcessed period)

structure Contest (t : Tables) (period : Nat) (w : World) : Prop where
  sound : w.Sound
  rivals : ∀ c ∈ w.clients, c.command.paidPeriod? = some period
  audited : w.shared.store.switches.auditFails = false ∧
    ∀ copy, w.shared.held = some copy → copy.switches.auditFails = false
  outcome : w.Undecided t ∨ w.Decided t period

variable {t : Tables} {window : Period} {shared shared' : Shared Memory}
  {before after : List Client} {c c' : Client}

theorem Decided.replace (h : Decided t period ⟨shared, before ++ c :: after⟩)
    (tables : shared'.store.tables = shared.store.tables) (idle : c.succeeded = false)
    (late : ∀ result, c'.result? = some result → result = .error (.alreadyProcessed period)) :
    Decided t period ⟨shared', before ++ c' :: after⟩ where
  known := tables ▸ h.known
  tallies := tables ▸ h.tallies
  paid := tables ▸ h.paid
  winner := by
    have still : c'.succeeded = false := by
      apply Client.not_succeeded
      intro n ok
      cases late _ ok
    have winner := h.winner
    simp only [countP_middle, idle, still] at winner ⊢
    exact winner
  losers := by
    intro d mem result returned
    rcases mem_middle.mp mem with rfl | other
    · exact .inr (late result returned)
    · exact h.losers d (mem_middle.mpr (.inr other)) result returned

theorem Undecided.keep (h : Undecided t ⟨shared, before ++ c :: after⟩)
    (tables : shared'.store.tables = shared.store.tables) (pending : c'.result? = none) :
    Undecided t ⟨shared', before ++ c' :: after⟩ where
  tables := tables.trans h.tables
  pending := by
    intro d mem
    rcases mem_middle.mp mem with rfl | other
    · exact pending
    · exact h.pending d (mem_middle.mpr (.inr other))

theorem Undecided.decide (h : Undecided t ⟨shared, before ++ c :: after⟩)
    (employee : ∃ u ∈ t.users, u.isAdmin = false)
    (computed : (t.tallies period).mapM (Payslip.compute · period days createdAt) = .ok drafts)
    (tables : shared'.store.tables = t.bookPayslips drafts actor createdAt)
    (succeeded : c'.succeeded = true) : Decided t period ⟨shared', before ++ c' :: after⟩ where
  known := by
    rw [tables, Tables.bookPayslips, Tables.addPayslips_eq]
    rfl
  tallies := by
    rw [tables, Tables.bookPayslips, Tables.addPayslips_eq]
    rfl
  paid := by
    obtain ⟨u, hu, notAdmin⟩ := employee
    obtain ⟨draft, mem, of⟩ := Tables.exists_draft computed hu notAdmin
    obtain ⟨p, hp, stored⟩ := Payslip.exists_stored t.nextId mem
    rw [tables, Tables.bookPayslips, Tables.addPayslips_eq]
    refine ⟨p, List.mem_append_right _ hp, ?_⟩
    rw [stored, (Payslip.of_compute of).1]
    rfl
  winner := by
    have none : ∀ d ∈ before ++ after, d.succeeded = false := by
      intro d mem
      apply Client.not_succeeded
      simp [h.pending d (mem_middle.mpr (.inr mem))]
    have count : before.countP (·.succeeded) + after.countP (·.succeeded) = 0 := by
      rw [← List.countP_append, List.countP_eq_zero]
      intro d mem
      simp [none d mem]
    simp only [countP_middle, count, succeeded]
    rfl
  losers := by
    intro d mem result returned
    rcases mem_middle.mp mem with rfl | other
    · exact .inl succeeded
    · rw [h.pending d (mem_middle.mpr (.inr other))] at returned
      cases returned

/-- What a contest needs: the period exists, someone is to be paid, and all amounts can be. -/
structure Payday (t : Tables) (period : Nat) (window : Period) : Prop where
  known : t.period? period = some window
  employee : ∃ u ∈ t.users, u.isAdmin = false
  payable : ∀ tally ∈ t.tallies period, tally.Payable window.workingDays
  unpaid : ∀ p ∈ t.payslips, p.period ≠ period

theorem Contest.ends (payday : Payday t period window)
    (h : Contest t period ⟨shared, before ++ c :: after⟩)
    {copy : Memory.WorkingCopy} (held : shared.held = some copy)
    (returned : c'.result? = some result)
    (ran : c.command.operation.run { shared.store with switches := copy.switches } =
      (result, { shared'.store with switches := copy.switches })) (idle : c.result? = none) :
    Undecided t ⟨shared', before ++ c' :: after⟩ ∨
      Decided t period ⟨shared', before ++ c' :: after⟩ := by
  obtain ⟨now, actor, command⟩ := Command.eq_of_paidPeriod? (h.rivals c (mem_middle.mpr (.inl rfl)))
  have audited := h.audited.2 copy held
  rw [command] at ran
  rcases h.outcome with undecided | decided
  · have tables : shared.store.tables = t := undecided.tables
    obtain ⟨drafts, computed, first⟩ := Memory.run_unpaid
      { shared.store with switches := copy.switches } h.sound.reached
      (tables ▸ payday.known) (tables ▸ payday.payable) (tables ▸ payday.unpaid) audited now actor
    have same := first.symm.trans ran
    rw [Prod.mk.injEq, Memory.mk.injEq] at same
    obtain ⟨rfl, booked, -⟩ := same
    exact .inr (undecided.decide payday.employee (tables ▸ computed) (tables ▸ booked.symm)
      (Client.succeeded_iff.mpr ⟨_, returned⟩))
  · have late := Memory.run_paid
      { shared.store with switches := copy.switches } h.sound.reached
      (decided.known.trans payday.known) (decided.tallies ▸ payday.payable) decided.paid now actor
    have same := late.symm.trans ran
    rw [Prod.mk.injEq, Memory.mk.injEq] at same
    obtain ⟨rfl, tables, -⟩ := same
    refine .inr (decided.replace tables.symm (Client.not_succeeded (by simp [idle])) ?_)
    intro result eq
    rw [returned] at eq
    exact (Option.some.inj eq).symm

theorem Contest.move (payday : Payday t period window)
    (h : Contest t period ⟨shared, before ++ c :: after⟩)
    (moved : Client.Move shared c shared' c') :
    Contest t period ⟨shared', before ++ c' :: after⟩ where
  sound := h.sound.move moved
  rivals := by
    intro d mem
    rcases mem_middle.mp mem with rfl | other
    · rw [moved.command]
      exact h.rivals c (mem_middle.mpr (.inl rfl))
    · exact h.rivals d (mem_middle.mpr (.inr other))
  audited := moved.audited h.audited.1 h.audited.2
  outcome := by
    have mine := h.sound.consistent c (mem_middle.mpr (.inl rfl))
    have idle : c.succeeded = false := Client.not_succeeded (by simp [moved.pending])
    obtain ⟨same, none⟩ | ⟨cause, refused, -, -⟩ | ⟨copy, result, held, returned, ran, -⟩ :=
      moved.cases_of_consistent mine
    · rcases h.outcome with undecided | decided
      · exact .inl (undecided.keep (congrArg _ same) none)
      · exact .inr (decided.replace (congrArg _ same) idle (by simp [none]))
    · obtain ⟨now, actor, command⟩ :=
        Command.eq_of_paidPeriod? (h.rivals c (mem_middle.mpr (.inl rfl)))
      rw [command] at refused
      cases refused
    · exact h.ends payday held returned ran moved.pending

theorem Contest.turn {w w' : World} (payday : Payday t period window) (h : w.Contest t period)
    (turn : QuietTurn w w') : w'.Contest t period := by
  cases turn with
  | move moved => exact h.move payday moved
  | hide hidden =>
      refine ⟨h.sound.outside rfl (.inr rfl) h.sound.reached, h.rivals, h.audited, ?_⟩
      rcases h.outcome with undecided | decided
      · exact .inl ⟨undecided.tables, undecided.pending⟩
      · exact .inr ⟨decided.known, decided.tallies, decided.paid, decided.winner, decided.losers⟩

theorem Contest.quiet {w w' : World} (payday : Payday t period window) (h : w.Contest t period)
    (turns : ReflTransGen QuietTurn w w') : w'.Contest t period := by
  induction turns with
  | refl => exact h
  | tail _ last ih => exact ih.turn payday last

theorem length_quiet {w w' : World} (turns : ReflTransGen QuietTurn w w') :
    w'.clients.length = w.clients.length := by
  induction turns with
  | refl => rfl
  | tail _ last ih =>
      rw [← ih]
      cases last with
      | move moved => simp
      | hide hidden => rfl

/-- When all are back, everyone but the winner came late. -/
theorem Decided.count {w : World} (h : w.Decided t period) (finished : w.Finished) :
    w.clients.countP (·.cameLate period) = w.clients.length - 1 := by
  have split := List.length_eq_countP_add_countP (·.succeeded) (l := w.clients)
  have late : w.clients.countP (·.cameLate period) =
      w.clients.countP (fun c => decide ¬ c.succeeded = true) := by
    apply List.countP_congr
    intro c mem
    obtain ⟨result, back⟩ := Option.isSome_iff_exists.mp (finished c mem)
    rw [decide_eq_true_eq, Client.succeeded_iff]
    constructor
    · rintro late ⟨n, ok⟩
      rw [Client.result?_of_cameLate late] at ok
      cases ok
    · intro failed
      rcases h.losers c mem result back with succeeded | rfl
      · exact absurd (Client.succeeded_iff.mp succeeded) failed
      · exact Client.cameLate_of_result? back
  have winner := h.winner
  omega

/-- Some runs for one period, all of which are still to begin. -/
def contest (memory : Memory) (period : Nat) (runs : List (Stamp × Actor)) : World :=
  ⟨{ store := memory }, runs.map fun run => { command := .runPayroll run.1 period run.2 }⟩

theorem contest_contest {memory : Memory} (reached : memory.tables.Reachable)
    (audited : memory.switches.auditFails = false) (period : Nat) (runs : List (Stamp × Actor)) :
    (contest memory period runs).Contest memory.tables period where
  sound := by
    refine ⟨reached, ?_, ?_⟩
    · simp only [contest, List.countP_map, Option.toList_none, List.length_nil]
      exact List.countP_eq_zero.mpr fun run _ => by simp [Client.isWorking]
    · intro c mem
      obtain ⟨run, -, rfl⟩ := List.mem_map.mp mem
      rfl
  rivals := by
    intro c mem
    obtain ⟨run, -, rfl⟩ := List.mem_map.mp mem
    rfl
  audited := ⟨audited, by simp [contest]⟩
  outcome := by
    refine .inl ⟨rfl, fun c mem => ?_⟩
    obtain ⟨run, -, rfl⟩ := List.mem_map.mp mem
    rfl

end World

/-- However the steps of any clients mix, at most one run commits payslips of a period, and these
are the stored ones. Runs that contend for a period that can be paid, with nothing else going on,
always can come back, and when they have, one of them has paid it and the others came late. -/
theorem World.one_payroll_per_period :
    (∀ w, ReflTransGen Turn ⟨{ store := {} }, []⟩ w → ∀ period,
      w.clients.countP (·.pays period) ≤ 1 ∧
      (w.clients.countP (·.pays period) = 0 →
        w.shared.store.tables.payslips.filter (·.period = period) = []) ∧
      ∀ c ∈ w.clients, c.pays period = true → ∃ id,
        w.shared.store.tables.payslips.filter (·.period = period) =
          Payslip.storedFrom id c.drafts) ∧
    ∀ (memory : Memory) (period : Nat) (window : Period) (runs : List (Stamp × Actor)),
      memory.tables.Reachable → memory.tables.period? period = some window →
      (∀ p ∈ memory.tables.payslips, p.period ≠ period) →
      (∃ u ∈ memory.tables.users, u.isAdmin = false) → memory.switches.auditFails = false →
      (∀ tally ∈ memory.tables.tallies period, tally.Payable window.workingDays) → runs ≠ [] →
      ∀ w, ReflTransGen QuietTurn (contest memory period runs) w →
        (∃ w', ReflTransGen QuietTurn w w' ∧ w'.Finished) ∧
        (∀ c ∈ w.clients, ∀ result, c.result? = some result →
          c.succeeded = true ∨ result = .error (.alreadyProcessed period)) ∧
        (w.Finished → w.clients.countP (·.succeeded) = 1 ∧
          w.clients.countP (·.cameLate period) = runs.length - 1) := by
  constructor
  · intro w turns period
    have both : w.Sound ∧ w.Paying period := by
      induction turns with
      | refl => exact ⟨⟨.empty, rfl, by simp⟩, ⟨by simp, fun _ => rfl, by simp⟩⟩
      | tail _ last ih => exact ⟨ih.1.turn last, ih.2.turn ih.1 last⟩
    exact ⟨both.2.once, both.2.unpaid, both.2.stored⟩
  · intro memory period window runs reached known unpaid employee audited payable some w turns
    have payday : Payday memory.tables period window := ⟨known, employee, payable, unpaid⟩
    have contest := (contest_contest reached audited period runs).quiet payday turns
    have present : w.Present := by
      apply Present.quiet ?_ turns
      intro c mem
      obtain ⟨run, -, rfl⟩ := List.mem_map.mp mem
      simp
    have length := length_quiet turns
    refine ⟨exists_finished contest.sound present, ?_, ?_⟩
    · intro c mem result back
      rcases contest.outcome with undecided | decided
      · simp [undecided.pending c mem] at back
      · exact decided.losers c mem result back
    · intro finished
      rcases contest.outcome with undecided | decided
      · have someone : w.clients ≠ [] := by
          intro none
          rw [none, World.contest, List.length_map] at length
          exact some (List.eq_nil_of_length_eq_zero length.symm)
        obtain ⟨c, mem⟩ := List.exists_mem_of_ne_nil w.clients someone
        have back := finished c mem
        rw [undecided.pending c mem] at back
        cases back
      · refine ⟨decided.winner, ?_⟩
        rw [decided.count finished, length]
        simp [World.contest]

/-- Two runs contend for Ann's week. -/
theorem World.one_payroll_of_week : ∃ w,
    ReflTransGen QuietTurn
      (contest (Memory.after Event.week) 3 [(.payday, ⟨1, 13⟩), (.payday, ⟨1, 14⟩)]) w ∧
    w.clients.countP (·.succeeded) = 1 ∧ w.clients.countP (·.cameLate 3) = 1 := by
  have unpaid : ∀ p ∈ (Memory.after Event.week).tables.payslips, p.period ≠ 3 := by
    rw [show (Memory.after Event.week).tables.payslips = [] from rfl]
    simp
  have payable : ∀ tally ∈ (Memory.after Event.week).tables.tallies 3, tally.Payable 7 := by
    rw [Memory.tallies_week]
    simp only [List.mem_singleton, forall_eq]
    unfold Tally.Payable
    decide
  have outcome := one_payroll_per_period.2 (Memory.after Event.week) 3 _
    [(.payday, ⟨1, 13⟩), (.payday, ⟨1, 14⟩)] (Memory.after_reachable _) rfl unpaid
    ⟨_, List.mem_cons_of_mem _ List.mem_cons_self, rfl⟩ rfl payable (by simp)
  obtain ⟨⟨w, turns, finished⟩, -⟩ := outcome _ .refl
  exact ⟨w, turns, (outcome w turns).2.2 finished⟩

end Wagebook
