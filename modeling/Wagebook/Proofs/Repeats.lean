import Wagebook.Proofs.Lookups
import Wagebook.Proofs.Trail

/-!
Repeated payrolls. Only its payslips tell that a period has been processed. So the run that pays
someone closes the period for good, while a run with nobody to pay succeeds and leaves it open.
-/

namespace Wagebook

/-- What the runs of a period that succeed answer, in their order. -/
def Memory.payrolls (memory : Memory) (period : Nat) (events : List Event) : List Nat :=
  ((memory.audited events).filter (·.1.paidPeriod? = some period)).map (·.2)

/-- How the payslips of a period come from the runs that succeeded: only the last of these can have
paid anyone. -/
structure Tables.Runs (t : Tables) (period : Nat) (answers : List Nat) : Prop where
  stored : (t.payslips.filter (·.period = period)).length = answers.sum
  nobody : answers.Pairwise fun earlier _ => earlier = 0

namespace Tables

variable {t t' : Tables} {period : Nat} {drafts : List Payslip.Draft}

theorem employees_of_computed
    (computed : (t.tallies period).mapM (Payslip.compute · period days createdAt) = .ok drafts) :
    drafts.length = (t.users.filter (!·.isAdmin)).length := by
  have users := congrArg List.length (users_of_computed computed)
  rw [List.length_map, List.length_map] at users
  rw [users, tallies, List.length_map, List.length_mergeSort]

/-- Before the first run of a period there are no payslips of it. -/
theorem Paid.none_of_period (h : t.Paid)
    (computed : (t.tallies period).mapM (Payslip.compute · period days createdAt) = .ok drafts)
    (free : t.Free drafts) : t.payslips.filter (·.period = period) = [] := by
  rw [List.filter_eq_nil_iff]
  intro p mem
  simpa using h.first_run computed free p mem

/-- After it they are those that it has booked. -/
theorem Paid.filter_bookPayslips (h : t.Paid)
    (computed : (t.tallies period).mapM (Payslip.compute · period days createdAt) = .ok drafts)
    (free : t.Free drafts) (actor : Actor) (now : Stamp) :
    (t.bookPayslips drafts actor now).payslips.filter (·.period = period) =
      Payslip.storedFrom t.nextId drafts := by
  rw [payslips_bookPayslips, List.filter_append, h.none_of_period computed free, List.nil_append,
    Payslip.filter_storedFrom (periods_of_computed computed), if_pos rfl]

namespace Runs

variable {answers : List Nat}

theorem empty (period : Nat) : Runs {} period [] := ⟨rfl, .nil⟩

theorem grow (h : t.Runs period answers)
    (same : t'.payslips.filter (·.period = period) = t.payslips.filter (·.period = period)) :
    t'.Runs period answers := ⟨same ▸ h.stored, h.nobody⟩

theorem exists_paid (h : t.Runs period answers) :
    (∃ p ∈ t.payslips, p.period = period) ↔ ∃ n ∈ answers, 0 < n := by
  rw [← List.sum_pos_iff_exists_pos_nat, ← h.stored, List.length_filter_pos_iff]
  simp only [decide_eq_true_eq]

theorem none_before {later : List Nat} (h : t.Runs period (answers ++ n :: later)) :
    ∀ earlier ∈ answers, earlier = 0 := fun earlier mem =>
  (List.pairwise_append.mp h.nobody).2.2 earlier mem n List.mem_cons_self

/-- Once a run has paid someone, there is no further answer. -/
theorem none_after {later : List Nat} (h : t.Runs period (answers ++ n :: later))
    (pays : 0 < n) : later = [] := by
  have none := (List.pairwise_cons.mp (List.pairwise_append.mp h.nobody).2.1).1
  rw [List.eq_nil_iff_forall_not_mem]
  intro m mem
  exact Nat.ne_of_gt pays (none m mem)

/-- A run that succeeds finds its period unpaid, so no run before it has paid anyone. -/
theorem payroll (h : t.Runs period answers) (reached : t.Reachable)
    (computed : (t.tallies period).mapM (Payslip.compute · period days createdAt) = .ok drafts)
    (free : t.Free drafts) (actor : Actor) (now : Stamp) :
    (t.bookPayslips drafts actor now).Runs period (answers ++ [drafts.length]) := by
  have nobody : ∀ earlier ∈ answers, earlier = 0 := by
    rw [← List.sum_eq_zero_iff_forall_eq_nat, ← h.stored,
      reached.paid.none_of_period computed free, List.length_nil]
  constructor
  · rw [reached.paid.filter_bookPayslips computed free, Payslip.length_storedFrom, List.sum_append,
      List.sum_eq_zero nobody, List.sum_singleton, Nat.zero_add]
  · rw [List.pairwise_append]
    exact ⟨h.nobody, List.pairwise_singleton _ _, fun earlier mem _ _ => nobody earlier mem⟩

theorem write (h : t.Runs period answers) (reached : t.Reachable)
    (writes : Command.Writes t command n t') :
    t'.Runs period (answers ++ if command.paidPeriod? = some period then [n] else []) := by
  cases pays : command.paidPeriod? with
  | none =>
      obtain ⟨-, same⟩ | ⟨now, paid, actor, window, drafts, rfl, -⟩ := writes.payslips
      · rw [if_neg nofun, List.append_nil]
        exact h.grow (by rw [same])
      · cases pays
  | some paid =>
      obtain ⟨now, actor, rfl⟩ := Command.eq_of_paidPeriod? pays
      cases writes with
      | payroll known days computed free =>
          by_cases same : paid = period
          · subst same
            rw [if_pos rfl]
            exact h.payroll reached computed free actor _
          · rw [if_neg (by simpa using same), List.append_nil]
            apply h.grow
            rw [payslips_bookPayslips, List.filter_append,
              Payslip.filter_storedFrom (periods_of_computed computed), if_neg same,
              List.append_nil]

end Runs
end Tables

theorem Command.writes_of_runPayroll {memory memory' : Memory} {period : Nat}
    (h : (Wagebook.runPayroll now period actor).run memory = (.ok n, memory')) :
    Writes memory.tables (.runPayroll now period actor) n memory'.tables := by
  have h : (operation (.runPayroll now period actor)).run memory = (.ok n, memory') := h
  obtain ⟨t, rfl, writes⟩ := writes_of_run h
  exact writes

theorem Command.Writes.employees {t t' : Tables} {period : Nat}
    (writes : Command.Writes t (.runPayroll now period actor) n t') :
    n = (t.users.filter (!·.isAdmin)).length := by
  cases writes with
  | payroll known days computed free => exact Tables.employees_of_computed computed

theorem Command.actor?_of_paidPeriod? {command : Command} (h : command.paidPeriod? = some period) :
    command.actor?.isSome = true := by
  obtain ⟨now, actor, rfl⟩ := eq_of_paidPeriod? h
  rfl

/-- What an event adds to the answers of the runs of a period. -/
theorem Event.apply_runs (event : Event) {memory : Memory} {answers : List Nat}
    (h : memory.tables.Runs period answers) (reached : memory.tables.Reachable) :
    (event.apply memory).tables.Runs period (answers ++
      ((event.audited memory).filter (·.1.paidPeriod? = some period)).map (·.2)) := by
  obtain ⟨same, none⟩ | ⟨user, added, none, -⟩ | ⟨command, answer, writes, audited, -⟩ :=
    event.audited_cases memory
  · rw [same, none, List.filter_nil, List.map_nil, List.append_nil]
    exact h
  · rw [added, none, List.filter_nil, List.map_nil, List.append_nil]
    exact h.grow rfl
  · have run := h.write reached writes
    rw [audited]
    by_cases pays : command.paidPeriod? = some period
    · simpa [pays, Command.actor?_of_paidPeriod? pays] using run
    · rw [if_neg pays] at run
      have none : (if command.actor?.isSome then [(command, answer)] else []).filter
          (·.1.paidPeriod? = some period) = [] := by
        split <;> simp [pays]
      rwa [none, List.map_nil]

namespace Memory

variable {memory : Memory} {period : Nat}

theorem play_runs (events : List Event) {answers : List Nat}
    (h : memory.tables.Runs period answers) (reached : memory.tables.Reachable) :
    (memory.play events).tables.Runs period (answers ++ memory.payrolls period events) := by
  induction events generalizing memory answers with
  | nil =>
      rw [payrolls, audited, List.filter_nil, List.map_nil, List.append_nil]
      exact h
  | cons event events ih =>
      have rest := ih (event.apply_runs h reached) (event.apply_reachable reached)
      rw [List.append_assoc, payrolls, ← List.map_append, ← List.filter_append] at rest
      exact rest

/-- While payslips are seen, they alone decide whether a period counts as processed. -/
theorem runPayroll_refused_iff (reached : memory.tables.Reachable)
    (seen : AuditTable.payslips ∉ memory.switches.hidden) (now : Stamp) (actor : Actor) :
    (runPayroll now period actor).run memory = (.error (.alreadyProcessed period), memory) ↔
      ∃ p ∈ memory.tables.payslips, p.period = period := by
  have sees : memory.seesPayslips period = true ↔
      ∃ p ∈ memory.tables.payslips, p.period = period := by
    simp [seesPayslips, seen]
  rw [← sees, run_runPayroll]
  constructor
  · intro refused
    by_contra unseen
    have unpaid : ∀ p ∈ memory.tables.payslips, p.period ≠ period := by
      simpa [sees] using unseen
    rw [if_neg unseen] at refused
    split at refused
    · cases refused
    split at refused
    · cases refused
    split at refused
    · rename_i cause computed
      obtain ⟨u, -, -, rfl, -⟩ := Tables.exists_unpayable computed
      cases refused
    rename_i drafts computed
    rw [if_neg (not_not.mpr (Tables.free_of_unpaid reached.numbered unpaid computed))] at refused
    split at refused
    · cases refused
    · cases refused
  · intro paid
    rw [if_pos paid]

theorem after_runs (events : List Event) (period : Nat) :
    (after events).tables.Runs period (payrolls {} period events) := by
  have runs : (after events).tables.Runs period ([] ++ payrolls {} period events) :=
    play_runs events (.empty period) .empty
  exact runs

/-- A run that succeeds pays every employee. Later runs of its period are told that it has been
processed, and change nothing, exactly if that run or one since has paid someone. After a run that
has paid someone no other succeeds, so none is audited. -/
theorem paying_run_closes_period (before between : List Event) {n : Nat} {now later : Stamp}
    {actor next : Actor} {paid : Memory}
    (first : (runPayroll now period actor).run (after before) = (.ok n, paid))
    (seen : AuditTable.payslips ∉ (paid.play between).switches.hidden) :
    let store := paid.play between
    n = ((after before).tables.users.filter (!·.isAdmin)).length ∧
    (0 < n → paid.payrolls period between = [] ∧
      (runPayroll later period next).run store = (.error (.alreadyProcessed period), store)) ∧
    ((runPayroll later period next).run store = (.error (.alreadyProcessed period), store) ↔
      0 < n ∨ ∃ m ∈ paid.payrolls period between, 0 < m) := by
  intro store
  have reached := after_reachable before
  have writes := Command.writes_of_runPayroll first
  have here : paid.tables.Reachable := reached.write writes
  have runs := play_runs between ((after_runs before period).write reached writes) here
  rw [Command.paidPeriod?, if_pos rfl, List.append_assoc, List.singleton_append] at runs
  have refused := (runPayroll_refused_iff (play_reachable between here) seen later next).trans
    runs.exists_paid
  refine ⟨writes.employees, fun pays => ⟨runs.none_after pays, ?_⟩, refused.trans ?_⟩
  · exact refused.mpr ⟨n, by simp, pays⟩
  · simp only [List.mem_append, or_and_right, exists_or, List.exists_mem_cons_iff]
    apply or_iff_right
    rintro ⟨earlier, mem, pays⟩
    exact Nat.ne_of_gt pays (runs.none_before earlier mem)

/-- Ann's week is closed, though Bob has joined since. -/
theorem paidWeek_is_closed :
    let later := (after Event.paidWeek).play [.addUser .payday "bob" "" 900 false]
    (runPayroll .payday 3 ⟨1, 14⟩).run later = (.error (.alreadyProcessed 3), later) := by
  have paid : after Event.paidWeek = ((runPayroll .payday 3 ⟨1, 13⟩).run (after Event.week)).2 := by
    rw [Event.paidWeek, after_snoc]
    rfl
  have first : (runPayroll .payday 3 ⟨1, 13⟩).run (after Event.week) =
      (.ok 1, after Event.paidWeek) := by
    rw [paid, run_runPayroll, tallies_week]
    rfl
  have switches : (after Event.paidWeek).switches = {} := by
    rw [paid, run_runPayroll, tallies_week]
    rfl
  have seen : AuditTable.payslips ∉
      ((after Event.paidWeek).play [.addUser .payday "bob" "" 900 false]).switches.hidden := by
    simp [play, Event.apply, addUser, switches]
  exact ((paying_run_closes_period Event.week _ first seen).2.1 Nat.one_pos).2

/-- A run with nobody to pay only books an empty batch. -/
theorem run_nobody (reached : memory.tables.Reachable)
    (known : memory.tables.period? period = some window)
    (nobody : memory.tables.tallies period = [])
    (unpaid : ∀ p ∈ memory.tables.payslips, p.period ≠ period)
    (audited : memory.switches.auditFails = false) (now : Stamp) (actor : Actor) :
    (runPayroll now period actor).run memory =
      (.ok 0, { memory with tables := memory.tables.bookPayslips [] actor now.toMicros }) := by
  obtain ⟨drafts, computed, ran⟩ :=
    run_unpaid memory reached known (by simp [nobody]) unpaid audited now actor
  rw [nobody] at computed
  cases computed
  exact ran

end Memory

/-- A week for which nobody is employed. -/
def Event.emptyWeek : List Event :=
  [.addUser .payday "root" "" 0 true,
    .call (.createPeriod .payday ⟨2024, 1, 2, by decide⟩ ⟨2024, 1, 5, by decide⟩ ⟨1, 10⟩)]

namespace Memory

theorem tallies_emptyWeek : (after Event.emptyWeek).tables.tallies 2 = [] := by
  rw [Tables.tallies, show (after Event.emptyWeek).tables.users.filter (!·.isAdmin) = [] from rfl,
    List.mergeSort_nil, List.map_nil]

/-- Two runs of the same period succeed, and both are audited. -/
theorem emptyWeek_runs_twice :
    let first := (runPayroll .payday 2 ⟨1, 11⟩).run (after Event.emptyWeek)
    let second := (runPayroll .payday 2 ⟨1, 12⟩).run first.2
    first.1 = .ok 0 ∧ first.2.switches.hidden = [] ∧ second.1 = .ok 0 ∧
      (second.2.tables.auditEntries.filter (·.table = .payslips)).length = 2 := by
  intro first second
  have reached := after_reachable Event.emptyWeek
  have ran : first = _ :=
    run_nobody reached rfl tallies_emptyWeek (by decide) rfl .payday ⟨1, 11⟩
  have reached' : first.2.tables.Reachable :=
    (Event.call (.runPayroll .payday 2 ⟨1, 11⟩)).apply_reachable reached
  rw [ran] at reached'
  have again := run_nobody reached' rfl tallies_emptyWeek (by decide) rfl .payday ⟨1, 12⟩
  rw [← ran] at again
  rw [show second = _ from again, ran]
  exact ⟨rfl, rfl, rfl, rfl⟩

end Memory
end Wagebook
