import Wagebook.Proofs.OwnFacts
import Wagebook.Proofs.Pay

/-!
Submissions of different users do not meet. A submission is judged by the switches, by the periods
and by what its own user has handed in, and it adds to nothing that another user's submission is
judged by. So the submissions of a user go as if nobody else had handed anything in, in whatever way
they are mixed with those of others, and a payroll afterwards pays the same.
-/

namespace Wagebook

inductive Submission
  | attendance (actor : Actor) (period : Nat) (date : Date)
  | overtime (actor : Actor) (period : Nat) (date : Date) (hours : Int)
  | reimbursement (actor : Actor) (period : Nat) (amount : Int) (description : String)

namespace Submission

def actor : Submission → Actor
  | .attendance actor .. => actor
  | .overtime actor .. => actor
  | .reimbursement actor .. => actor

def user (s : Submission) : Nat := s.actor.user

def command (now : Stamp) : Submission → Command
  | .attendance actor period date => .submitAttendance now actor period date
  | .overtime actor period date hours => .submitOvertime now actor period date hours
  | .reimbursement actor period amount description =>
      .submitReimbursement now actor period amount description

end Submission

namespace Memory

/-- Hands something in at its time. -/
def handIn (memory : Memory) (call : Stamp × Submission) : Except PayrollError Nat × Memory :=
  (call.2.command call.1).operation.run memory

def handInAll (memory : Memory) (calls : List (Stamp × Submission)) : Memory :=
  calls.foldl (fun memory call => (memory.handIn call).2) memory

/-- Each submission with its outcome, apart from the id of a new row. -/
def verdicts (memory : Memory) :
    List (Stamp × Submission) → List (Submission × Except PayrollError Unit)
  | [] => []
  | call :: calls =>
      (call.2, (memory.handIn call).1.map fun _ => ()) :: (memory.handIn call).2.verdicts calls

end Memory

/-- The same submissions at other times. Those of each user come in the same order. -/
def Reordered (calls calls' : List (Stamp × Submission)) : Prop :=
  ∀ user, (calls.filter (·.2.user = user)).map (·.2) = (calls'.filter (·.2.user = user)).map (·.2)

namespace Tables

variable (t : Tables) (actor : Actor) (user period : Nat)

theorem map_filter_snoc {rows : List α} {row : α} {p : α → Bool} {f : α → β} :
    ((rows ++ [row]).filter p).map f =
      (rows.filter p).map f ++ if p row then [f row] else [] := by
  rw [List.filter_append, List.map_append, List.filter_singleton]
  cases p row <;> rfl

theorem facts_bookAttendance (draft : Attendance.Draft) :
    (t.bookAttendance draft actor).facts user period =
      { days := (t.facts user period).days ++
          if draft.user = user ∧ draft.period = period then [draft.date] else []
        overtimes := (t.facts user period).overtimes
        expenses := (t.facts user period).expenses } := by
  simp only [facts, bookAttendance, addAuditEntry, addAttendance, Attendance.Draft.stored,
    map_filter_snoc, decide_eq_true_eq]

theorem facts_bookOvertime (draft : Overtime.Draft) :
    (t.bookOvertime draft actor).facts user period =
      { days := (t.facts user period).days
        overtimes := (t.facts user period).overtimes ++
          if draft.user = user ∧ draft.period = period then [(draft.date, draft.hours)] else []
        expenses := (t.facts user period).expenses } := by
  simp only [facts, bookOvertime, addAuditEntry, addOvertime, Overtime.Draft.stored,
    map_filter_snoc, decide_eq_true_eq]

theorem facts_bookReimbursement (draft : Reimbursement.Draft) :
    (t.bookReimbursement draft actor).facts user period =
      { days := (t.facts user period).days
        overtimes := (t.facts user period).overtimes
        expenses := (t.facts user period).expenses ++
          if draft.user = user ∧ draft.period = period then [draft.amount] else [] } := by
  simp only [facts, bookReimbursement, addAuditEntry, addReimbursement,
    Reimbursement.Draft.stored, map_filter_snoc, decide_eq_true_eq]

end Tables

/-- A relation between two computations that branch on the same condition. -/
theorem rel_ite {R : α → β → Prop} {c : Prop} [Decidable c] {a b : α} {a' b' : β} (h : R a a')
    (h' : R b b') : R (if c then a else b) (if c then a' else b') := by
  split
  · exact h
  · exact h'

namespace Memory

/-- What a user's submissions are judged by is the same in both stores. -/
structure Alike (user : Nat) (memory memory' : Memory) : Prop where
  switches : memory.switches = memory'.switches
  periods : memory.tables.periods = memory'.tables.periods
  facts : ∀ period, memory.tables.facts user period = memory'.tables.facts user period

/-- Two submissions have come to the same, apart from the id of a new row. -/
def Match (user : Nat) (ended ended' : Except PayrollError Nat × Memory) : Prop :=
  ended.1.map (fun _ => ()) = ended'.1.map (fun _ => ()) ∧ Alike user ended.2 ended'.2

namespace Alike

variable {user : Nat} {memory memory' memory'' : Memory}

theorem refl (user : Nat) (memory : Memory) : Alike user memory memory := ⟨rfl, rfl, fun _ => rfl⟩

theorem symm (h : Alike user memory memory') : Alike user memory' memory :=
  ⟨h.switches.symm, h.periods.symm, fun period => (h.facts period).symm⟩

theorem trans (h : Alike user memory memory') (h' : Alike user memory' memory'') :
    Alike user memory memory'' :=
  ⟨h.switches.trans h'.switches, h.periods.trans h'.periods,
    fun period => (h.facts period).trans (h'.facts period)⟩

theorem period? (h : Alike user memory memory') (period : Nat) :
    memory.tables.period? period = memory'.tables.period? period := by
  rw [Tables.period?, Tables.period?, h.periods]

theorem attendance? (h : Alike user memory memory') (period : Nat) (date : Date) :
    (memory.tables.attendance? user period date).isSome =
      (memory'.tables.attendance? user period date).isSome := by
  rw [Bool.eq_iff_iff, Tables.isSome_attendance?, Tables.isSome_attendance?, h.facts]

theorem overtime? (h : Alike user memory memory') (period : Nat) (date : Date) :
    (memory.tables.overtime? user period date).isSome =
      (memory'.tables.overtime? user period date).isSome := by
  rw [Bool.eq_iff_iff, Tables.isSome_overtime?, Tables.isSome_overtime?, h.facts]

theorem seenAttendance? (h : Alike user memory memory') (period : Nat) (date : Date) :
    (memory.seenAttendance? user period date).isSome =
      (memory'.seenAttendance? user period date).isSome := by
  unfold Memory.seenAttendance?
  rw [h.switches]
  split
  · rfl
  · exact h.attendance? period date

theorem seenOvertime? (h : Alike user memory memory') (period : Nat) (date : Date) :
    (memory.seenOvertime? user period date).isSome =
      (memory'.seenOvertime? user period date).isSome := by
  unfold Memory.seenOvertime?
  rw [h.switches]
  split
  · rfl
  · exact h.overtime? period date

theorem refused (h : Alike user memory memory') (cause : PayrollError) :
    Match user (.error cause, memory) (.error cause, memory') :=
  ⟨rfl, h⟩

theorem taken {t t' : Tables} {switches : Switches} (periods : t.periods = t'.periods)
    (facts : ∀ period, t.facts user period = t'.facts user period) :
    Match user (.ok n, ⟨t, switches⟩) (.ok n', ⟨t', switches⟩) :=
  ⟨rfl, rfl, periods, facts⟩

/-- A user's submission comes to the same wherever the user's own facts are the same. -/
theorem handIn {s : Submission} (h : Alike s.user memory memory') (now now' : Stamp) :
    Match s.user (memory.handIn (now, s)) (memory'.handIn (now', s)) := by
  cases s with
  | attendance actor period date =>
      simp only [Submission.user, Submission.actor] at h ⊢
      simp only [Memory.handIn, Submission.command, Command.operation, run_submitAttendance,
        h.seenAttendance?, h.attendance?, h.period?, h.switches]
      refine rel_ite (h.refused _) ?_
      cases memory'.tables.period? period with
      | none => exact h.refused _
      | some window =>
          refine rel_ite (h.refused _) (rel_ite (h.refused _) (rel_ite (h.refused _) ?_))
          refine taken h.periods fun p => ?_
          rw [Tables.facts_bookAttendance, Tables.facts_bookAttendance, h.facts]
  | overtime actor period date hours =>
      simp only [Submission.user, Submission.actor] at h ⊢
      simp only [Memory.handIn, Submission.command, Command.operation, run_submitOvertime,
        ← Option.not_isSome, h.seenAttendance?, h.seenOvertime?, h.overtime?, h.period?,
        h.switches]
      refine rel_ite (h.refused _) (rel_ite (h.refused _) (rel_ite (h.refused _)
        (rel_ite (h.refused _) (rel_ite (h.refused _) (rel_ite (h.refused _) ?_)))))
      refine taken h.periods fun p => ?_
      rw [Tables.facts_bookOvertime, Tables.facts_bookOvertime, h.facts]
  | reimbursement actor period amount description =>
      simp only [Submission.user, Submission.actor] at h ⊢
      simp only [Memory.handIn, Submission.command, Command.operation, run_submitReimbursement,
        h.period?, h.switches]
      refine rel_ite (h.refused _) (rel_ite (h.refused _) (rel_ite (h.refused _) ?_))
      refine taken h.periods fun p => ?_
      rw [Tables.facts_bookReimbursement, Tables.facts_bookReimbursement, h.facts]

/-- Submissions of others leave a user's own facts as they are. -/
theorem skip {s : Submission} (other : s.user ≠ user) (memory : Memory) (now : Stamp) :
    Alike user (memory.handIn (now, s)).2 memory := by
  obtain ⟨cause, failed⟩ | ⟨n, t, done, writes⟩ := (s.command now).run_cases memory
  · rw [Memory.handIn, failed]
    exact refl user memory
  · rw [Memory.handIn, done]
    cases s with
    | attendance actor period date =>
        cases writes
        refine ⟨rfl, rfl, fun p => ?_⟩
        rw [Tables.facts_bookAttendance, if_neg fun same => other same.1, List.append_nil]
    | overtime actor period date hours =>
        cases writes
        refine ⟨rfl, rfl, fun p => ?_⟩
        rw [Tables.facts_bookOvertime, if_neg fun same => other same.1, List.append_nil]
    | reimbursement actor period amount description =>
        cases writes
        refine ⟨rfl, rfl, fun p => ?_⟩
        rw [Tables.facts_bookReimbursement, if_neg fun same => other same.1, List.append_nil]

/-- What the others hand in can be left out. -/
theorem leaveOut (h : Alike user memory memory') (calls : List (Stamp × Submission)) :
    (memory.verdicts calls).filter (·.1.user = user) =
        memory'.verdicts (calls.filter (·.2.user = user)) ∧
      Alike user (memory.handInAll calls)
        (memory'.handInAll (calls.filter (·.2.user = user))) := by
  induction calls generalizing memory memory' with
  | nil => exact ⟨rfl, h⟩
  | cons call calls ih =>
      obtain ⟨now, s⟩ := call
      -- an own submission is made in both stores, another user's in the first one only
      by_cases own : s.user = user
      · subst own
        obtain ⟨same, next⟩ := h.handIn now now
        obtain ⟨verdicts, last⟩ := ih next
        simp only [Memory.verdicts, handInAll, List.filter_cons, decide_true, if_true,
          List.foldl_cons, same, verdicts, true_and]
        exact last
      · obtain ⟨verdicts, last⟩ := ih ((skip own memory now).trans h)
        simp only [Memory.verdicts, handInAll, List.filter_cons, decide_eq_true_eq, if_neg own,
          List.foldl_cons, verdicts, true_and]
        exact last

/-- The times of a user's submissions do not matter. -/
theorem retime {calls calls' : List (Stamp × Submission)} (h : Alike user memory memory')
    (own : ∀ call ∈ calls, call.2.user = user) (same : calls.map (·.2) = calls'.map (·.2)) :
    memory.verdicts calls = memory'.verdicts calls' ∧
      Alike user (memory.handInAll calls) (memory'.handInAll calls') := by
  induction calls generalizing calls' memory memory' with
  | nil =>
      rw [List.map_nil, eq_comm, List.map_eq_nil_iff] at same
      subst same
      exact ⟨rfl, h⟩
  | cons call calls ih =>
      obtain ⟨call', calls', rfl, first, rest⟩ := List.map_eq_cons_iff.mp same.symm
      obtain ⟨now, s⟩ := call
      obtain ⟨now', s'⟩ := call'
      obtain rfl : s' = s := first
      obtain rfl := own _ List.mem_cons_self
      obtain ⟨equal, next⟩ := h.handIn now now'
      obtain ⟨verdicts, last⟩ := ih next (fun c mem => own c (List.mem_cons_of_mem _ mem)) rest.symm
      rw [Memory.verdicts, Memory.verdicts, verdicts, equal]
      exact ⟨rfl, last⟩

end Alike

variable {memory memory' : Memory}

/-- A user's submissions have the same outcomes in both orders, and leave the same facts. -/
theorem alike_of_reordered {calls calls' : List (Stamp × Submission)} (h : Reordered calls calls')
    (memory : Memory) (user : Nat) :
    (memory.verdicts calls).filter (·.1.user = user) =
        (memory.verdicts calls').filter (·.1.user = user) ∧
      Alike user (memory.handInAll calls) (memory.handInAll calls') := by
  obtain ⟨own, left⟩ := (Alike.refl user memory).leaveOut calls
  obtain ⟨own', left'⟩ := (Alike.refl user memory).leaveOut calls'
  obtain ⟨same, middle⟩ := (Alike.refl user memory).retime
    (fun call mem => of_decide_eq_true (List.mem_filter.mp mem).2) (h user)
  exact ⟨by rw [own, own', same], (left.trans middle).trans left'.symm⟩

/-- Nothing that is handed in changes the users or the payslips. -/
theorem handInAll_keeps (memory : Memory) (calls : List (Stamp × Submission)) :
    (memory.handInAll calls).tables.users = memory.tables.users ∧
      (memory.handInAll calls).tables.payslips = memory.tables.payslips := by
  induction calls generalizing memory with
  | nil => exact ⟨rfl, rfl⟩
  | cons call calls ih =>
      have first : (memory.handIn call).2.tables.users = memory.tables.users ∧
          (memory.handIn call).2.tables.payslips = memory.tables.payslips := by
        obtain ⟨cause, failed⟩ | ⟨n, t, done, writes⟩ := (call.2.command call.1).run_cases memory
        · rw [handIn, failed]
          exact ⟨rfl, rfl⟩
        · rw [handIn, done]
          obtain ⟨now, s⟩ := call
          cases s <;> cases writes <;> exact ⟨rfl, rfl⟩
      obtain ⟨users, payslips⟩ := ih (memory.handIn call).2
      exact ⟨users.trans first.1, payslips.trans first.2⟩

/-- Two runs have the same outcome and pay the same, in the same order. -/
def PayAlike (stored : List Payslip) (ended ended' : Except PayrollError Nat × Memory) : Prop :=
  ended.1 = ended'.1 ∧ ∃ new new', ended.2.tables.payslips = stored ++ new ∧
    ended'.2.tables.payslips = stored ++ new' ∧ List.Forall₂ Payslip.SamePay new new'

theorem PayAlike.refused {stored : List Payslip} (here : memory.tables.payslips = stored)
    (there : memory'.tables.payslips = stored) (cause : PayrollError) :
    PayAlike stored (.error cause, memory) (.error cause, memory') :=
  ⟨rfl, [], [], by rw [here, List.append_nil], by rw [there, List.append_nil], .nil⟩

theorem runPayroll_alike (users : memory.tables.users = memory'.tables.users)
    (payslips : memory.tables.payslips = memory'.tables.payslips)
    (alike : ∀ user, Alike user memory memory') (period : Nat) (now now' : Stamp)
    (actor actor' : Actor) :
    PayAlike memory.tables.payslips ((runPayroll now period actor).run memory)
      ((runPayroll now' period actor').run memory') := by
  have seen : memory.seesPayslips period = memory'.seesPayslips period := by
    rw [seesPayslips, seesPayslips, (alike 0).switches, payslips]
  have tallies : memory.tables.tallies period = memory'.tables.tallies period := by
    rw [Tables.tallies, Tables.tallies, users]
    refine List.map_congr_left fun user _ => Tables.tally_congr rfl rfl ?_
    rw [(alike user.id).facts]
    exact .refl _
  have refused (cause : PayrollError) : PayAlike memory.tables.payslips
      (.error cause, memory) (.error cause, memory') := .refused rfl payslips.symm cause
  rw [run_runPayroll, run_runPayroll, seen, tallies, (alike 0).period?, (alike 0).switches]
  refine rel_ite (refused _) ?_
  cases memory'.tables.period? period with
  | none => exact refused _
  | some window =>
      refine rel_ite (refused _) ?_
      rw [Payslip.mapM_compute_at _ period _ now.toMicros now'.toMicros]
      cases (memory'.tables.tallies period).mapM
        (Payslip.compute · period window.workingDays now.toMicros) with
      | error cause => exact refused _
      | ok drafts =>
          have free : memory'.tables.Free (drafts.map (·.at now'.toMicros)) ↔
              memory.tables.Free drafts := Tables.free_at (by rw [payslips])
          simp only [free, Except.map, List.length_map]
          have paid := Tables.payslips_bookPayslips memory.tables drafts actor now.toMicros
          have paid' := Tables.payslips_bookPayslips memory'.tables
            (drafts.map (·.at now'.toMicros)) actor' now'.toMicros
          rw [← payslips] at paid'
          exact rel_ite (refused _) (rel_ite (refused _)
            ⟨rfl, _, _, paid, paid', Payslip.samePay_storedFrom drafts _ _ _⟩)

/-- Submissions of different users do not depend on each other: in any two orders that differ only
in how different users follow each other, each submission has the same outcome, and a payroll
afterwards has the same outcome and pays the same. -/
theorem submissions_are_independent (memory : Memory) {calls calls' : List (Stamp × Submission)}
    (h : Reordered calls calls') :
    (∀ user, (memory.verdicts calls).filter (·.1.user = user) =
      (memory.verdicts calls').filter (·.1.user = user)) ∧
    ∀ period now now' actor actor', PayAlike memory.tables.payslips
      ((runPayroll now period actor).run (memory.handInAll calls))
      ((runPayroll now' period actor').run (memory.handInAll calls')) := by
  refine ⟨fun user => (alike_of_reordered h memory user).1,
    fun period now now' actor actor' => ?_⟩
  obtain ⟨users, payslips⟩ := memory.handInAll_keeps calls
  obtain ⟨users', payslips'⟩ := memory.handInAll_keeps calls'
  rw [← payslips]
  exact runPayroll_alike (users.trans users'.symm) (payslips.trans payslips'.symm)
    (fun user => (alike_of_reordered h memory user).2) period now now' actor actor'

end Memory

def Date.monday : Date := ⟨2024, 3, 4, by decide⟩

def Date.sunday : Date := ⟨2024, 3, 10, by decide⟩

/-- A week for Ann and Bob, the users 2 and 3. -/
def Event.sharedWeek : List Event :=
  [.addUser .epoch "root" "" 0 true, .addUser .epoch "ann" "" 700 false,
    .addUser .epoch "bob" "" 900 false, .call (.createPeriod .epoch .monday .sunday ⟨1, 10⟩)]

def Submission.monday (user : Nat) : Submission := .attendance ⟨user, 11⟩ 4 .monday

def Submission.taxi (user : Nat) : Submission := .reimbursement ⟨user, 12⟩ 4 30 "taxi"

/-- Ann hands in her Monday twice, before Bob or around him. -/
theorem Memory.submissions_of_ann_and_bob :
    let week := after Event.sharedWeek
    let calls := [.monday 2, .monday 2, .monday 3, .taxi 3].map (Stamp.epoch, ·)
    let calls' := [.monday 3, .monday 2, .taxi 3, .monday 2].map (Stamp.payday, ·)
    Reordered calls calls' ∧
      ((week.verdicts calls').filter (·.1.user = 2)).map (·.2) =
        [.ok (), .error (.alreadyExists "attendance")] ∧
      ((runPayroll .payday 4 ⟨1, 13⟩).run (week.handInAll calls')).1 = .ok 2 := by
  intro week calls calls'
  have reordered : Reordered calls calls' := by
    intro user
    by_cases ann : user = 2
    · subst ann
      rfl
    · by_cases bob : user = 3
      · subst bob
        rfl
      · simp [calls, calls', Submission.monday, Submission.taxi, Submission.user,
          Submission.actor, Ne.symm ann, Ne.symm bob]
  obtain ⟨verdicts, payroll⟩ := submissions_are_independent week reordered
  refine ⟨reordered, ?_, ?_⟩
  · rw [← verdicts 2]
    rfl
  · rw [← (payroll 4 .payday .payday ⟨1, 13⟩ ⟨1, 13⟩).1, run_runPayroll]
    have tallies : (week.handInAll calls).tables.tallies 4 =
        [⟨2, 700, 1, 0, 0⟩, ⟨3, 900, 1, 0, 30⟩] := by
      rw [Tables.tallies, List.mergeSort_of_pairwise (by decide +kernel)]
      decide +kernel
    rw [tallies]
    decide +kernel

end Wagebook
