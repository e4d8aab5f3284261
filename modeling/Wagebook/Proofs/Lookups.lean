import Wagebook.Proofs.Contest
import Wagebook.Proofs.References

/-!
Lookups of earlier records are an early exit only. A command that is not told of an earlier record
goes on to its other checks, which that record has passed before it, and is stopped by the unique
key at the latest. So hiding the record changes nothing, except that a check of the command's own
amounts may come first.
-/

namespace Wagebook

theorem Payslip.of_compute_error {tally : Tally} {period : Nat} {days : Int} {createdAt : Stamp}
    {cause : PayrollError} (h : compute tally period days createdAt = .error cause) :
    cause = .invalid (.amountTooLarge tally.user) ∧ ¬ tally.Payable days := by
  unfold compute at h
  simp only at h
  split at h
  · cases h
  · rename_i unpayable
    cases h
    exact ⟨rfl, unpayable⟩

/-- A run that cannot compute its payslips names an employee whose amounts leave the 64 bits. -/
theorem Tables.exists_unpayable {t : Tables} {period : Nat} {days : Int} {createdAt : Stamp}
    {cause : PayrollError}
    (computed : (t.tallies period).mapM (Payslip.compute · period days createdAt) =
      .error cause) :
    ∃ u ∈ t.users, u.isAdmin = false ∧ cause = .invalid (.amountTooLarge u.id) ∧
      ¬ (t.tally period u).Payable days := by
  obtain ⟨tally, tallied, failed⟩ := exists_of_mapM_error computed
  obtain ⟨u, stored, employee, rfl⟩ := mem_tallies.mp tallied
  obtain ⟨rfl, unpayable⟩ := Payslip.of_compute_error failed
  exact ⟨u, stored, employee, rfl, unpayable⟩

namespace Memory

section Hide
variable (memory : Memory) (table : AuditTable) (user period : Nat) (date : Date)

@[simp] theorem tables_hide : (memory.hide table).tables = memory.tables := rfl

@[simp] theorem hide_tables (t : Tables) :
    ({ memory with tables := t } : Memory).hide table = { memory.hide table with tables := t } :=
  rfl

@[simp] theorem map_hide_ite (c : Prop) [Decidable c] (a b : Except PayrollError α × Memory) :
    (if c then a else b).map id (·.hide table) =
      if c then a.map id (·.hide table) else b.map id (·.hide table) :=
  apply_ite _ c a b

@[simp] theorem auditFails_hide :
    (memory.hide table).switches.auditFails = memory.switches.auditFails := rfl

@[simp] theorem seenAttendance?_hide_attendances :
    (memory.hide .attendances).seenAttendance? user period date = none := by
  simp [seenAttendance?, hide]

@[simp] theorem seenAttendance?_hide_overtimes :
    (memory.hide .overtimes).seenAttendance? user period date =
      memory.seenAttendance? user period date := by
  simp [seenAttendance?, hide]

@[simp] theorem seenOvertime?_hide_overtimes :
    (memory.hide .overtimes).seenOvertime? user period date = none := by
  simp [seenOvertime?, hide]

@[simp] theorem seesPayslips_hide_payslips :
    (memory.hide .payslips).seesPayslips period = false := by
  simp [seesPayslips, hide]

end Hide

variable {memory : Memory}

/-- What a lookup sees is stored. -/
theorem attendance?_of_seen {a : Attendance}
    (seen : memory.seenAttendance? user period date = some a) :
    memory.tables.attendance? user period date = some a := by
  unfold seenAttendance? at seen
  split at seen
  · cases seen
  · exact seen

theorem overtime?_of_seen {o : Overtime} (seen : memory.seenOvertime? user period date = some o) :
    memory.tables.overtime? user period date = some o := by
  unfold seenOvertime? at seen
  split at seen
  · cases seen
  · exact seen

theorem payslip_of_seen (seen : memory.seesPayslips period = true) :
    ∃ p ∈ memory.tables.payslips, p.period = period := by
  simp only [seesPayslips, Bool.and_eq_true, List.any_eq_true, decide_eq_true_eq] at seen
  exact seen.2

variable (reached : memory.tables.Reachable) (now : Stamp) (actor : Actor)
include reached

/-- The earlier attendance has passed every check that comes before the unique key. -/
theorem run_submitAttendance_hide (period : Nat) (date : Date) :
    (submitAttendance now actor period date).run (memory.hide .attendances) =
      ((submitAttendance now actor period date).run memory).map id (·.hide .attendances) := by
  rw [run_submitAttendance, run_submitAttendance, tables_hide, auditFails_hide]
  cases seen : memory.seenAttendance? actor.user period date with
  | none => cases memory.tables.period? period <;> simp
  | some a =>
      have stored := attendance?_of_seen seen
      obtain ⟨mem, user, rfl, rfl⟩ := Tables.mem_of_attendance? stored
      obtain ⟨window, known, inside⟩ := reached.lawful.attendance_window reached.numbered mem
      simp [known, inside, stored]

/-- The period of an earlier overtime is stored, so only its hours can stop the new one before the
unique key does. -/
theorem run_submitOvertime_hide (period : Nat) (date : Date) (hours : Int) :
    let seen := (submitOvertime now actor period date hours).run memory
    let hidden := (submitOvertime now actor period date hours).run (memory.hide .overtimes)
    hidden.2 = seen.2.hide .overtimes ∧
      (hidden.1 = seen.1 ∨
        seen.1 = .error (.alreadyExists "overtime") ∧
          hidden.1 = .error (.invalid .hoursOutOfRange) ∧ (hours < 1 ∨ 3 < hours)) := by
  intro seen hidden
  have seenRun : seen = _ := run_submitOvertime ..
  have hiddenRun : hidden = _ := run_submitOvertime ..
  rw [tables_hide, auditFails_hide, seenAttendance?_hide_overtimes,
    seenOvertime?_hide_overtimes] at hiddenRun
  by_cases absent : (memory.seenAttendance? actor.user period date).isNone
  · simp [seenRun, hiddenRun, absent]
  cases found : memory.seenOvertime? actor.user period date with
  | none =>
      have same : hidden = seen.map id (·.hide .overtimes) := by
        rw [hiddenRun, seenRun, found]
        simp [absent]
      rw [same]
      exact ⟨rfl, .inl rfl⟩
  | some o =>
      have stored := overtime?_of_seen found
      obtain ⟨mem, user, rfl, rfl⟩ := Tables.mem_of_overtime? stored
      obtain ⟨window, known, -⟩ := reached.lawful.overtime_window reached.numbered mem
      have repeated : seen = (.error (.alreadyExists "overtime"), memory) := by
        simp [seenRun, absent, found]
      by_cases range : hours < Overtime.leastHours ∨ Overtime.mostHours < hours
      · have refused : hidden = (.error (.invalid .hoursOutOfRange), memory.hide .overtimes) := by
          simp [hiddenRun, absent, known, range]
        rw [repeated, refused]
        exact ⟨rfl, .inr ⟨rfl, rfl, range⟩⟩
      · have taken : hidden = (.error (.alreadyExists "overtime"), memory.hide .overtimes) := by
          simp [hiddenRun, absent, known, range, stored]
        rw [repeated, taken]
        exact ⟨rfl, .inl rfl⟩

/-- Whoever was paid is still an employee. So a run that is not told of the earlier payslips
collides with one of them, unless the amounts of an employee stop it before. -/
theorem run_runPayroll_hide (period : Nat) :
    let seen := (runPayroll now period actor).run memory
    let hidden := (runPayroll now period actor).run (memory.hide .payslips)
    hidden.2 = seen.2.hide .payslips ∧
      (hidden.1 = seen.1 ∨
        seen.1 = .error (.alreadyProcessed period) ∧
          ∃ u ∈ memory.tables.users, u.isAdmin = false ∧
            hidden.1 = .error (.invalid (.amountTooLarge u.id)) ∧
            ∃ window, memory.tables.period? period = some window ∧
              ¬ (memory.tables.tally period u).Payable window.workingDays) := by
  intro seen hidden
  have seenRun : seen = _ := run_runPayroll ..
  have hiddenRun : hidden = _ := run_runPayroll ..
  rw [tables_hide, auditFails_hide, seesPayslips_hide_payslips] at hiddenRun
  cases found : memory.seesPayslips period with
  | false =>
      have same : hidden = seen.map id (·.hide .payslips) := by
        rw [hiddenRun, seenRun, found]
        cases memory.tables.period? period with
        | none => simp
        | some window =>
            cases computed : (memory.tables.tallies period).mapM
              (Payslip.compute · period window.workingDays now.toMicros) <;> simp [computed]
      rw [same]
      exact ⟨rfl, .inl rfl⟩
  | true =>
      obtain ⟨p, mem, rfl⟩ := payslip_of_seen found
      obtain ⟨window, known⟩ := reached.paid.payslip_period reached.numbered mem
      have days := workingDays_pos reached known
      have repeated : seen = (.error (.alreadyProcessed p.period), memory) := by
        simp [seenRun, found]
      cases computed : (memory.tables.tallies p.period).mapM
          (Payslip.compute · p.period window.workingDays now.toMicros) with
      | error cause =>
          obtain ⟨u, stored, employee, rfl, unpayable⟩ := Tables.exists_unpayable computed
          have refused : hidden =
              (.error (.invalid (.amountTooLarge u.id)), memory.hide .payslips) := by
            simp [hiddenRun, known, days.not_ge, computed]
          rw [repeated, refused]
          exact ⟨rfl, .inr ⟨rfl, u, stored, employee, rfl, window, known, unpayable⟩⟩
      | ok drafts =>
          have taken : ¬ memory.tables.Free drafts := fun free =>
            reached.paid.first_run computed free p mem rfl
          have collides : hidden =
              (.error (.alreadyProcessed p.period), memory.hide .payslips) := by
            simp [hiddenRun, known, days.not_ge, computed, taken]
          rw [repeated, collides]
          exact ⟨rfl, .inl rfl⟩

omit reached in
/-- In every history a hidden lookup changes neither which calls succeed nor what they leave. An
attendance is answered the same. Overtime and payroll may be refused for the hours or an
employee's amounts where they were refused as repeated. -/
theorem hiding_keeps_outcomes (events : List Event) (period : Nat) :
    let memory := after events
    (∀ date, (submitAttendance now actor period date).run (memory.hide .attendances) =
      ((submitAttendance now actor period date).run memory).map id (·.hide .attendances)) ∧
    (∀ date hours,
      let seen := (submitOvertime now actor period date hours).run memory
      let hidden := (submitOvertime now actor period date hours).run (memory.hide .overtimes)
      hidden.2 = seen.2.hide .overtimes ∧
        (hidden.1 = seen.1 ∨
          seen.1 = .error (.alreadyExists "overtime") ∧
            hidden.1 = .error (.invalid .hoursOutOfRange) ∧ (hours < 1 ∨ 3 < hours))) ∧
    (let seen := (runPayroll now period actor).run memory
      let hidden := (runPayroll now period actor).run (memory.hide .payslips)
      hidden.2 = seen.2.hide .payslips ∧
        (hidden.1 = seen.1 ∨
          seen.1 = .error (.alreadyProcessed period) ∧
            ∃ u ∈ memory.tables.users, u.isAdmin = false ∧
              hidden.1 = .error (.invalid (.amountTooLarge u.id)) ∧
              ∃ window, memory.tables.period? period = some window ∧
                ¬ (memory.tables.tally period u).Payable window.workingDays)) := by
  have reached := after_reachable events
  exact ⟨run_submitAttendance_hide reached now actor period,
    run_submitOvertime_hide reached now actor period, run_runPayroll_hide reached now actor period⟩

end Memory
end Wagebook
