import Wagebook.Proofs.Units

/-!
Commands: the operations that change the tables. For each of them one equation says what it comes
to, check by check in their order, and `Command.Writes` says what it leaves when it succeeds.
-/

namespace Wagebook

/-! A change is booked with the audit entry that holds the new record. -/

namespace Tables

def bookPeriod (t : Tables) (draft : Period.Draft) (actor : Actor) : Tables :=
  (t.addPeriod draft).addAuditEntry (AuditEntry.created .attendancePeriods t.nextId
    (draft.stored t.nextId).toJson actor draft.createdAt)

def bookAttendance (t : Tables) (draft : Attendance.Draft) (actor : Actor) : Tables :=
  (t.addAttendance draft).addAuditEntry (AuditEntry.created .attendances t.nextId
    (draft.stored t.nextId).toJson actor draft.createdAt)

def bookOvertime (t : Tables) (draft : Overtime.Draft) (actor : Actor) : Tables :=
  (t.addOvertime draft).addAuditEntry (AuditEntry.created .overtimes t.nextId
    (draft.stored t.nextId).toJson actor draft.createdAt)

def bookReimbursement (t : Tables) (draft : Reimbursement.Draft) (actor : Actor) : Tables :=
  (t.addReimbursement draft).addAuditEntry (AuditEntry.created .reimbursements t.nextId
    (draft.stored t.nextId).toJson actor draft.createdAt)

def addPayslips (t : Tables) (drafts : List Payslip.Draft) : Tables := drafts.foldl addPayslip t

/-- A payroll run is booked as one change. -/
def bookPayslips (t : Tables) (drafts : List Payslip.Draft) (actor : Actor) (now : Stamp) :
    Tables :=
  (t.addPayslips drafts).addAuditEntry (AuditEntry.created .payslips runRecordId
    (.arr (drafts.map Payslip.Draft.toJson)) actor now)

/-- No draft has the key of a stored payslip or of a draft before it. -/
def Free (t : Tables) : List Payslip.Draft → Prop
  | [] => True
  | draft :: drafts =>
      t.payslip? draft.user draft.period = none ∧ (t.addPayslip draft).Free drafts

end Tables

theorem Memory.insertPayslips_free {drafts : List Payslip.Draft} {t : Tables} (h : t.Free drafts) :
    insertPayslips drafts t = (.ok (), t.addPayslips drafts) := by
  induction drafts generalizing t with
  | nil => rfl
  | cons draft drafts ih => simpa [insertPayslips, h.1, Tables.addPayslips] using ih h.2

theorem Memory.insertPayslips_taken {drafts : List Payslip.Draft} {t : Tables}
    (h : ¬ t.Free drafts) :
    ∃ t', insertPayslips drafts t = (.error (.uniqueViolation payslipKey), t') := by
  induction drafts generalizing t with
  | nil => exact absurd trivial h
  | cons draft drafts ih =>
      unfold insertPayslips
      split
      · exact ⟨t, rfl⟩
      · rename_i free
        rw [Bool.not_eq_true, Option.isSome_eq_false_iff, Option.isNone_iff_eq_none] at free
        exact ih fun rest => h ⟨free, rest⟩

instance Tables.decidableFree (t : Tables) :
    (drafts : List Payslip.Draft) → Decidable (t.Free drafts)
  | [] => .isTrue trivial
  | draft :: drafts =>
      have := decidableFree (t.addPayslip draft) drafts
      inferInstanceAs (Decidable (_ ∧ _))

namespace Memory

/-- What a lookup sees of an attendance. -/
def seenAttendance? (memory : Memory) (user period : Nat) (date : Date) : Option Attendance :=
  if memory.switches.hidden.contains .attendances then none
  else memory.tables.attendance? user period date

def seenOvertime? (memory : Memory) (user period : Nat) (date : Date) : Option Overtime :=
  if memory.switches.hidden.contains .overtimes then none
  else memory.tables.overtime? user period date

/-- Whether a lookup sees payslips of a period. -/
def seesPayslips (memory : Memory) (period : Nat) : Bool :=
  !memory.switches.hidden.contains .payslips && memory.tables.payslips.any (·.period = period)

variable (memory : Memory) (now : Stamp) (actor : Actor)

theorem run_createPeriod (first last : Date) :
    (createPeriod now first last actor).run memory =
      if ¬ first < last then (.error (.invalid .startNotBeforeEnd), memory)
      else if memory.switches.auditFails then
        (.error (.store (.unavailable "audit ledger offline")), memory)
      else (.ok memory.tables.nextId, { memory with
        tables := memory.tables.bookPeriod ⟨first, last, now.toMicros⟩ actor }) := by
  by_cases order : first < last
  · have writes (step : Step Nat) :
        Operation.run ⟨if first < last then .ok () else .error (.invalid .startNotBeforeEnd),
          step, true⟩ memory = (Operation.writing step).run memory := by
      simp only [order, if_true]; rfl
    rw [createPeriod, ExceptT.run, writes, run_writing]
    simp [order, Tables.bookPeriod]
  · simp [createPeriod, Operation.run, order]

theorem run_submitAttendance (period : Nat) (date : Date) :
    (submitAttendance now actor period date).run memory =
      if (memory.seenAttendance? actor.user period date).isSome then
        (.error (.alreadyExists "attendance"), memory)
      else match memory.tables.period? period with
      | none => (.error (.notFound "period"), memory)
      | some window =>
        if ¬ window.Contains date then
          (.error (.outOfWindow window.first window.last), memory)
        else if (memory.tables.attendance? actor.user period date).isSome then
          (.error (.alreadyExists "attendance"), memory)
        else if memory.switches.auditFails then
          (.error (.store (.unavailable "audit ledger offline")), memory)
        else (.ok memory.tables.nextId, { memory with
          tables := memory.tables.bookAttendance
            ⟨actor.user, period, date, now.toMicros⟩ actor }) := by
  rw [submitAttendance, run_writing]
  cases hp : memory.tables.period? period with
  | none => simp [seenAttendance?, hp]
  | some window => simp [seenAttendance?, hp, Tables.bookAttendance]

theorem run_submitOvertime (period : Nat) (date : Date) (hours : Int) :
    (submitOvertime now actor period date hours).run memory =
      if (memory.seenAttendance? actor.user period date).isNone then
        (.error .attendanceMissing, memory)
      else if (memory.seenOvertime? actor.user period date).isSome then
        (.error (.alreadyExists "overtime"), memory)
      else if (memory.tables.period? period).isNone then (.error (.notFound "period"), memory)
      else if hours < Overtime.leastHours ∨ Overtime.mostHours < hours then
        (.error (.invalid .hoursOutOfRange), memory)
      else if (memory.tables.overtime? actor.user period date).isSome then
        (.error (.alreadyExists "overtime"), memory)
      else if memory.switches.auditFails then
        (.error (.store (.unavailable "audit ledger offline")), memory)
      else (.ok memory.tables.nextId, { memory with
        tables := memory.tables.bookOvertime
          ⟨actor.user, period, date, hours, now.toMicros⟩ actor }) := by
  rw [submitOvertime, run_writing]
  simp [seenAttendance?, seenOvertime?, Tables.bookOvertime]

theorem run_submitReimbursement (period : Nat) (amount : Int) (description : String) :
    (submitReimbursement now actor period amount description).run memory =
      if (memory.tables.period? period).isNone then (.error (.notFound "period"), memory)
      else if amount ≤ 0 then (.error (.invalid .amountNotPositive), memory)
      else if memory.switches.auditFails then
        (.error (.store (.unavailable "audit ledger offline")), memory)
      else (.ok memory.tables.nextId, { memory with
        tables := memory.tables.bookReimbursement
          ⟨actor.user, period, amount, description, now.toMicros⟩ actor }) := by
  rw [submitReimbursement, run_writing]
  simp [Tables.bookReimbursement]

theorem run_runPayroll (period : Nat) :
    (runPayroll now period actor).run memory =
      if memory.seesPayslips period then (.error (.alreadyProcessed period), memory)
      else match memory.tables.period? period with
      | none => (.error (.notFound "period"), memory)
      | some window =>
        if window.workingDays ≤ 0 then (.error (.invalid .noWorkingDays), memory)
        else match (memory.tables.tallies period).mapM
            (Payslip.compute · period window.workingDays now.toMicros) with
        | .error cause => (.error cause, memory)
        | .ok drafts =>
          if ¬ memory.tables.Free drafts then (.error (.alreadyProcessed period), memory)
          else if memory.switches.auditFails then
            (.error (.store (.unavailable "audit ledger offline")), memory)
          else (.ok drafts.length, { memory with
            tables := memory.tables.bookPayslips drafts actor now.toMicros }) := by
  rw [runPayroll, run_writing]
  cases hp : memory.tables.period? period with
  | none => simp [seesPayslips, hp]
  | some window =>
      simp only [seesPayslips]
      cases hd : (memory.tables.tallies period).mapM
          (Payslip.compute · period window.workingDays now.toMicros) with
      | error cause => simp [hp, hd]
      | ok drafts =>
          by_cases free : memory.tables.Free drafts
          · simp [hp, hd, free, insertPayslips_free free, Tables.bookPayslips]
          · obtain ⟨t', taken⟩ := insertPayslips_taken free
            simp [hp, hd, free, taken]

theorem run_recordRequest (url method ipAddress : String) :
    (recordRequest now url method ipAddress).run memory =
      if memory.switches.requestLogFails then
        (.error (.store (.unavailable "request log offline")), memory)
      else (.ok memory.tables.nextId, { memory with
        tables := memory.tables.addRequestEntry ⟨url, method, ipAddress, now.toMicros⟩ }) := by
  rw [recordRequest, run_writing]
  simp

end Memory

inductive Command
  | createPeriod (now : Stamp) (first last : Date) (actor : Actor)
  | submitAttendance (now : Stamp) (actor : Actor) (period : Nat) (date : Date)
  | submitOvertime (now : Stamp) (actor : Actor) (period : Nat) (date : Date) (hours : Int)
  | submitReimbursement (now : Stamp) (actor : Actor) (period : Nat) (amount : Int)
      (description : String)
  | runPayroll (now : Stamp) (period : Nat) (actor : Actor)
  | recordRequest (now : Stamp) (url method ipAddress : String)

namespace Command

/-- Answers the id of the new row, and a payroll the number of new payslips. -/
def operation : Command → Operation Nat
  | .createPeriod now first last actor => Wagebook.createPeriod now first last actor
  | .submitAttendance now actor period date => Wagebook.submitAttendance now actor period date
  | .submitOvertime now actor period date hours =>
      Wagebook.submitOvertime now actor period date hours
  | .submitReimbursement now actor period amount description =>
      Wagebook.submitReimbursement now actor period amount description
  | .runPayroll now period actor => Wagebook.runPayroll now period actor
  | .recordRequest now url method ipAddress => Wagebook.recordRequest now url method ipAddress

/-- What a command that succeeds answers, and the tables that it leaves. -/
inductive Writes (t : Tables) : Command → Nat → Tables → Prop
  | period (order : first < last) :
      Writes t (.createPeriod now first last actor) t.nextId
        (t.bookPeriod ⟨first, last, now.toMicros⟩ actor)
  | attendance (known : t.period? period = some window) (inside : window.Contains date)
      (free : t.attendance? actor.user period date = none) :
      Writes t (.submitAttendance now actor period date) t.nextId
        (t.bookAttendance ⟨actor.user, period, date, now.toMicros⟩ actor)
  | overtime (attended : t.attendance? actor.user period date = some attendance)
      (known : t.period? period = some window)
      (least : Overtime.leastHours ≤ hours) (most : hours ≤ Overtime.mostHours)
      (free : t.overtime? actor.user period date = none) :
      Writes t (.submitOvertime now actor period date hours) t.nextId
        (t.bookOvertime ⟨actor.user, period, date, hours, now.toMicros⟩ actor)
  | reimbursement (known : t.period? period = some window) (positive : 0 < amount) :
      Writes t (.submitReimbursement now actor period amount description) t.nextId
        (t.bookReimbursement ⟨actor.user, period, amount, description, now.toMicros⟩ actor)
  | payroll (known : t.period? period = some window) (days : 0 < window.workingDays)
      (computed : (t.tallies period).mapM
        (Payslip.compute · period window.workingDays now.toMicros) = .ok drafts)
      (free : t.Free drafts) :
      Writes t (.runPayroll now period actor) drafts.length
        (t.bookPayslips drafts actor now.toMicros)
  | request :
      Writes t (.recordRequest now url method ipAddress) t.nextId
        (t.addRequestEntry ⟨url, method, ipAddress, now.toMicros⟩)

private theorem exists_of_found {found : Option α} (h : ¬ found.isNone) :
    ∃ a, found = some a := by
  cases found with
  | none => simp at h
  | some a => exact ⟨a, rfl⟩

private theorem exists_of_seen {hidden : Bool} {found : Option α}
    (h : ¬ (if hidden then none else found).isNone) : ∃ a, found = some a := by
  cases hidden with
  | false => exact exists_of_found h
  | true => simp at h

/-- A success is one of six changes, and the checks of its command have passed. -/
theorem writes_of_run {command : Command} {memory memory' : Memory} {result : Nat}
    (h : command.operation.run memory = (.ok result, memory')) :
    ∃ t, memory' = { memory with tables := t } ∧ Writes memory.tables command result t := by
  cases command with
  | createPeriod now first last actor =>
      rw [operation, Memory.run_createPeriod] at h
      split at h
      · cases h
      · rename_i order
        split at h
        · cases h
        · cases h
          exact ⟨_, rfl, .period (Decidable.not_not.mp order)⟩
  | submitAttendance now actor period date =>
      rw [operation, Memory.run_submitAttendance] at h
      split at h
      · cases h
      split at h
      · cases h
      rename_i window known
      split at h
      · cases h
      rename_i inside
      split at h
      · cases h
      rename_i free
      split at h
      · cases h
      cases h
      exact ⟨_, rfl, .attendance known (Decidable.not_not.mp inside) (by simpa using free)⟩
  | submitOvertime now actor period date hours =>
      rw [operation, Memory.run_submitOvertime] at h
      split at h
      · cases h
      rename_i attended
      obtain ⟨attendance, attended⟩ := exists_of_seen attended
      split at h
      · cases h
      split at h
      · cases h
      rename_i known
      split at h
      · cases h
      rename_i hours
      split at h
      · cases h
      rename_i free
      split at h
      · cases h
      cases h
      obtain ⟨window, known⟩ := exists_of_found known
      exact ⟨_, rfl, .overtime attended known (by omega) (by omega) (by simpa using free)⟩
  | submitReimbursement now actor period amount description =>
      rw [operation, Memory.run_submitReimbursement] at h
      split at h
      · cases h
      rename_i known
      split at h
      · cases h
      rename_i positive
      split at h
      · cases h
      cases h
      obtain ⟨window, known⟩ := exists_of_found known
      exact ⟨_, rfl, .reimbursement known (by omega)⟩
  | runPayroll now period actor =>
      rw [operation, Memory.run_runPayroll] at h
      split at h
      · cases h
      split at h
      · cases h
      rename_i window known
      split at h
      · cases h
      rename_i days
      split at h
      · cases h
      rename_i drafts computed
      split at h
      · cases h
      rename_i free
      split at h
      · cases h
      cases h
      exact ⟨_, rfl, .payroll known (by omega) computed (Decidable.not_not.mp free)⟩
  | recordRequest now url method ipAddress =>
      rw [operation, Memory.run_recordRequest] at h
      split at h
      · cases h
      cases h
      exact ⟨_, rfl, .request⟩

end Command
end Wagebook
