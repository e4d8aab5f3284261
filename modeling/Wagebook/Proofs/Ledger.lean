import Wagebook.Proofs.Pay
import Wagebook.Proofs.Records
import Wagebook.Proofs.Trail

/-!
The audit trail on its own gives back the tables. Every change is booked with one entry, which holds
the new record, or the payslips of a whole run; so putting back what the entries tell of, one after
the other, ends at the records that are stored.
-/

namespace Wagebook

theorem Command.Writes.users {t t' : Tables} (h : Command.Writes t command answer t') :
    t'.users = t.users := by
  cases h with
  | period => rfl
  | attendance => rfl
  | overtime => rfl
  | reimbursement => rfl
  | payroll =>
      rw [Tables.bookPayslips, Tables.addPayslips_eq]
      rfl
  | request => rfl

theorem Amount.fits_wrapped (n : Int) : Fits (wrapped n) := by
  unfold Fits wrapped
  have least := Int.le_bmod (x := n) (m := 0x10000000000000000) (by decide)
  have most := Int.bmod_lt (x := n) (m := 0x10000000000000000) (by decide)
  omega

/-- A share of a number lies between the number and zero. -/
theorem Amount.Fits.tdiv {n : Int} (h : Fits n) {days : Int} (pos : 0 < days) :
    Fits (n.tdiv days) := by
  unfold Fits at h ⊢
  have size := Int.natAbs_tdiv_le_natAbs n days
  by_cases sign : 0 ≤ n
  · have := Int.tdiv_nonneg sign (Int.le_of_lt pos)
    omega
  · have opposite := Int.tdiv_nonneg (a := -n) (by omega) (Int.le_of_lt pos)
    rw [Int.neg_tdiv] at opposite
    omega

namespace Tables

variable {t t' : Tables} {period : Nat} {window : Period} {drafts : List Payslip.Draft}

theorem Earned.fits {p : Payslip} (h : t.Earned p) (reached : t.Reachable)
    (salaries : ∀ u ∈ t.users, Amount.Fits u.salary) (small : t.lastId < 0x10000000000000000) :
    p.draft.Fits := by
  have numbered := reached.numbered
  obtain ⟨days, least, most, someHours, hours⟩ := h.bounds reached.lawful numbered
  obtain ⟨u, hu, user, -, salary⟩ := h.employee
  obtain ⟨w, hw, period, sameDays⟩ := h.window
  have long := w.workingDays_lt
  have userDrawn := numbered.users.le_of_mem hu
  have periodDrawn := numbered.periods.le_of_mem hw
  have positive : 0 < p.workingDays := Int.lt_of_lt_of_le (by decide) days
  have between {n : Int} (low : 0 ≤ n) (high : n < 600000000) : Amount.Fits n := by
    unfold Amount.Fits
    omega
  have userFits : p.user < 0x10000000000000000 := by omega
  have periodFits : p.period < 0x10000000000000000 := by omega
  have salaryFits : Amount.Fits p.baseSalary := salary ▸ salaries u hu
  have daysFit : Amount.Fits p.workingDays := between (by omega) (by omega)
  have presentFits : Amount.Fits p.presentDays := between least (by omega)
  have hoursFit : Amount.Fits p.overtimeHours := between someHours (by omega)
  have attendanceFits := h.attendanceFits.tdiv positive
  have overtimeFits := h.overtimeFits.tdiv positive
  have reimbursementFits := Amount.fits_wrapped (t.reimbursedBefore p.user p.period p.id)
  rw [← h.attendanceAmount] at attendanceFits
  rw [← h.overtimeAmount] at overtimeFits
  rw [← h.reimbursementTotal] at reimbursementFits
  exact ⟨userFits, periodFits, salaryFits, daysFit, presentFits, attendanceFits, hoursFit,
    overtimeFits, reimbursementFits, h.payFits⟩

theorem fits_of_run (reached : t.Reachable) (salaries : ∀ u ∈ t.users, Amount.Fits u.salary)
    (small : t.lastId < 0x10000000000000000) (known : t.period? period = some window)
    (computed : (t.tallies period).mapM
      (Payslip.compute · period window.workingDays createdAt) = .ok drafts) :
    ∀ draft ∈ drafts, draft.Fits := by
  intro draft mem
  obtain ⟨earned, -, -⟩ :=
    Paid.earned_of_run reached.numbered known computed mem (Nat.lt_succ_self t.lastId)
  exact earned.fits reached salaries small

theorem filter_snoc_id {last : Nat} {rows : List α} {id : α → Nat} {row : α}
    (ids : Ascending last (rows.map id)) (next : id row = last + 1) :
    (rows ++ [row]).filter (fun other => id other = last + 1) = [row] := by
  have nodup := (ids.map_snoc next).1.imp Nat.ne_of_lt
  rw [← next]
  exact filter_eq_singleton nodup (List.mem_append_right rows List.mem_cons_self)

/-- The audit trail is the trail of these commands, and gives back the records. -/
structure Ledger (t : Tables) (calls : List (Command × Nat)) : Prop where
  restored : replay t.auditEntries = some t.records
  told : List.Forall₂ (fun call e => AuditEntry.Tells t e call.1 call.2 ∧ e.Created call.1.actor?)
    calls t.auditEntries
  payslips : ∀ p ∈ t.payslips, Listed.payslip t.auditEntries p

theorem forall₂_grow {R S : α → β → Prop} {as : List α} {bs : List β}
    (h : List.Forall₂ R as bs) (imp : ∀ a, ∀ b ∈ bs, R a b → S a b) : List.Forall₂ S as bs := by
  induction h with
  | nil => exact .nil
  | cons first rest ih =>
      refine .cons (imp _ _ List.mem_cons_self first) (ih fun a b mem => ?_)
      exact imp a b (List.mem_cons_of_mem _ mem)

theorem period_lt (numbered : t.Numbered) (known : t.period? period = some window)
    (small : t.nextId < 0x10000000000000000) : period < 0x10000000000000000 := by
  obtain ⟨mem, same⟩ := mem_of_period? known
  have := numbered.periods.le_of_mem mem
  unfold nextId at small
  omega

namespace Ledger

variable {calls : List (Command × Nat)}

theorem empty : Ledger {} [] where
  restored := rfl
  told := .nil
  payslips := by simp

/-- What is not audited does not matter to the ledger. -/
theorem unaudited (h : t.Ledger calls) (numbered : t.Numbered) (ext : t.Extends t')
    (entries : t'.auditEntries = t.auditEntries) (records : t'.records = t.records)
    (payslips : t'.payslips = t.payslips) : t'.Ledger calls where
  restored := by rw [entries, records, h.restored]
  told := by
    rw [entries]
    exact forall₂_grow h.told fun call e mem told => ⟨told.1.grow numbered mem ext, told.2⟩
  payslips := by
    rw [entries, payslips]
    exact h.payslips

theorem book (h : t.Ledger calls) (numbered : t.Numbered) (ext : t.Extends t') {e : AuditEntry}
    (entries : t'.auditEntries = t.auditEntries ++ [e])
    (restore : e.restore t.records = some t'.records) (tells : e.Tells t' command answer)
    (created : e.Created command.actor?)
    (payslips : ∀ p ∈ t'.payslips, p ∈ t.payslips ∨ Listed.payslip [e] p) :
    t'.Ledger (calls ++ [(command, answer)]) where
  restored := by
    rw [entries, replay_snoc, h.restored]
    exact restore
  told := by
    rw [entries]
    refine List.rel_append ?_ (.cons ⟨tells, created⟩ .nil)
    exact forall₂_grow h.told fun call e mem told => ⟨told.1.grow numbered mem ext, told.2⟩
  payslips := by
    intro p mem
    rw [entries]
    rcases payslips p mem with old | new
    · obtain ⟨e', mem', of⟩ := h.payslips p old
      exact ⟨e', List.mem_append_left _ mem', of⟩
    · obtain ⟨e', mem', of⟩ := new
      exact ⟨e', List.mem_append_right _ mem', of⟩

theorem bookPeriod (h : t.Ledger calls) (numbered : t.Numbered)
    (small : t.nextId < 0x10000000000000000) {now : Stamp} {first last : Date} {actor : Actor} :
    (t.bookPeriod ⟨first, last, now.toMicros⟩ actor).Ledger
      (calls ++ [(.createPeriod now first last actor, t.nextId)]) := by
  have decoded : Period.ofJson? (Period.Draft.stored ⟨first, last, now.toMicros⟩ t.nextId).toJson =
      some (Period.Draft.stored ⟨first, last, now.toMicros⟩ t.nextId) := Period.ofJson?_toJson small
  apply h.book numbered ((Extends.addPeriod t _).trans (.addAuditEntry _ _)) rfl
  · exact AuditEntry.restore_period _ rfl decoded
  · exact .period rfl rfl decoded (filter_snoc_id numbered.periods rfl)
  · exact ⟨rfl, rfl, rfl, rfl⟩
  · exact fun p mem => .inl mem

theorem bookAttendance (h : t.Ledger calls) (numbered : t.Numbered)
    (small : t.nextId < 0x10000000000000000) (known : t.period? period = some window)
    {now : Stamp} {actor : Actor} (inRange : actor.InRange) {date : Date} :
    (t.bookAttendance ⟨actor.user, period, date, now.toMicros⟩ actor).Ledger
      (calls ++ [(.submitAttendance now actor period date, t.nextId)]) := by
  let row := Attendance.Draft.stored ⟨actor.user, period, date, now.toMicros⟩ t.nextId
  have decoded : Attendance.ofJson? row.toJson = some row :=
    Attendance.ofJson?_toJson small inRange.1 (period_lt numbered known small)
  apply h.book numbered ((Extends.addAttendance t _).trans (.addAuditEntry _ _)) rfl
  · exact AuditEntry.restore_attendance _ rfl decoded
  · exact .attendance rfl rfl decoded (filter_snoc_id numbered.attendances rfl)
  · exact ⟨rfl, rfl, rfl, rfl⟩
  · exact fun p mem => .inl mem

theorem bookOvertime (h : t.Ledger calls) (numbered : t.Numbered)
    (small : t.nextId < 0x10000000000000000) (known : t.period? period = some window)
    {now : Stamp} {actor : Actor} (inRange : actor.InRange) {date : Date} {hours : Int}
    (least : 1 ≤ hours) (most : hours ≤ 3) :
    (t.bookOvertime ⟨actor.user, period, date, hours, now.toMicros⟩ actor).Ledger
      (calls ++ [(.submitOvertime now actor period date hours, t.nextId)]) := by
  let row := Overtime.Draft.stored ⟨actor.user, period, date, hours, now.toMicros⟩ t.nextId
  have decoded : Overtime.ofJson? row.toJson = some row :=
    Overtime.ofJson?_toJson small inRange.1 (period_lt numbered known small)
      (Int.le_trans (by decide) least) (Int.lt_of_le_of_lt most (by decide))
  apply h.book numbered ((Extends.addOvertime t _).trans (.addAuditEntry _ _)) rfl
  · exact AuditEntry.restore_overtime _ rfl decoded
  · exact .overtime rfl rfl decoded (filter_snoc_id numbered.overtimes rfl)
  · exact ⟨rfl, rfl, rfl, rfl⟩
  · exact fun p mem => .inl mem

theorem bookReimbursement (h : t.Ledger calls) (numbered : t.Numbered)
    (small : t.nextId < 0x10000000000000000) (known : t.period? period = some window)
    {now : Stamp} {actor : Actor} (inRange : actor.InRange) {amount : Int}
    (fits : Amount.Fits amount) {description : String} :
    (t.bookReimbursement ⟨actor.user, period, amount, description, now.toMicros⟩ actor).Ledger
      (calls ++ [(.submitReimbursement now actor period amount description, t.nextId)]) := by
  let row := Reimbursement.Draft.stored
    ⟨actor.user, period, amount, description, now.toMicros⟩ t.nextId
  have decoded : Reimbursement.ofJson? row.toJson = some row :=
    Reimbursement.ofJson?_toJson small inRange.1 (period_lt numbered known small) fits
  apply h.book numbered ((Extends.addReimbursement t _).trans (.addAuditEntry _ _)) rfl
  · exact AuditEntry.restore_reimbursement _ rfl decoded
  · exact .reimbursement rfl rfl decoded (filter_snoc_id numbered.reimbursements rfl)
  · exact ⟨rfl, rfl, rfl, rfl⟩
  · exact fun p mem => .inl mem

/-- The payslips of a run are the ones with the ids just below that of its entry. -/
theorem filter_batch (numbered : t.Numbered) {entryId : Nat}
    (next : entryId = t.nextId + drafts.length) :
    (t.payslips ++ Payslip.storedFrom t.nextId drafts).filter
        (fun p => entryId - drafts.length ≤ p.id ∧ p.id < entryId) =
      Payslip.storedFrom (entryId - drafts.length) drafts := by
  have first : entryId - drafts.length = t.nextId := by omega
  have old : t.payslips.filter
      (fun p => entryId - drafts.length ≤ p.id ∧ p.id < entryId) = [] := by
    rw [List.filter_eq_nil_iff]
    intro p mem
    have := numbered.payslips.le_of_mem mem
    rw [decide_eq_true_eq, first, nextId]
    omega
  have new : (Payslip.storedFrom t.nextId drafts).filter
      (fun p => entryId - drafts.length ≤ p.id ∧ p.id < entryId) =
        Payslip.storedFrom t.nextId drafts := by
    rw [List.filter_eq_self]
    intro p mem
    obtain ⟨least, most, -⟩ := Payslip.mem_storedFrom mem
    rw [decide_eq_true_eq, first, next]
    exact ⟨least, most⟩
  rw [List.filter_append, old, new, List.nil_append, first]

theorem bookPayslips (h : t.Ledger calls) (numbered : t.Numbered) {now : Stamp} {actor : Actor}
    (fits : ∀ draft ∈ drafts, draft.Fits) (run : ∀ draft ∈ drafts, draft.period = period) :
    (t.bookPayslips drafts actor now.toMicros).Ledger
      (calls ++ [(.runPayroll now period actor, drafts.length)]) := by
  have entry : t.lastId + drafts.length + 1 = t.nextId + drafts.length := by
    unfold nextId
    omega
  have first : t.lastId + drafts.length + 1 - drafts.length = t.nextId := by omega
  have decoded := Payslip.Draft.list?_map_toJson fits
  have ext : t.Extends (t.bookPayslips drafts actor now.toMicros) :=
    (Extends.addPayslips t drafts).trans (.addAuditEntry _ _)
  -- the entry draws its id after the whole batch
  rw [Tables.bookPayslips, addPayslips_eq] at ext ⊢
  apply h.book numbered ext rfl
  · rw [AuditEntry.restore_payslips _ rfl decoded]
    simp only [addAuditEntry, AuditEntry.Draft.stored, nextId] at first ⊢
    rw [first]
    rfl
  · exact .payroll rfl rfl decoded run (filter_batch numbered entry)
  · exact ⟨rfl, rfl, rfl, rfl⟩
  · intro p mem
    rcases List.mem_append.mp mem with old | new
    · exact .inl old
    · rw [← first] at new
      exact .inr ⟨_, List.mem_singleton_self _, rfl, drafts, decoded, new⟩

theorem write (h : t.Ledger calls) (reached : t.Reachable)
    (salaries : ∀ u ∈ t.users, Amount.Fits u.salary) (inRange : command.InRange)
    (writes : Command.Writes t command answer t') (small : t'.lastId < 0x10000000000000000) :
    t'.Ledger (calls ++ if command.actor?.isSome then [(command, answer)] else []) := by
  have numbered := reached.numbered
  have next : t.nextId < 0x10000000000000000 := Nat.lt_of_le_of_lt writes.nextId_le small
  cases writes with
  | period => exact h.bookPeriod numbered next
  | attendance known => exact h.bookAttendance numbered next known inRange
  | overtime attended known least most =>
      exact h.bookOvertime numbered next known inRange least most
  | reimbursement known =>
      exact h.bookReimbursement numbered next known inRange.1 inRange.2
  | payroll known days computed free =>
      have fits := fits_of_run reached salaries (Nat.lt_of_succ_lt next) known computed
      refine h.bookPayslips numbered fits fun draft mem => ?_
      exact (Paid.earned_of_run numbered known computed mem (Nat.lt_succ_self t.lastId)).2.1
  | request =>
      rw [Command.actor?, Option.isSome_none, if_neg Bool.false_ne_true, List.append_nil]
      exact h.unaudited numbered (.addRequestEntry t _) rfl rfl rfl

end Ledger
end Tables

namespace Event

variable {event : Event} {memory : Memory} {calls : List (Command × Nat)}

theorem apply_salaries (inRange : event.InRange)
    (h : ∀ u ∈ memory.tables.users, Amount.Fits u.salary) :
    ∀ u ∈ (event.apply memory).tables.users, Amount.Fits u.salary := by
  obtain ⟨same, -⟩ | ⟨user, added, -, fits⟩ | ⟨command, answer, writes, -⟩ :=
    event.audited_cases memory
  · rwa [same]
  · rw [added]
    intro u mem
    rcases List.mem_append.mp mem with old | new
    · exact h u old
    · rw [List.mem_singleton.mp new]
      exact fits inRange
  · rwa [writes.users]

theorem apply_ledger (h : memory.tables.Ledger calls) (reached : memory.tables.Reachable)
    (salaries : ∀ u ∈ memory.tables.users, Amount.Fits u.salary) (inRange : event.InRange)
    (small : (event.apply memory).tables.lastId < 0x10000000000000000) :
    (event.apply memory).tables.Ledger (calls ++ event.audited memory) := by
  obtain ⟨same, none⟩ | ⟨user, added, none, -⟩ | ⟨command, answer, writes, audited, kind⟩ :=
    event.audited_cases memory
  · rwa [same, none, List.append_nil]
  · rw [added, none, List.append_nil]
    exact h.unaudited reached.numbered (.addUser _ user) rfl rfl rfl
  · rw [audited]
    exact h.write reached salaries (kind inRange) writes small

end Event

theorem Memory.play_ledger (events : List Event) {memory : Memory} {calls : List (Command × Nat)}
    (h : memory.tables.Ledger calls) (reached : memory.tables.Reachable)
    (salaries : ∀ u ∈ memory.tables.users, Amount.Fits u.salary)
    (inRange : ∀ event ∈ events, event.InRange)
    (small : (memory.play events).tables.lastId < 0x10000000000000000) :
    (memory.play events).tables.Ledger (calls ++ memory.audited events) := by
  -- the last id only grows, so every id on the way is as small as the final one
  induction events generalizing memory calls with
  | nil =>
      rw [audited, List.append_nil]
      exact h
  | cons event events ih =>
      have first := inRange event List.mem_cons_self
      have before := (play_extends events (event.apply memory)).lastId
      have ledger := Event.apply_ledger h reached salaries first (Nat.lt_of_le_of_lt before small)
      rw [audited, ← List.append_assoc]
      exact ih ledger (event.apply_reachable reached) (Event.apply_salaries first salaries)
        (fun event mem => inRange event (List.mem_cons_of_mem _ mem)) small

/-- In every history, with ids and amounts of 64 bits, the audit entries alone give back the
records. They are, one for one and in their order, the entries of the changes that were made, and
each row is told of by one of them. -/
theorem Memory.audit_gives_back_records (events : List Event)
    (inRange : ∀ event ∈ events, event.InRange)
    (small : (after events).tables.lastId < 0x10000000000000000) :
    let t := (after events).tables
    Tables.replay t.auditEntries = some t.records ∧
      List.Forall₂ (fun call e => e.Tells t call.1 call.2 ∧ e.Created call.1.actor?)
        (audited {} events) t.auditEntries ∧
      t.Listed ∧ ∀ p ∈ t.payslips, Tables.Listed.payslip t.auditEntries p := by
  intro t
  have ledger : t.Ledger ([] ++ audited {} events) :=
    play_ledger events .empty .empty (by simp) inRange small
  exact ⟨ledger.restored, ledger.told, (after_reachable events).listed, ledger.payslips⟩

theorem Memory.lastId_paidWeek : (after Event.paidWeek).tables.lastId = 10 := by
  rw [Event.paidWeek, after_snoc, Event.apply, Command.operation, run_runPayroll, tallies_week]
  rfl

theorem Memory.audit_gives_back_paidWeek :
    (Tables.replay (after Event.paidWeek).tables.auditEntries).map (·.payslips) =
      some [Payslip.ofWeek] := by
  have inRange : ∀ event ∈ Event.paidWeek, event.InRange := by
    simp [Event.paidWeek, Event.week, Event.InRange, Command.InRange, Actor.InRange, Amount.Fits]
  have small : (after Event.paidWeek).tables.lastId < 0x10000000000000000 := by
    rw [lastId_paidWeek]
    decide
  rw [(audit_gives_back_records Event.paidWeek inRange small).1, Option.map_some, Tables.records,
    payslips_paidWeek]

end Wagebook
