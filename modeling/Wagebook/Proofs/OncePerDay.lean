import Wagebook.Proofs.Repeats

/-!
A day is claimed once, for ever. The rows of a user, a period and a day come one for one from the
calls that succeeded, and no two rows share all three. So the first success is the last, and later
calls find its row, by a lookup or by the unique key.
-/

namespace Wagebook

namespace Command

/-- The user, the period and the day that an attendance is for. -/
def attends? : Command → Option (Nat × Nat × Date)
  | .submitAttendance _ actor period date => some (actor.user, period, date)
  | _ => none

/-- The user, the period and the day that overtime is for. -/
def worksOvertime? : Command → Option (Nat × Nat × Date)
  | .submitOvertime _ actor period date _ => some (actor.user, period, date)
  | _ => none

theorem actor?_of_attends? {command : Command} (h : command.attends? = some day) :
    command.actor?.isSome = true := by
  cases command with
  | submitAttendance => rfl
  | _ => cases h

theorem actor?_of_worksOvertime? {command : Command} (h : command.worksOvertime? = some day) :
    command.actor?.isSome = true := by
  cases command with
  | submitOvertime => rfl
  | _ => cases h

end Command

/-- What the commands of an event answer that succeed and are of the kind that is asked for. -/
def Event.granted [DecidableEq κ] (event : Event) (memory : Memory) (kind : Command → Option κ)
    (k : κ) : List Nat :=
  ((event.audited memory).filter (kind ·.1 = some k)).map (·.2)

def Memory.granted [DecidableEq κ] (memory : Memory) (kind : Command → Option κ) (k : κ) :
    List Event → List Nat
  | [] => []
  | event :: events => event.granted memory kind k ++ (event.apply memory).granted kind k events

/-- At most one row has a key that no two rows share. -/
theorem length_filter_key_le_one [DecidableEq β] {rows : List α} {key : α → β}
    (nodup : (rows.map key).Nodup) (k : β) : (rows.filter (key · = k)).length ≤ 1 := by
  have once := List.nodup_iff_count_le_one.mp nodup k
  rw [List.count, List.countP_map, List.countP_eq_length_filter] at once
  simpa [Function.comp_def, beq_eq_decide] using once

/-- A new row shows among the ids of its own key only. -/
theorem ids_filter_key_snoc [DecidableEq β] (rows : List α) (row : α) (key : α → β)
    (id : α → Nat) (k : β) :
    ((rows ++ [row]).filter (key · = k)).map id =
      (rows.filter (key · = k)).map id ++ if key row = k then [id row] else [] := by
  rw [List.filter_append, List.map_append]
  by_cases same : key row = k <;> simp [same]

namespace Tables

variable {t t' : Tables} {day : Nat × Nat × Date}

/-- The rows of a day are those that the calls for it have answered. -/
structure Claims (t : Tables) (day : Nat × Nat × Date) (attended overtime : List Nat) : Prop where
  attendances : (t.attendances.filter (·.key = day)).map (·.id) = attended
  overtimes : (t.overtimes.filter (·.key = day)).map (·.id) = overtime

namespace Claims

variable {attended overtime : List Nat}

theorem empty (day : Nat × Nat × Date) : Claims {} day [] [] := ⟨rfl, rfl⟩

theorem grow (h : t.Claims day attended overtime) (attendances : t'.attendances = t.attendances)
    (overtimes : t'.overtimes = t.overtimes) : t'.Claims day attended overtime where
  attendances := by rw [attendances, h.attendances]
  overtimes := by rw [overtimes, h.overtimes]

theorem bookAttendance (h : t.Claims day attended overtime) (draft : Attendance.Draft)
    (actor : Actor) : (t.bookAttendance draft actor).Claims day
      (attended ++ if (draft.user, draft.period, draft.date) = day then [t.nextId] else [])
      overtime where
  attendances := by
    rw [← h.attendances]
    exact ids_filter_key_snoc t.attendances (draft.stored t.nextId) Attendance.key (·.id) day
  overtimes := h.overtimes

theorem bookOvertime (h : t.Claims day attended overtime) (draft : Overtime.Draft)
    (actor : Actor) : (t.bookOvertime draft actor).Claims day attended
      (overtime ++ if (draft.user, draft.period, draft.date) = day then [t.nextId] else []) where
  attendances := h.attendances
  overtimes := by
    rw [← h.overtimes]
    exact ids_filter_key_snoc t.overtimes (draft.stored t.nextId) Overtime.key (·.id) day

theorem write (h : t.Claims day attended overtime) (writes : Command.Writes t command n t') :
    t'.Claims day (attended ++ if command.attends? = some day then [n] else [])
      (overtime ++ if command.worksOvertime? = some day then [n] else []) := by
  cases writes with
  | attendance known inside free =>
      simpa [Command.attends?, Command.worksOvertime?] using h.bookAttendance _ _
  | overtime attended known least most free =>
      simpa [Command.attends?, Command.worksOvertime?] using h.bookOvertime _ _
  | payroll known days computed free =>
      simp only [Command.attends?, Command.worksOvertime?, reduceCtorEq, if_false,
        List.append_nil, bookPayslips, addPayslips_eq]
      exact h.grow rfl rfl
  | period | reimbursement | request =>
      simp only [Command.attends?, Command.worksOvertime?, reduceCtorEq, if_false,
        List.append_nil]
      exact h.grow rfl rfl

/-- No two rows share a user, a period and a day. -/
theorem once (h : t.Claims day attended overtime) (lawful : t.Lawful) :
    attended.length ≤ 1 ∧ overtime.length ≤ 1 := by
  rw [← h.attendances, ← h.overtimes, List.length_map, List.length_map]
  exact ⟨length_filter_key_le_one lawful.attendanceKeys day,
    length_filter_key_le_one lawful.overtimeKeys day⟩

end Claims
end Tables

theorem Event.granted_of_none [DecidableEq κ] {event : Event} {memory : Memory}
    (none : event.audited memory = []) (kind : Command → Option κ) (k : κ) :
    event.granted memory kind k = [] := by
  rw [granted, none, List.filter_nil, List.map_nil]

theorem Event.granted_of_audited [DecidableEq κ] {event : Event} {memory : Memory}
    {command : Command} {answer : Nat}
    (audited : event.audited memory = if command.actor?.isSome then [(command, answer)] else [])
    {kind : Command → Option κ} {k : κ}
    (asked : kind command = some k → command.actor?.isSome = true) :
    event.granted memory kind k = if kind command = some k then [answer] else [] := by
  rw [granted, audited]
  by_cases same : kind command = some k
  · simp [same, asked same]
  · split <;> simp [same]

/-- What an event adds to the answers for a day. -/
theorem Event.apply_claims (event : Event) {memory : Memory} {attended overtime : List Nat}
    (h : memory.tables.Claims day attended overtime) :
    (event.apply memory).tables.Claims day
      (attended ++ event.granted memory Command.attends? day)
      (overtime ++ event.granted memory Command.worksOvertime? day) := by
  obtain ⟨same, none⟩ | ⟨user, added, none, -⟩ | ⟨command, answer, writes, audited, -⟩ :=
    event.audited_cases memory
  · rw [same, granted_of_none none, granted_of_none none, List.append_nil, List.append_nil]
    exact h
  · rw [added, granted_of_none none, granted_of_none none, List.append_nil, List.append_nil]
    exact h.grow rfl rfl
  · rw [granted_of_audited audited Command.actor?_of_attends?,
      granted_of_audited audited Command.actor?_of_worksOvertime?]
    exact h.write writes

namespace Memory

variable {memory : Memory} {day : Nat × Nat × Date}

theorem play_claims (events : List Event) {attended overtime : List Nat}
    (h : memory.tables.Claims day attended overtime) :
    (memory.play events).tables.Claims day
      (attended ++ memory.granted Command.attends? day events)
      (overtime ++ memory.granted Command.worksOvertime? day events) := by
  induction events generalizing memory attended overtime with
  | nil =>
      rw [granted, granted, List.append_nil, List.append_nil]
      exact h
  | cons event events ih =>
      rw [granted, granted, ← List.append_assoc, ← List.append_assoc]
      exact ih (event.apply_claims h)

theorem after_claims (events : List Event) (day : Nat × Nat × Date) :
    (after events).tables.Claims day (granted {} Command.attends? day events)
      (granted {} Command.worksOvertime? day events) :=
  play_claims events (show ({} : Memory).tables.Claims day [] [] from .empty day)

/-- An attendance that succeeds is stored under the id that it answers. -/
theorem attendance_stored {claimed : Memory} (reached : memory.tables.Reachable)
    (h : (submitAttendance now actor period date).run memory = (.ok n, claimed)) :
    claimed.tables.Reachable ∧
      Attendance.Draft.stored ⟨actor.user, period, date, now.toMicros⟩ n ∈
        claimed.tables.attendances := by
  have h : (Command.operation (.submitAttendance now actor period date)).run memory =
      (.ok n, claimed) := h
  obtain ⟨t, rfl, writes⟩ := Command.writes_of_run h
  refine ⟨reached.write writes, ?_⟩
  cases writes with
  | attendance known inside free => exact List.mem_append_right _ (List.mem_singleton_self _)

/-- Overtime that succeeds is stored under the id that it answers, and has found its attendance. -/
theorem overtime_stored {claimed : Memory} (reached : memory.tables.Reachable)
    (h : (submitOvertime now actor period date hours).run memory = (.ok n, claimed)) :
    claimed.tables.Reachable ∧
      Overtime.Draft.stored ⟨actor.user, period, date, hours, now.toMicros⟩ n ∈
        claimed.tables.overtimes ∧
      ∃ a ∈ memory.tables.attendances, a.key = (actor.user, period, date) := by
  have h : (Command.operation (.submitOvertime now actor period date hours)).run memory =
      (.ok n, claimed) := h
  obtain ⟨t, rfl, writes⟩ := Command.writes_of_run h
  refine ⟨reached.write writes, ?_⟩
  cases writes with
  | overtime attended known least most free =>
      obtain ⟨mem, user, period, date⟩ := Tables.mem_of_attendance? attended
      refine ⟨List.mem_append_right _ (List.mem_singleton_self _), _, mem, ?_⟩
      rw [Attendance.key, user, period, date]

/-- A stored attendance has passed the checks that come before the unique key, so a repeated one
is told of it even if the lookup misses it. -/
theorem attendance_repeated (reached : memory.tables.Reachable) {a : Attendance}
    (stored : a ∈ memory.tables.attendances) (now : Stamp) {actor : Actor}
    (same : actor.user = a.user) :
    (submitAttendance now actor a.period a.date).run memory =
      (.error (.alreadyExists "attendance"), memory) := by
  obtain ⟨window, known, inside⟩ := reached.lawful.attendance_window reached.numbered stored
  have taken : (memory.tables.attendance? a.user a.period a.date).isSome :=
    List.find?_isSome.mpr ⟨a, stored, by simp⟩
  rw [run_submitAttendance, known, same]
  simp [inside, taken]

/-- Overtime that the lookups show is refused before its hours are looked at. -/
theorem overtime_repeated (reached : memory.tables.Reachable) {o : Overtime}
    (stored : o ∈ memory.tables.overtimes)
    (seen : .attendances ∉ memory.switches.hidden ∧ .overtimes ∉ memory.switches.hidden)
    (now : Stamp) {actor : Actor} (same : actor.user = o.user) (hours : Int) :
    (submitOvertime now actor o.period o.date hours).run memory =
      (.error (.alreadyExists "overtime"), memory) := by
  obtain ⟨a, attended, key, -⟩ := reached.lawful.overtimeAttended o stored
  simp only [Attendance.key, Overtime.key, Prod.mk.injEq] at key
  have present : (memory.tables.attendance? o.user o.period o.date).isSome :=
    List.find?_isSome.mpr ⟨a, attended, by simp [key]⟩
  have taken : (memory.tables.overtime? o.user o.period o.date).isSome :=
    List.find?_isSome.mpr ⟨o, stored, by simp⟩
  rw [run_submitOvertime, same, seenAttendance?, seenOvertime?]
  simp [seen, taken, Option.isSome_iff_ne_none.mp present]

/-- Of the attendances for a day at most one succeeds, and all later ones are told of it, whatever
is hidden or fails. The same goes for overtime as long as lookups show it, and its attendance has
been accepted before. -/
theorem day_is_claimed_once (user period : Nat) (date : Date) :
    let day := (user, period, date)
    (∀ events, (granted {} Command.attends? day events).length ≤ 1 ∧
      (granted {} Command.worksOvertime? day events).length ≤ 1) ∧
    (∀ before now actor n claimed, actor.user = user →
      (submitAttendance now actor period date).run (after before) = (.ok n, claimed) →
      ∀ between later next, next.user = user →
        let store := claimed.play between
        (submitAttendance later next period date).run store =
          (.error (.alreadyExists "attendance"), store)) ∧
    ∀ before now actor hours n claimed, actor.user = user →
      (submitOvertime now actor period date hours).run (after before) = (.ok n, claimed) →
      (∃ id, granted {} Command.attends? day before = [id]) ∧
      ∀ between later next others, next.user = user →
        let store := claimed.play between
        .attendances ∉ store.switches.hidden ∧ .overtimes ∉ store.switches.hidden →
        (submitOvertime later next period date others).run store =
          (.error (.alreadyExists "overtime"), store) := by
  intro day
  have once (events : List Event) := (after_claims events day).once (after_reachable events).lawful
  refine ⟨once, ?_, ?_⟩
  · intro before now actor n claimed own first between later next same store
    obtain ⟨reached, stored⟩ := attendance_stored (after_reachable before) first
    have kept := (play_extends between claimed).attendances.mem stored
    exact attendance_repeated (play_reachable between reached) kept later (same.trans own.symm)
  · intro before now actor hours n claimed own first
    obtain ⟨reached, stored, a, attended, key⟩ := overtime_stored (after_reachable before) first
    refine ⟨?_, ?_⟩
    · rw [← List.length_eq_one_iff]
      have some : 0 < (granted {} Command.attends? day before).length := by
        rw [← (after_claims before day).attendances, List.length_map, List.length_filter_pos_iff]
        exact ⟨a, attended, by simp [key, own, day]⟩
      exact Nat.le_antisymm (once before).1 some
    · intro between later next others same store seen
      have kept := (play_extends between claimed).overtimes.mem stored
      exact overtime_repeated (play_reachable between reached) kept seen later
        (same.trans own.symm) others

end Memory

/-- One of Ann's days gets long. -/
def Event.longDay (day : Date) : List Event :=
  week ++ [.call (.submitOvertime .payday ⟨2, 13⟩ 3 day 2)]

/-- Once her week is paid, she can hand in neither again, even if the ledger is down and, for the
attendance, nothing is found. -/
theorem Memory.longMonday_is_claimed_once :
    let monday : Date := ⟨2024, 1, 1, by decide⟩
    let pay := Event.call (.runPayroll .payday 3 ⟨1, 14⟩)
    let blind := (after (Event.longDay monday)).play
      [pay, .switch { hidden := [.attendances], auditFails := true }]
    let sighted := (after (Event.longDay monday)).play [pay, .switch { auditFails := true }]
    (submitAttendance .payday ⟨2, 15⟩ 3 monday).run blind =
      (.error (.alreadyExists "attendance"), blind) ∧
    (submitOvertime .payday ⟨2, 16⟩ 3 monday 9).run sighted =
      (.error (.alreadyExists "overtime"), sighted) := by
  intro monday pay blind sighted
  obtain ⟨-, attendance, overtime⟩ := day_is_claimed_once 2 3 monday
  have first : (submitAttendance (.midnight monday) ⟨2, 11⟩ 3 monday).run
      (after (Event.week.take 3)) = (.ok 5, after (Event.week.take 4)) := by
    rw [run_submitAttendance]
    rfl
  have second : (submitOvertime .payday ⟨2, 13⟩ 3 monday 2).run (after Event.week) =
      (.ok 9, after (Event.longDay monday)) := by
    rw [run_submitOvertime]
    rfl
  constructor
  · have later : blind = (after (Event.week.take 4)).play (Event.week.drop 4 ++
        [.call (.submitOvertime .payday ⟨2, 13⟩ 3 monday 2), pay,
          .switch { hidden := [.attendances], auditFails := true }]) := by
      simp only [blind, after, play, ← List.foldl_append]
      rfl
    rw [later]
    exact attendance _ _ _ _ _ rfl first _ .payday ⟨2, 15⟩ rfl
  · exact (overtime _ _ _ _ _ _ rfl second).2 [pay, .switch { auditFails := true }]
      .payday ⟨2, 16⟩ 9 rfl ⟨List.not_mem_nil, List.not_mem_nil⟩

end Wagebook
