import Wagebook.Proofs.Authorship

/-!
What caused each audit entry. A request is logged before it changes anything, and its id goes with
its caller into the entry of the change. So in a session of requests, whatever fails in it, an audit
entry names the log entry of the one request that wrote it, and no other entry names the same.
-/

namespace Wagebook

def Record.id : Record → Nat
  | .period row => row.id
  | .attendance row => row.id
  | .overtime row => row.id
  | .reimbursement row => row.id
  | .payslip row => row.id

namespace AuditEntry

/-- How many records an entry holds, when it is about a whole run. -/
def batch (e : AuditEntry) : Nat :=
  match e.newData with
  | .arr records => records.length
  | _ => 0

/-- The entry is about the record. A run's payslips have the ids just below that of its entry. -/
def Books (e : AuditEntry) : Record → Prop
  | .payslip row => e.table = .payslips ∧ e.id - e.batch ≤ row.id ∧ row.id < e.id
  | record => e.table = record.table ∧ e.recordId = record.id

end AuditEntry

namespace Tables

/-- An actor's change is booked in one entry, with ids that were drawn for it. -/
structure Booked (t t' : Tables) (actor : Actor) (e : AuditEntry) : Prop where
  entries : t'.auditEntries = t.auditEntries ++ [e]
  requestEntries : t'.requestEntries = t.requestEntries
  request : e.request = some actor.request
  later : t.lastId < e.id
  rows : ∀ record, t'.Holds record → t.Holds record ∨ e.Books record
  fresh : ∀ record, e.Books record → t.lastId < record.id

theorem holds_snoc {rows : List α} {row new : α} {old booked : Prop} (mem : row ∈ rows ++ [new])
    (kept : row ∈ rows → old) (added : row = new → booked) : old ∨ booked :=
  (List.mem_append.mp mem).imp kept fun last => added (List.mem_singleton.mp last)

theorem Booked.of_writes {t t' : Tables} {command : Command} {actor : Actor} {n : Nat}
    (writes : Command.Writes t command n t') (acts : command.actor? = some actor) :
    ∃ e, t.Booked t' actor e := by
  have next : t.lastId < t.nextId := Nat.lt_succ_self _
  have single {e : AuditEntry} (table : e.table ≠ .payslips) (named : e.recordId = t.nextId) :
      ∀ record, e.Books record → t.lastId < record.id := by
    intro record books
    cases record with
    | payslip row => exact absurd books.1 table
    | _ => exact books.2 ▸ named ▸ next
  cases writes with
  | period =>
      cases acts
      refine ⟨_, rfl, rfl, rfl, Nat.lt_succ_of_lt next, fun record holds => ?_, single nofun rfl⟩
      cases record with
      | period row => exact holds_snoc holds id fun new => ⟨rfl, by rw [new]; rfl⟩
      | _ => exact .inl holds
  | attendance =>
      cases acts
      refine ⟨_, rfl, rfl, rfl, Nat.lt_succ_of_lt next, fun record holds => ?_, single nofun rfl⟩
      cases record with
      | attendance row => exact holds_snoc holds id fun new => ⟨rfl, by rw [new]; rfl⟩
      | _ => exact .inl holds
  | overtime =>
      cases acts
      refine ⟨_, rfl, rfl, rfl, Nat.lt_succ_of_lt next, fun record holds => ?_, single nofun rfl⟩
      cases record with
      | overtime row => exact holds_snoc holds id fun new => ⟨rfl, by rw [new]; rfl⟩
      | _ => exact .inl holds
  | reimbursement =>
      cases acts
      refine ⟨_, rfl, rfl, rfl, Nat.lt_succ_of_lt next, fun record holds => ?_, single nofun rfl⟩
      cases record with
      | reimbursement row => exact holds_snoc holds id fun new => ⟨rfl, by rw [new]; rfl⟩
      | _ => exact .inl holds
  | payroll =>
      cases acts
      rw [bookPayslips, addPayslips_eq]
      -- the payslips have drawn the ids right before that of the entry
      refine ⟨_, rfl, rfl, rfl, ?_, fun record holds => ?_, fun record books => ?_⟩
      · simp only [AuditEntry.Draft.stored, nextId]
        omega
      · cases record with
        | payslip row =>
            refine (List.mem_append.mp holds).imp id fun new => ?_
            obtain ⟨least, most, -⟩ := Payslip.mem_storedFrom new
            simp only [AuditEntry.Books, AuditEntry.batch, AuditEntry.Draft.stored,
              AuditEntry.created, List.length_map, nextId] at least most ⊢
            exact ⟨trivial, by omega, by omega⟩
        | _ => exact .inl holds
      · cases record with
        | payslip row =>
            have least := books.2.1
            simp only [AuditEntry.batch, AuditEntry.Draft.stored, AuditEntry.created,
              List.length_map, nextId] at least
            simp only [Record.id]
            omega
        | _ => cases books.1
  | request => cases acts

/-- The log entry is older than what is booked under it. -/
structure Older (r : RequestEntry) (e : AuditEntry) : Prop where
  entry : r.id < e.id
  rows : ∀ record, e.Books record → r.id < record.id

/-- What is in the tables can be traced to requests that have caused it. -/
structure Traced (t : Tables) (Caused : RequestEntry → AuditEntry → Prop) : Prop where
  entries : ∀ e ∈ t.auditEntries, ∃ r ∈ t.requestEntries, e.request = some r.id ∧ Caused r e ∧
    r.method = "POST" ∧ Older r e
  apart : (t.auditEntries.map (·.request)).Nodup
  records : ∀ record, t.Holds record → ∃ e ∈ t.auditEntries, e.Books record
  asked : ∀ r ∈ t.requestEntries, r.method ≠ "GET"

namespace Traced

variable {t t' : Tables} {Caused Caused' : RequestEntry → AuditEntry → Prop}

theorem fresh (entries : t.auditEntries = []) (recordless : ∀ record, ¬ t.Holds record)
    (requestEntries : t.requestEntries = []) : t.Traced Caused where
  entries := by simp [entries]
  apart := by simp [entries]
  records record holds := absurd holds (recordless record)
  asked := by simp [requestEntries]

theorem mono (h : t.Traced Caused) (le : ∀ r e, Caused r e → Caused' r e) : t.Traced Caused' :=
  { h with
    entries := fun e mem =>
      have ⟨r, logged, named, caused, rest⟩ := h.entries e mem
      ⟨r, logged, named, le r e caused, rest⟩ }

theorem addRequestEntry (h : t.Traced Caused) {draft : RequestEntry.Draft}
    (asks : draft.method ≠ "GET") : (t.addRequestEntry draft).Traced Caused where
  entries e mem :=
    have ⟨r, logged, rest⟩ := h.entries e mem
    ⟨r, List.mem_append_left _ logged, rest⟩
  apart := h.apart
  records record holds := h.records record (by cases record <;> exact holds)
  asked r mem := (List.mem_append.mp mem).elim (h.asked r)
    fun new => List.mem_singleton.mp new ▸ asks

/-- No change has been booked under an id that is yet to be drawn. -/
theorem request_ne (h : t.Traced Caused) (numbered : t.Numbered) :
    ∀ e ∈ t.auditEntries, e.request ≠ some t.nextId := by
  intro e mem drawn
  obtain ⟨r, logged, named, -⟩ := h.entries e mem
  have earlier : r.id ≤ t.lastId := numbered.requestEntries.le_of_mem logged
  rw [Option.some.inj (named.symm.trans drawn)] at earlier
  exact Nat.not_succ_le_self _ earlier

/-- A request is logged, and under its id a change is booked. -/
theorem book (h : t.Traced Caused) (numbered : t.Numbered) {draft : RequestEntry.Draft}
    (posted : draft.method = "POST") (under : actor.request = t.nextId)
    (booked : (t.addRequestEntry draft).Booked t' actor e)
    (caused : Caused (draft.stored t.nextId) e) : t'.Traced Caused := by
  have logged : (t.addRequestEntry draft).Traced Caused :=
    h.addRequestEntry (by rw [posted]; decide)
  have named : e.request = some t.nextId := under ▸ booked.request
  constructor
  · rw [booked.entries, booked.requestEntries]
    intro x mem
    obtain old | new := List.mem_append.mp mem
    · exact logged.entries x old
    · obtain rfl := List.mem_singleton.mp new
      exact ⟨draft.stored t.nextId, List.mem_append_right _ List.mem_cons_self, named, caused,
        posted, booked.later, booked.fresh⟩
  · rw [booked.entries, List.map_append, List.map_singleton, ← List.concat_eq_append,
      List.nodup_concat]
    refine ⟨fun mem => ?_, h.apart⟩
    obtain ⟨x, there, same⟩ := List.mem_map.mp mem
    exact h.request_ne numbered x there (same.trans named)
  · rw [booked.entries]
    intro record holds
    obtain old | new := booked.rows record holds
    · obtain ⟨x, there, books⟩ := logged.records record old
      exact ⟨x, List.mem_append_left _ there, books⟩
    · exact ⟨e, List.mem_append_right _ List.mem_cons_self, new⟩
  · rw [booked.requestEntries]
    exact logged.asked

end Traced
end Tables

namespace Http

open Relation (ReflTransGen)

/-- What happens to a service. -/
inductive Happening
  | request (occasion : Occasion) (request : Request)
  /-- From now on faults are played, or others than before. -/
  | switch (switches : Switches)
  /-- Somebody takes the store for a unit of work. -/
  | hold
  /-- The unit of work is given up. -/
  | release

namespace App

/-- The service after something has happened. -/
def next (app : App Memory) : Happening → App Memory
  | .request occasion request => (app.handle occasion request).2
  | .switch switches => { app with shared := (app.shared.visit (.switch switches)).2 }
  | .hold => { app with shared := (app.shared.visit .begin).2 }
  | .release => { app with shared := (app.shared.visit .rollback).2 }

def through (app : App Memory) (session : List Happening) : App Memory :=
  session.foldl next app

variable {start : App Memory} {session : List Happening}

theorem through_snoc (app : App Memory) (session : List Happening) (happening : Happening) :
    app.through (session ++ [happening]) = (app.through session).next happening := by
  simp [through]

/-- A request leaves the tables as they are, or its log entry, or also what a command has written
under the id of that entry. -/
theorem handle_logged (app : App Memory) (occasion : Occasion) (request : Request) :
    let t := app.tables
    let t' := (app.handle occasion request).2.tables
    t' = t ∨
      (request.method ≠ "GET" ∧ t' = t.addRequestEntry (request.entry occasion.now)) ∨
      (request.method = "POST" ∧ ∃ command actor n, command.actor? = some actor ∧
        actor.request = t.nextId ∧
        Command.Writes (t.addRequestEntry (request.entry occasion.now)) command n t') := by
  intro t t'
  obtain ⟨-, answered⟩ | ⟨route, refusal, -, -, answered⟩ | ⟨route, admitted, routed, -, effect⟩ :=
    app.handle_cases occasion request
  · exact .inl (by simp only [t, t', answered])
  · exact .inl (by simp only [t, t', answered])
  · simp only [t', tables]
    generalize (app.handle occasion request).1 = response,
      (app.handle occasion request).2.shared = shared' at effect
    cases effect with
    | looked => exact .inl rfl
    | unlogged => exact .inl rfl
    | stopped inside asks => exact .inr (.inl ⟨asks, rfl⟩)
    | wrote area asks logs led authentic role command made actor writes =>
        obtain ⟨path, -, found⟩ := Option.bind_eq_some_iff.mp routed
        have method := (Route.of_endpoint found led).2
        rw [Endpoint.method_of_command made] at method
        exact .inr (.inr ⟨method.symm, command, _, _, actor, rfl, writes⟩)

/-- Only requests change the tables. -/
theorem next_cases (app : App Memory) (happening : Happening) :
    (∃ occasion request, happening = .request occasion request) ∨
      (app.next happening).tables = app.tables := by
  obtain ⟨config, parts, ⟨store, held⟩, logins, guarded⟩ := app
  cases happening with
  | request occasion request => exact .inl ⟨occasion, request, rfl⟩
  | switch switches => exact .inr rfl
  | hold => cases held <;> exact .inr rfl
  | release => cases held <;> exact .inr rfl

theorem next_written (app : App Memory) (happening : Happening) :
    ReflTransGen Tables.Written app.tables (app.next happening).tables := by
  obtain ⟨occasion, request, rfl⟩ | same := app.next_cases happening
  · exact handle_written occasion request
  · rw [same]

theorem through_written (app : App Memory) (session : List Happening) :
    ReflTransGen Tables.Written app.tables (app.through session).tables := by
  induction session generalizing app with
  | nil => exact .refl
  | cons happening session ih => exact (app.next_written happening).trans (ih _)

/-- A request of the session was logged as `r`, and what it has written is booked as `e`. -/
def Caused (start : App Memory) (session : List Happening) (r : RequestEntry) (e : AuditEntry) :
    Prop :=
  ∃ past occasion request later, session = past ++ .request occasion request :: later ∧
    let t := (start.through past).tables
    let t' := (start.through (past ++ [.request occasion request])).tables
    r = (request.entry occasion.now).stored t.nextId ∧
      t'.requestEntries = t.requestEntries ++ [r] ∧ t'.auditEntries = t.auditEntries ++ [e] ∧
      ∀ record, t'.Holds record → t.Holds record ∨ e.Books record

theorem Caused.snoc (h : Caused start session r e) (happening : Happening) :
    Caused start (session ++ [happening]) r e := by
  obtain ⟨past, occasion, request, later, rfl, caused⟩ := h
  exact ⟨past, occasion, request, later ++ [happening], by simp, caused⟩

theorem through_reachable (app : App Memory) (users : List User) (session : List Happening) :
    ((app.seeded users).through session).tables.Reachable :=
  .of_written (t := (app.seeded users).tables) (.addUsers .empty users) (through_written _ session)

theorem traced (app : App Memory) (users : List User) (session : List Happening) :
    ((app.seeded users).through session).tables.Traced (Caused (app.seeded users) session) := by
  induction session using List.reverseRecOn with
  | nil =>
      obtain ⟨recordless, entryless⟩ := app.seeded_fresh users
      obtain ⟨all, last, seeded⟩ := Tables.foldl_addUser users {}
      exact .fresh entryless recordless (congrArg Tables.requestEntries seeded)
  | append_singleton session happening ih =>
      have kept := ih.mono fun r e caused => caused.snoc happening
      obtain ⟨occasion, request, rfl⟩ | same :=
        ((app.seeded users).through session).next_cases happening
      · have last := through_snoc (app.seeded users) session (.request occasion request)
        obtain same | ⟨asks, logged⟩ | ⟨posted, command, actor, n, acts, under, writes⟩ :=
          ((app.seeded users).through session).handle_logged occasion request
        · rw [last, next, same]
          exact kept
        · rw [last, next, logged]
          exact kept.addRequestEntry asks
        · obtain ⟨e, booked⟩ := Tables.Booked.of_writes writes acts
          rw [last, next]
          refine kept.book (app.through_reachable users session).numbered posted under booked
            ⟨session, occasion, request, [], rfl, rfl, ?_⟩
          rw [last, next]
          exact ⟨booked.requestEntries, booked.entries, booked.rows⟩
      · rw [through_snoc, same]
        exact kept

/-- Whatever happens in a session, each audit entry names the log entry of the one request that has
made the change, and no other entry names the same. It was a POST request, logged before the change
was made, and the entry has all that it has written. Requests that only read are not logged. -/
theorem entries_name_their_requests (app : App Memory) (users : List User)
    (session : List Happening) :
    let start := app.seeded users
    let t := (start.through session).tables
    (∀ e ∈ t.auditEntries, ∃ r,
      t.requestEntries.filter (fun other => e.request = some other.id) = [r] ∧
        Caused start session r e ∧ r.method = "POST" ∧ r.id < e.id ∧
        ∀ record, e.Books record → r.id < record.id) ∧
    (∀ record, t.Holds record → ∃ e ∈ t.auditEntries, e.Books record) ∧
    (t.auditEntries.map (·.request)).Nodup ∧ ∀ r ∈ t.requestEntries, r.method ≠ "GET" := by
  intro start t
  have traced := app.traced users session
  have numbered := (app.through_reachable users session).numbered
  refine ⟨fun e mem => ?_, traced.records, traced.apart, traced.asked⟩
  obtain ⟨r, logged, named, caused, posted, older⟩ := traced.entries e mem
  refine ⟨r, ?_, caused, posted, older.entry, older.rows⟩
  simp only [named, Option.some.injEq, eq_comm (a := r.id)]
  exact filter_eq_singleton (numbered.requestEntries.1.imp Nat.ne_of_lt) logged

end App
end Http
end Wagebook
