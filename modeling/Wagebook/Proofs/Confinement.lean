import Wagebook.Proofs.Authorship
import Wagebook.Proofs.Independence
import Wagebook.Proofs.Repeats

/-!
What a user is paid for, and what he is shown. His payslip is computed from his own row, the period
and what he has handed in for it, so two stores that agree on these pay him the same, whatever else
is in them. And he is shown his own payslips and nobody else's.
-/

namespace Wagebook

namespace Payslip

/-- A user with one draft gets one payslip. -/
theorem filter_user_storedFrom {drafts : List Draft} {draft : Draft}
    (users : (drafts.map (·.user)).Nodup) (mem : draft ∈ drafts) (id : Nat) :
    ∃ drawn, (storedFrom id drafts).filter (·.user = draft.user) = [draft.stored drawn] := by
  obtain ⟨p, there, stored⟩ := exists_stored id mem
  rw [← map_user_storedFrom drafts id] at users
  refine ⟨p.id, ?_⟩
  rw [← stored, ← filter_eq_singleton users there, stored]
  rfl

end Payslip

/-- The stores know the employee and the period, and have the same facts about them. The period may
have been opened at different times. -/
structure Tables.Agree (t t' : Tables) (u : User) (window window' : Period) : Prop where
  user : u ∈ t.users ∧ u ∈ t'.users
  employee : u.isAdmin = false
  period : window ∈ t.periods ∧ window' ∈ t'.periods
  id : window.id = window'.id
  first : window.first = window'.first
  last : window.last = window'.last
  facts : (t.facts u.id window.id).Amounts (t'.facts u.id window'.id)

namespace Memory

variable {memory paid : Memory} {window : Period} {u : User}

/-- A run adds one payslip for each employee. -/
theorem payslip_of_run (reached : memory.tables.Reachable) (mem : u ∈ memory.tables.users)
    (employee : u.isAdmin = false) (known : window ∈ memory.tables.periods)
    (ran : (runPayroll now window.id actor).run memory = (.ok n, paid)) :
    ∃ new draft id, paid.tables.payslips = memory.tables.payslips ++ new ∧
      Payslip.compute (memory.tables.tally window.id u) window.id window.workingDays now.toMicros =
        .ok draft ∧
      new.filter (·.user = u.id) = [draft.stored id] := by
  have writes := Command.writes_of_runPayroll ran
  generalize paid.tables = t at writes ⊢
  cases writes with
  | payroll found days computed free =>
      rename_i window' drafts
      obtain ⟨there, same⟩ := Tables.mem_of_period? found
      obtain rfl := reached.numbered.periods.eq_of_mem there known same
      obtain ⟨draft, drafted, of⟩ := Tables.exists_draft computed mem employee
      have users : (drafts.map (·.user)).Nodup :=
        Tables.users_of_computed computed ▸ Tables.nodup_tallies reached.numbered _
      obtain ⟨id, only⟩ := Payslip.filter_user_storedFrom users drafted memory.tables.nextId
      rw [show draft.user = u.id by rw [(Payslip.of_compute of).1]; rfl] at only
      exact ⟨_, draft, id, Tables.payslips_bookPayslips .., of, only⟩

/-- Two runs pay a user the same if he has the same row, period and facts in both stores. -/
theorem same_pay {memory' paid' : Memory} {window' : Period} (reached : memory.tables.Reachable)
    (reached' : memory'.tables.Reachable)
    (agree : memory.tables.Agree memory'.tables u window window')
    (ran : (runPayroll now window.id actor).run memory = (.ok n, paid))
    (ran' : (runPayroll now' window'.id actor').run memory' = (.ok n', paid')) :
    ∃ new new' p p', paid.tables.payslips = memory.tables.payslips ++ new ∧
      paid'.tables.payslips = memory'.tables.payslips ++ new' ∧
      new.filter (·.user = u.id) = [p] ∧ new'.filter (·.user = u.id) = [p'] ∧ p.SamePay p' := by
  obtain ⟨new, draft, id, stored, computed, only⟩ :=
    payslip_of_run reached agree.user.1 agree.employee agree.period.1 ran
  obtain ⟨new', draft', id', stored', computed', only'⟩ :=
    payslip_of_run reached' agree.user.2 agree.employee agree.period.2 ran'
  have days : window.workingDays = window'.workingDays := by
    rw [Period.workingDays, Period.workingDays, agree.first, agree.last]
  have tally : memory.tables.tally window.id u = memory'.tables.tally window'.id u := by
    rw [agree.id]
    exact Tables.tally_congr rfl rfl (agree.id ▸ agree.facts)
  have later : draft.at now'.toMicros = draft' := by
    rw [Payslip.compute_at _ _ _ now.toMicros, ← tally, ← days, ← agree.id, computed] at computed'
    exact Except.ok.inj computed'
  refine ⟨new, new', _, _, stored, stored', only, only', ?_⟩
  rw [← later]
  rfl

theorem run_getPayslips (user : Nat) (memory : Memory) :
    (getPayslips user).run memory = (.ok (memory.tables.payslipsOf user), memory) := by
  rw [run_operation]
  rfl

end Memory

/-- The payslips of a user, and no others. -/
theorem Tables.payslipsOf_perm (t : Tables) (user : Nat) :
    (t.payslipsOf user).Perm (t.payslips.filter (·.user = user)) :=
  List.mergeSort_perm _ _

namespace Http

/-- A caller is who his token claims, and nothing else is asked of him. -/
theorem Request.Bears.authenticate {request : Request} {now : Stamp} {secret : String}
    {claims : Claims} (h : request.Bears now secret claims) :
    Caller.authenticate now secret (request.header? "authorization") =
      Caller.ofClaims claims := by
  obtain ⟨token, header, verified⟩ := h
  have bearer : bearerToken (some ("Bearer " ++ token)) = .ok token := by
    have spelt : ("Bearer " ++ token).toList =
        'B' :: 'e' :: 'a' :: 'r' :: 'e' :: 'r' :: ' ' :: token.toList := by
      rw [String.toList_append]
      rfl
    simp only [bearerToken, spelt, String.ofList_toList]
  rw [Caller.authenticate, header, bearer]
  simp only [bind, Except.bind, verified]

namespace Service

theorem run_showPayslips (s : Service) (caller : Caller) (logged? : Option Nat)
    (shared : Shared Memory) :
    (s.showPayslips ⟨some caller, logged?⟩).run shared =
      if ¬ s.parts.store ∨ ¬ s.parts.config then (.error .partMissing, shared)
      else if caller.role ≠ .employee then (.error Fault.notEmployee.response, shared)
      else if shared.held.isSome then (.error (Fault.payroll .timeout).response, shared)
      else
        (.ok (.ok (.arr ((shared.store.tables.payslipsOf caller.user).map Payslip.toJson))),
          shared) := by
  obtain ⟨user, username, role⟩ := caller
  obtain ⟨store, held⟩ := shared
  unfold showPayslips
  cases s.parts.store with
  | false => rfl
  | true =>
      cases s.parts.config with
      | false => rfl
      | true =>
          cases role with
          | admin => rfl
          | employee => cases held <;> rfl

/-- Whether payslips can be shown to the bearer of a token. -/
def Shows (s : Service) (shared : Shared Memory) (claims : Claims) : Prop :=
  s.parts.store = true ∧ s.parts.config = true ∧ claims.role = Role.employee.id ∧
    shared.held = none

/-- The bearer of a token is shown the payslips of the user of the token, or nothing. -/
theorem serve_payslips {s : Service} {request : Request} {route : Route} {claims : Claims}
    (guarded : route.area = .guarded) (reads : request.method = "GET")
    (asks : route.endpoint = some .payslips)
    (bears : request.Bears s.occasion.now s.config.secret claims) (shared : Shared Memory) :
    let response := Serve.told ((s.serve request route).run shared).1
    s.Shows shared claims ∧
        response = .ok (.arr ((shared.store.tables.payslipsOf claims.user).map Payslip.toJson)) ∨
      ¬ s.Shows shared claims ∧ response.status ≠ 200 := by
  intro response
  have served : response = Serve.told ((s.authenticateFirst request
      (s.enter request route .notFound) {}).run shared).1 := by
    simp only [response, serve_eq, guarded, logFirst, if_pos reads]
  rw [served, run_authenticateFirst, bears.authenticate]
  by_cases config : s.parts.config = true
  case neg =>
    rw [if_pos config]
    exact .inr ⟨fun shows => config shows.2.1, (Fault.isRefusal _).1⟩
  rw [if_neg (not_not.mpr config)]
  cases known : Caller.ofClaims claims with
  | error fault =>
      refine .inr ⟨fun shows => ?_, fault.isRefusal.1⟩
      rw [Caller.ofClaims, shows.2.2.1] at known
      cases known
  | ok caller =>
      obtain ⟨user, role⟩ := Caller.ofClaims_ok known
      have entitled : claims.role = Role.employee.id ↔ caller.role = .employee := by
        rw [role]
        cases caller.role <;> decide
      simp only [enter, asks, answer, run_showPayslips, user]
      split
      · rename_i missing
        exact .inr ⟨fun shows => missing.elim (· shows.1) (· shows.2.1),
          show 500 ≠ 200 by decide⟩
      rename_i present
      obtain ⟨store, -⟩ := not_or.mp present
      split
      · rename_i other
        exact .inr ⟨fun shows => other (entitled.mp shows.2.2.1), (Fault.isRefusal _).1⟩
      rename_i employee
      split
      · rename_i held
        refine .inr ⟨fun shows => ?_, (Fault.isRefusal _).1⟩
        rw [shows.2.2.2] at held
        cases held
      · rename_i free
        exact .inl ⟨⟨not_not.mp store, config, entitled.mpr (not_not.mp employee),
          Option.not_isSome_iff_eq_none.mp free⟩, rfl⟩

end Service

namespace App

variable {app : App Memory} {occasion : Occasion} {request : Request} {route : Route}
  {claims : Claims}

/-- The request is let in, and what it asks for can be shown. -/
def Shows (app : App Memory) (occasion : Occasion) (request : Request) (claims : Claims) : Prop :=
  (∃ admitted, app.letIn occasion request .guarded = .ok admitted) ∧
    (app.service occasion).Shows app.shared claims

theorem handle_payslips (routed : app.route? request = some route)
    (asks : route.endpoint = some .payslips)
    (bears : request.Bears occasion.now app.config.secret claims) :
    let response := (app.handle occasion request).1
    app.Shows occasion request claims ∧
        response = .ok (.arr ((app.tables.payslipsOf claims.user).map Payslip.toJson)) ∨
      ¬ app.Shows occasion request claims ∧ response.status ≠ 200 := by
  obtain ⟨path, -, leads⟩ := Option.bind_eq_some_iff.mp routed
  obtain ⟨area, reads⟩ := Route.of_endpoint leads asks
  have guarded : route.area = .guarded := area.symm
  cases passed : app.letIn occasion request route.area with
  | error refusal =>
      simp only [handle_eq, routed, passed]
      refine .inr ⟨fun shows => ?_, letIn_error passed⟩
      obtain ⟨admitted, admits⟩ := shows.1
      cases (guarded ▸ passed).symm.trans admits
  | ok admitted =>
      obtain ⟨service, shared⟩ := letIn_ok passed
      simp only [handle_eq, routed, passed, serve_told, service, shared]
      have admits : ∃ admitted, app.letIn occasion request .guarded = .ok admitted :=
        ⟨admitted, guarded ▸ passed⟩
      exact (Service.serve_payslips (s := app.service occasion) guarded reads.symm asks bears
        app.shared).imp (.imp_left fun shows => ⟨admits, shows⟩)
        (.imp_left fun hides shows => hides shows.2)

end App

/-- A user's payslip is for what he has handed in himself: two histories that agree on his row, on a
period and on what he has handed in for it pay him the same, whatever else has happened in them. And
what he is shown are his own payslips only, whether he asks the store or the service. -/
theorem pay_is_own {events events' : List Event} {u : User} {window window' : Period}
    (agree : (Memory.after events).tables.Agree (Memory.after events').tables u window window') :
    (∀ now now' actor actor' n n' paid paid',
      (runPayroll now window.id actor).run (Memory.after events) = (.ok n, paid) →
      (runPayroll now' window'.id actor').run (Memory.after events') = (.ok n', paid') →
      ∃ new new' p p', paid.tables.payslips = (Memory.after events).tables.payslips ++ new ∧
        paid'.tables.payslips = (Memory.after events').tables.payslips ++ new' ∧
        new.filter (·.user = u.id) = [p] ∧ new'.filter (·.user = u.id) = [p'] ∧ p.SamePay p') ∧
    (∀ memory : Memory, ∃ rows, (getPayslips u.id).run memory = (.ok rows, memory) ∧
      rows.Perm (memory.tables.payslips.filter (·.user = u.id))) ∧
    ∀ (app : App Memory) occasion request route claims, app.route? request = some route →
      route.endpoint = some .payslips →
      request.Bears occasion.now app.config.secret claims → claims.user = u.id →
      let response := (app.handle occasion request).1
      app.Shows occasion request claims ∧ (∃ rows : List Payslip,
          response = .ok (.arr (rows.map Payslip.toJson)) ∧
          rows.Perm (app.tables.payslips.filter (·.user = u.id))) ∨
        ¬ app.Shows occasion request claims ∧ response.status ≠ 200 := by
  refine ⟨fun now now' actor actor' n n' paid paid' ran ran' =>
    Memory.same_pay (Memory.after_reachable events) (Memory.after_reachable events') agree ran
      ran', fun memory => ⟨_, Memory.run_getPayslips u.id memory, Tables.payslipsOf_perm _ _⟩, ?_⟩
  intro app occasion request route claims routed asks bears own response
  refine (App.handle_payslips routed asks bears).imp_left (.imp_right fun shown => ?_)
  exact ⟨_, shown, own ▸ Tables.payslipsOf_perm _ _⟩

end Http

/-- In one history Bob hands in as much as Ann. In the other one there is no Bob, the week is opened
later, and Ann hands in the same in another order. -/
def Event.bobsWeek : List Event :=
  sharedWeek ++ [Submission.monday 3, .monday 2, .taxi 3, .taxi 2].map
    fun s => .call (s.command .epoch)

def Event.annsWeek : List Event :=
  [.addUser .epoch "root" "" 0 true, .addUser .epoch "ann" "" 700 false,
    .addUser .payday "eve" "" 900 true,
    .call (.createPeriod .payday .monday .sunday ⟨3, 10⟩)] ++
  [Submission.taxi 2, .monday 2].map fun s => .call (s.command .payday)

namespace Memory

theorem tallies_bobsWeek : (after Event.bobsWeek).tables.tallies 4 =
    [⟨2, 700, 1, 0, 30⟩, ⟨3, 900, 1, 0, 30⟩] := by
  rw [Tables.tallies, List.mergeSort_of_pairwise (by decide +kernel)]
  decide +kernel

theorem tallies_annsWeek : (after Event.annsWeek).tables.tallies 4 = [⟨2, 700, 1, 0, 30⟩] := by
  rw [Tables.tallies, List.mergeSort_of_pairwise (by decide +kernel)]
  decide +kernel

end Memory

/-- Ann is paid the same in both. -/
theorem Http.pay_of_ann :
    let here := (runPayroll .payday 4 ⟨1, 13⟩).run (Memory.after Event.bobsWeek)
    let there := (runPayroll .epoch 4 ⟨3, 14⟩).run (Memory.after Event.annsWeek)
    here.1 = .ok 2 ∧ there.1 = .ok 1 ∧ ∃ p ∈ here.2.tables.payslips,
      ∃ p' ∈ there.2.tables.payslips, p.user = 2 ∧ p'.user = 2 ∧ p.SamePay p' := by
  intro here there
  have ran : here.1 = .ok 2 := by
    simp only [here, Memory.run_runPayroll, Memory.tallies_bobsWeek]
    decide +kernel
  have ran' : there.1 = .ok 1 := by
    simp only [there, Memory.run_runPayroll, Memory.tallies_annsWeek]
    decide +kernel
  let ann : User := ⟨2, "ann", "", "ann", 700, false, .epoch, .epoch⟩
  let week (opened : Stamp) : Period := ⟨4, .monday, .sunday, false, opened, opened⟩
  have agree : (Memory.after Event.bobsWeek).tables.Agree (Memory.after Event.annsWeek).tables ann
      (week .epoch) (week .payday) :=
    { user := by decide +kernel
      employee := rfl
      period := by decide +kernel
      id := rfl
      first := rfl
      last := rfl
      facts := ⟨by decide +kernel, by decide +kernel, by decide +kernel⟩ }
  obtain ⟨new, new', p, p', stored, stored', only, only', same⟩ :=
    (pay_is_own agree).1 .payday .epoch ⟨1, 13⟩ ⟨3, 14⟩ 2 1 here.2 there.2 (Prod.ext ran rfl)
      (Prod.ext ran' rfl)
  obtain ⟨mem, user⟩ := List.mem_filter.mp (only ▸ List.mem_singleton_self p)
  obtain ⟨mem', user'⟩ := List.mem_filter.mp (only' ▸ List.mem_singleton_self p')
  exact ⟨ran, ran', p, stored ▸ List.mem_append_right _ mem, p',
    stored' ▸ List.mem_append_right _ mem', of_decide_eq_true user, of_decide_eq_true user', same⟩

end Wagebook
