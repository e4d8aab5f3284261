import Wagebook.Proofs.Serving

/-!
What a request may change. On its way it can be stopped by the limiter, by the request log, by the
check of its token and by its endpoint, and each of them leaves behind what has been committed
before. So a request that may change something leaves its log entry, and a success of an endpoint
that changes something leaves what its command writes as well.
-/

namespace Wagebook.Http

/-- The log entry of a request. -/
def Request.entry (request : Request) (now : Stamp) : RequestEntry.Draft :=
  ⟨request.target.text, request.method, request.client, now.toMicros⟩

/-- The store once a request has been logged. -/
def logEntry (shared : Shared Memory) (entry : RequestEntry.Draft) : Shared Memory :=
  { shared with
    store := { shared.store with tables := shared.store.tables.addRequestEntry entry } }

theorem user?_logEntry (shared : Shared Memory) (entry : RequestEntry.Draft) (name : String) :
    (logEntry shared entry).store.tables.user? name = shared.store.tables.user? name := rfl

namespace Route

variable {path : SharedPath} {method : String} {parts : List String} {route : Route}
  {endpoint : Endpoint}

theorem of_adminEndpoint (leads : adminEndpoint path method parts = some endpoint) :
    endpoint.area = .guarded ∧ endpoint.method = method := by
  unfold adminEndpoint at leads
  split at leads
  all_goals try split at leads
  all_goals cases leads
  all_goals exact ⟨rfl, Eq.symm ‹_›⟩

theorem of_employeeEndpoint (leads : employeeEndpoint method parts = some endpoint) :
    endpoint.area = .guarded ∧ endpoint.method = method := by
  unfold employeeEndpoint at leads
  split at leads
  all_goals try split at leads
  all_goals cases leads
  all_goals exact ⟨rfl, Eq.symm ‹_›⟩

/-- An endpoint is reached in its area and by its method only. -/
theorem of_below (below : below? path method parts = some route)
    (leads : route.endpoint = some endpoint) :
    endpoint.area = route.area ∧ endpoint.method = method := by
  unfold below? at below
  split at below <;> cases below
  · simp only at leads
    split at leads <;> cases leads
    exact ⟨rfl, Eq.symm ‹_›⟩
  · simp only at leads
    split at leads <;> cases leads
    exact ⟨rfl, Eq.symm ‹_›⟩
  · exact of_adminEndpoint leads
  · exact of_employeeEndpoint leads

theorem of_endpoint {target : List Char} (routed : of? path method target = some route)
    (leads : route.endpoint = some endpoint) :
    endpoint.area = route.area ∧ endpoint.method = method := by
  simp only [of?, Option.bind_eq_bind, Option.bind_eq_some_iff] at routed
  obtain ⟨rest, -, below⟩ := routed
  split at below
  · exact of_below below leads
  · cases below

end Route

theorem run_recordRequest (shared : Shared Memory) (request : Request) (limitMs : Nat)
    (now : Stamp) :
    shared.run limitMs
        (recordRequest now request.target.text request.method request.client) =
      if shared.held.isSome then (.error .timeout, shared)
      else if shared.store.switches.requestLogFails then
        (.error (.store (.unavailable "request log offline")), shared)
      else (.ok shared.store.tables.nextId, logEntry shared (request.entry now)) := by
  obtain ⟨store, held⟩ := shared
  cases held with
  | some copy => exact Shared.run_of_held rfl rfl limitMs
  | none =>
      rw [Shared.run_of_free rfl, Memory.run_recordRequest]
      simp only [Option.isSome_none]
      split <;> rfl

namespace Service

variable (s : Service) (request : Request)

theorem run_logFirst (asks : request.method ≠ "GET") (shared : Shared Memory)
    (next : Context → Serve Memory Response) :
    (s.logFirst request next {}).run shared =
      if ¬ s.parts.store ∨ ¬ s.parts.config then (.error Fault.internal.response, shared)
      else
        match shared.run s.config.timeoutMs (recordRequest s.occasion.now request.target.text
          request.method request.client) with
        | (.error cause, shared) => (.error (Fault.payroll cause).response, shared)
        | (.ok id, shared) => (next { logged? := some id }).run shared := by
  rw [logFirst, if_neg asks]
  split
  · rfl
  · rw [Serve.run_bind, Serve.run_perform]
    generalize shared.run s.config.timeoutMs (recordRequest s.occasion.now request.target.text
      request.method request.client) = outcome
    rcases outcome with ⟨cause | id, shared⟩ <;> rfl

/-- Whether requests can be logged. -/
def Logs (shared : Shared Memory) : Prop :=
  s.parts.store = true ∧ s.parts.config = true ∧ shared.held = none ∧
    shared.store.switches.requestLogFails = false

/-- A request that can be logged goes on under the id of its log entry. -/
theorem logFirst_of_logs (asks : request.method ≠ "GET") {shared : Shared Memory}
    (logs : s.Logs shared) (next : Context → Serve Memory Response) :
    (s.logFirst request next {}).run shared =
      (next { logged? := some shared.store.tables.nextId }).run
        (logEntry shared (request.entry s.occasion.now)) := by
  obtain ⟨store, config, free, works⟩ := logs
  rw [run_logFirst s request asks, run_recordRequest, store, config, free, works]
  rfl

/-- One that cannot is refused whatever would have come next, and whatever the tables hold. -/
theorem logFirst_refuses (asks : request.method ≠ "GET") {shared : Shared Memory}
    (unlogged : ¬ s.Logs shared) :
    ∃ refusal : Response, refusal.IsRefusal ∧ ∀ tables next,
      let shared := { shared with store := { shared.store with tables } }
      (s.logFirst request next {}).run shared = (.error refusal, shared) := by
  simp only [run_logFirst s request asks, run_recordRequest]
  by_cases missing : ¬ s.parts.store ∨ ¬ s.parts.config
  · exact ⟨_, Fault.isRefusal .internal, fun tables next => if_pos missing⟩
  simp only [if_neg missing]
  by_cases held : shared.held.isSome
  · exact ⟨_, Fault.isRefusal (.payroll .timeout), fun tables next => by rw [if_pos held]⟩
  simp only [if_neg held]
  by_cases fails : shared.store.switches.requestLogFails
  · exact ⟨_, Fault.isRefusal _, fun tables next => by rw [if_pos fails]⟩
  · exact absurd ⟨by_contra fun store => missing (.inl store),
      by_contra fun config => missing (.inr config), Option.not_isSome_iff_eq_none.mp held,
      Bool.eq_false_iff.mpr fails⟩ unlogged

theorem run_authenticateFirst (context : Context) (next : Context → Serve Memory Response)
    (shared : Shared Memory) :
    (s.authenticateFirst request next context).run shared =
      if ¬ s.parts.config then (.error Fault.internal.response, shared)
      else
        match Caller.authenticate s.occasion.now s.config.secret (request.header? "authorization")
          with
        | .error fault => (.error fault.response, shared)
        | .ok caller => (next { context with caller? := some caller }).run shared := by
  unfold authenticateFirst
  split
  · rfl
  · cases Caller.authenticate s.occasion.now s.config.secret (request.header? "authorization") <;>
      rfl

theorem ping_idle (shared : Shared Memory) :
    (Serve.told (s.ping.run shared).1).status ≠ 429 ∧ (s.ping.run shared).2 = shared := by
  unfold ping
  cases s.parts.store with
  | false => exact ⟨show 500 ≠ 429 by decide, rfl⟩
  | true => exact ⟨show 200 ≠ 429 by decide, rfl⟩

theorem login_idle (shared : Shared Memory) :
    (Serve.told ((s.login request).run shared).1).status ≠ 429 ∧
      ((s.login request).run shared).2 = shared := by
  unfold login
  cases request.json? s.config.decoders LoginForm.ofJson? with
  | error fault => exact ⟨fault.isRefusal.2, rfl⟩
  | ok form =>
  cases s.parts.store with
  | false => exact ⟨show 500 ≠ 429 by decide, rfl⟩
  | true =>
  cases s.parts.config with
  | false => exact ⟨show 500 ≠ 429 by decide, rfl⟩
  | true =>
  have same : (shared.runUntimed (findUser form.username)).2 = shared :=
    runUntimed_idle (Memory.run_reading _) shared
  simp only [orRefuse, needs, if_true, pure_bind]
  split
  · exact ⟨(Fault.isRefusal _).2, rfl⟩
  · revert same
    simp only [Serve.run_bind, Serve.run_get, Serve.run_set]
    rcases shared.runUntimed (findUser form.username) with ⟨cause | user?, shared'⟩
    · rintro rfl
      exact ⟨(Fault.isRefusal _).2, rfl⟩
    · rintro rfl
      cases user? with
      | none => exact ⟨(Fault.isRefusal _).2, rfl⟩
      | some user =>
          simp only
          split
          · exact ⟨(Fault.isRefusal _).2, rfl⟩
          · exact ⟨show 200 ≠ 429 by decide, rfl⟩

/-- The endpoint of a route, or the answer that there is none. -/
def enter (route : Route) (missing : Response) (context : Context) : Serve Memory Response :=
  match route.endpoint with
  | some endpoint => s.answer context request endpoint
  | none => return missing

theorem serve_eq (route : Route) : s.serve request route =
    match route.area with
    | .health => s.enter request route .methodNotAllowed {}
    | .login => s.logFirst request (s.enter request route .methodNotAllowed) {}
    | .guarded =>
      s.logFirst request (s.authenticateFirst request (s.enter request route .notFound)) {} :=
  rfl

/-- Outside the guarded area there is nothing that changes something. -/
theorem enter_open {route : Route} (opened : route.area ≠ .guarded)
    (areas : ∀ endpoint, route.endpoint = some endpoint → endpoint.area = route.area)
    (context : Context) (shared : Shared Memory) :
    let ended := (s.enter request route .methodNotAllowed context).run shared
    (Serve.told ended.1).status ≠ 429 ∧
      ((Serve.told ended.1).status = 200 → route.endpoint ≠ none) ∧ ended.2 = shared := by
  intro ended
  cases led : route.endpoint with
  | none =>
      have missing : ended = (.ok .methodNotAllowed, shared) := by
        simp only [ended, enter, led]
        rfl
      rw [missing]
      exact ⟨show 405 ≠ 429 by decide, nofun, rfl⟩
  | some endpoint =>
      have answered : ended = (s.answer context request endpoint).run shared := by
        simp only [ended, enter, led]
      rw [answered]
      have area := areas endpoint led
      cases endpoint with
      | ping => exact ⟨(s.ping_idle shared).1, nofun, (s.ping_idle shared).2⟩
      | login =>
          exact ⟨(s.login_idle request shared).1, nofun, (s.login_idle request shared).2⟩
      | _ => exact absurd area.symm opened

/-- Behind the check of the token the store is left as it is, or a command has written. -/
theorem enter_guarded {route : Route}
    (leads : ∀ endpoint, route.endpoint = some endpoint →
      endpoint.area = .guarded ∧ endpoint.method = request.method)
    (caller : Caller) (id : Nat) (shared : Shared Memory) :
    let context : Context := ⟨some caller, if request.method = "GET" then none else some id⟩
    let ended := (s.enter request route .notFound context).run shared
    ((Serve.told ended.1).status ≠ 429 ∧
        ((Serve.told ended.1).status = 200 → request.method = "GET") ∧ ended.2 = shared) ∨
      ∃ endpoint, route.endpoint = some endpoint ∧
        Outcome endpoint caller id shared (Serve.told ended.1) ended.2 := by
  intro context ended
  cases led : route.endpoint with
  | none =>
      have missing : ended = (.ok .notFound, shared) := by
        simp only [ended, enter, led]
        rfl
      rw [missing]
      exact .inl ⟨show 404 ≠ 429 by decide, nofun, rfl⟩
  | some endpoint =>
      obtain ⟨area, method⟩ := leads endpoint led
      have answered :
          ended = (s.answer (inner endpoint caller id) request endpoint).run shared := by
        simp only [ended, enter, led, context, inner, method]
      rw [answered]
      exact .inr ⟨endpoint, rfl, (s.answer_decides caller request area).outcome id shared⟩

end Service

/-- What a request has left behind that has got past the limiter, and its answer. -/
inductive Effect (s : Service) (request : Request) (route : Route) (shared : Shared Memory) :
    Response → Shared Memory → Prop
  | looked (plain : route.area = .health ∨ request.method = "GET")
      (unlimited : response.status ≠ 429) : Effect s request route shared response shared
  | unlogged (asks : request.method ≠ "GET") (unlogged : ¬ s.Logs shared)
      (genuine : refusal.IsRefusal)
      (first : ∀ next, (s.logFirst request next {}).run shared = (.error refusal, shared)) :
      Effect s request route shared refusal shared
  | stopped (inside : route.area ≠ .health) (asks : request.method ≠ "GET") (logs : s.Logs shared)
      (unlimited : response.status ≠ 429)
      (idle : response.status = 200 → route.endpoint = some .login) :
      Effect s request route shared response (logEntry shared (request.entry s.occasion.now))
  | wrote (area : route.area = .guarded) (asks : request.method ≠ "GET") (logs : s.Logs shared)
      (leads : route.endpoint = some endpoint)
      (authentic : Caller.authenticate s.occasion.now s.config.secret
        (request.header? "authorization") = .ok caller)
      (role : endpoint.role? = some caller.role) (command : Command)
      (made : command.endpoint? = some endpoint)
      (actor : command.actor? = some (caller.actor shared.store.tables.nextId))
      (writes : Command.Writes
        (shared.store.tables.addRequestEntry (request.entry s.occasion.now)) command n t)
      (reply : Json) :
      Effect s request route shared (.ok reply)
        { shared with store := { shared.store with tables := t } }

theorem Effect.of_outcome {s : Service} {request : Request} {route : Route}
    {endpoint : Endpoint} (area : route.area = .guarded) (asks : request.method ≠ "GET")
    (logs : s.Logs shared) (leads : route.endpoint = some endpoint)
    (method : endpoint.method = request.method)
    (authentic : Caller.authenticate s.occasion.now s.config.secret
      (request.header? "authorization") = .ok caller)
    (outcome : Outcome endpoint caller shared.store.tables.nextId
      (logEntry shared (request.entry s.occasion.now)) response shared') :
    Effect s request route shared response shared' := by
  cases outcome with
  | kept unlimited idle =>
      exact .stopped (by rw [area]; nofun) asks logs unlimited
        fun done => absurd (method.symm.trans (idle done)) asks
  | wrote role command made actor writes reply =>
      exact .wrote area asks logs leads authentic role command made actor writes reply

/-- What changes something is never done for a request that only reads. -/
theorem Outcome.idle {endpoint : Endpoint} {caller : Caller} {id : Nat}
    (h : Outcome endpoint caller id shared response shared') (reads : endpoint.method = "GET") :
    response.status ≠ 429 ∧ shared' = shared := by
  cases h with
  | kept unlimited idle => exact ⟨unlimited, rfl⟩
  | wrote role command made =>
      rw [Endpoint.method_of_command made] at reads
      exact absurd reads (by decide)

namespace Service

variable {s : Service} {request : Request} {route : Route} (shared : Shared Memory)
  (leads : ∀ endpoint, route.endpoint = some endpoint →
    endpoint.area = route.area ∧ endpoint.method = request.method)
include leads

/-- A request that only reads goes past the request log. -/
theorem read_effect (reads : request.method = "GET") :
    Effect s request route shared (Serve.told ((s.serve request route).run shared).1)
      ((s.serve request route).run shared).2 := by
  have areas (endpoint) (led : route.endpoint = some endpoint) := (leads endpoint led).1
  have direct (next : Context → Serve Memory Response) : s.logFirst request next {} = next {} := by
    rw [logFirst, if_pos reads]
  rw [serve_eq]
  simp only [direct]
  cases area : route.area with
  | health =>
      obtain ⟨unlimited, -, same⟩ := s.enter_open request (by rw [area]; nofun) areas {} shared
      simp only
      rw [same]
      exact .looked (.inr reads) unlimited
  | login =>
      obtain ⟨unlimited, -, same⟩ := s.enter_open request (by rw [area]; nofun) areas {} shared
      simp only
      rw [same]
      exact .looked (.inr reads) unlimited
  | guarded =>
      simp only [run_authenticateFirst]
      split
      · exact .looked (.inr reads) (Fault.isRefusal _).2
      split
      · exact .looked (.inr reads) (Fault.isRefusal _).2
      rename_i caller authentic
      have entered := s.enter_guarded request (fun endpoint led => area ▸ leads endpoint led)
        caller 0 shared
      rw [if_pos reads] at entered
      obtain ⟨unlimited, -, same⟩ | ⟨endpoint, led, outcome⟩ := entered
      · rw [same]
        exact .looked (.inr reads) unlimited
      · obtain ⟨unlimited, same⟩ := outcome.idle ((leads endpoint led).2.trans reads)
        rw [same]
        exact .looked (.inr reads) unlimited

theorem serve_effect :
    Effect s request route shared (Serve.told ((s.serve request route).run shared).1)
      ((s.serve request route).run shared).2 := by
  by_cases reads : request.method = "GET"
  · exact read_effect shared leads reads
  have areas (endpoint) (led : route.endpoint = some endpoint) := (leads endpoint led).1
  have refused (unlogged : ¬ s.Logs shared) (next : Context → Serve Memory Response) :
      Effect s request route shared (Serve.told ((s.logFirst request next {}).run shared).1)
        ((s.logFirst request next {}).run shared).2 := by
    obtain ⟨refusal, genuine, first⟩ := s.logFirst_refuses request reads unlogged
    rw [first shared.store.tables next]
    exact .unlogged reads unlogged genuine (first shared.store.tables)
  rw [serve_eq]
  cases area : route.area with
  | health =>
      obtain ⟨unlimited, -, same⟩ := s.enter_open request (by rw [area]; nofun) areas {} shared
      simp only
      rw [same]
      exact .looked (.inl area) unlimited
  | login =>
      by_cases logs : s.Logs shared
      · simp only [s.logFirst_of_logs request reads logs]
        obtain ⟨unlimited, success, same⟩ := s.enter_open request (by rw [area]; nofun) areas
          { logged? := some shared.store.tables.nextId }
          (logEntry shared (request.entry s.occasion.now))
        rw [same]
        refine .stopped (by rw [area]; nofun) reads logs unlimited fun done => ?_
        obtain ⟨endpoint, led⟩ := Option.ne_none_iff_exists'.mp (success done)
        have login := (areas endpoint led).trans area
        cases endpoint with
        | login => exact led
        | _ => cases login
      · exact refused logs _
  | guarded =>
      by_cases logs : s.Logs shared
      · have inside : route.area ≠ .health := by rw [area]; nofun
        simp only [s.logFirst_of_logs request reads logs, run_authenticateFirst]
        split
        · exact .stopped inside reads logs (Fault.isRefusal _).2
            fun done => absurd done (Fault.isRefusal _).1
        split
        · exact .stopped inside reads logs (Fault.isRefusal _).2
            fun done => absurd done (Fault.isRefusal _).1
        rename_i caller authentic
        have entered := s.enter_guarded request (fun endpoint led => area ▸ leads endpoint led)
          caller shared.store.tables.nextId (logEntry shared (request.entry s.occasion.now))
        rw [if_neg reads] at entered
        obtain ⟨unlimited, idle, same⟩ | ⟨endpoint, led, outcome⟩ := entered
        · rw [same]
          exact .stopped inside reads logs unlimited fun done => absurd (idle done) reads
        · exact .of_outcome area reads logs led (leads endpoint led).2 authentic outcome
      · exact refused logs _

end Service
namespace App

variable (app : App Memory) (occasion : Occasion) (request : Request)

def service : Service := { config := app.config, parts := app.parts, occasion }

def route? : Option Route :=
  (SharedPath.read? app.config.sharedPath).bind fun shared =>
    Route.of? shared request.method request.target.routed

/-- The limit in front of an area. -/
def letIn : Area → Except Response (App Memory)
  | .health => .ok app
  | .login => (letThrough app.logins request occasion.now).map fun logins => { app with logins }
  | .guarded => (letThrough app.guarded request occasion.now).map fun guarded =>
      { app with guarded }

theorem handle_eq : app.handle occasion request =
    match app.route? request with
    | none => (.notFound, app)
    | some route =>
      match app.letIn occasion request route.area with
      | .error refusal => (refusal, app)
      | .ok admitted => admitted.serve occasion request route := by
  unfold handle
  change (match app.route? request with
    | none => (Response.notFound, app)
    | some route => _) = _
  cases app.route? request with
  | none => rfl
  | some route =>
      obtain ⟨area, endpoint⟩ := route
      cases area with
      | health => rfl
      | login =>
          simp only [letIn]
          cases letThrough app.logins request occasion.now <;> rfl
      | guarded =>
          simp only [letIn]
          cases letThrough app.guarded request occasion.now <;> rfl

variable {app occasion request}

private theorem exists_of_map_ok {f : α → β} {result : Except ε α} {b : β}
    (h : result.map f = .ok b) : ∃ a, f a = b := by
  cases result with
  | error cause => cases h
  | ok a => exact ⟨a, Except.ok.inj h⟩

theorem route_unique {route other : Route} (routed : app.route? request = some route)
    (found : app.route? request = some other) : route = other :=
  Option.some.inj (routed.symm.trans found)

/-- The limit concerns nothing but itself. -/
theorem letIn_ok {area : Area} {admitted : App Memory}
    (passed : app.letIn occasion request area = .ok admitted) :
    admitted.service occasion = app.service occasion ∧ admitted.shared = app.shared := by
  cases area with
  | health =>
      cases passed
      exact ⟨rfl, rfl⟩
  | login =>
      obtain ⟨logins, rfl⟩ := exists_of_map_ok passed
      exact ⟨rfl, rfl⟩
  | guarded =>
      obtain ⟨guarded, rfl⟩ := exists_of_map_ok passed
      exact ⟨rfl, rfl⟩

theorem serve_told (route : Route) : app.serve occasion request route =
    (Serve.told (((app.service occasion).serve request route).run app.shared).1,
      { app with shared := (((app.service occasion).serve request route).run app.shared).2 }) :=
  app.serve_run occasion request route

/-- A request is not routed, is refused by the limit, or is served. -/
theorem handle_cases (app : App Memory) (occasion : Occasion) (request : Request) :
    (app.route? request = none ∧ app.handle occasion request = (.notFound, app)) ∨
    (∃ route refusal, app.route? request = some route ∧
      app.letIn occasion request route.area = .error refusal ∧
      app.handle occasion request = (refusal, app)) ∨
    ∃ route admitted, app.route? request = some route ∧
      app.letIn occasion request route.area = .ok admitted ∧
      Effect (app.service occasion) request route app.shared (app.handle occasion request).1
        (app.handle occasion request).2.shared := by
  rw [handle_eq]
  cases routed : app.route? request with
  | none => exact .inl ⟨rfl, rfl⟩
  | some route =>
      simp only
      cases passed : app.letIn occasion request route.area with
      | error refusal => exact .inr (.inl ⟨route, refusal, rfl, passed, rfl⟩)
      | ok admitted =>
          refine .inr (.inr ⟨route, admitted, rfl, passed, ?_⟩)
          obtain ⟨service, shared⟩ := letIn_ok passed
          simp only [serve_told, service, shared]
          obtain ⟨path, -, leads⟩ := Option.bind_eq_some_iff.mp routed
          exact Service.serve_effect app.shared fun endpoint led => Route.of_endpoint leads led

end App

/-- The tables without the request log, and without the counter that their ids come from. -/
def besidesLog (t : Tables) : Tables := { t with requestEntries := [], lastId := 0 }

/-- What a request has changed in the database, and what it was answered. -/
structure Changes (app : App Memory) (occasion : Occasion) (request : Request)
    (response : Response) (shared' : Shared Memory) : Prop where
  /-- Nothing but tables: neither the faults that are played nor the unit of work that is held. -/
  tables : shared' =
    { app.shared with store := { app.shared.store with tables := shared'.store.tables } }
  reads : request.method = "GET" → shared' = app.shared
  limited : response.status = 429 → shared' = app.shared
  refused : ∀ route refusal, app.route? request = some route →
    app.letIn occasion request route.area = .error refusal →
      response = refusal ∧ shared' = app.shared
  elsewhere : (∀ route, app.route? request = some route → route.area = .health) →
    shared' = app.shared
  /-- A request that may change something and can be logged is logged once, and beyond that a
  command has written at most. -/
  logged : ∀ route admitted, app.route? request = some route → route.area ≠ .health →
    app.letIn occasion request route.area = .ok admitted → request.method ≠ "GET" →
    (app.service occasion).Logs app.shared →
      let t := app.shared.store.tables
      let entry := request.entry occasion.now
      shared'.store.tables.requestEntries = t.requestEntries ++ [entry.stored t.nextId] ∧
        (shared'.store.tables = t.addRequestEntry entry ∧
            (response.status = 200 → route.endpoint = some .login) ∨
          response.status = 200 ∧ ∃ endpoint command n, route.endpoint = some endpoint ∧
            command.endpoint? = some endpoint ∧
            Command.Writes (t.addRequestEntry entry) command n shared'.store.tables)
  /-- One that cannot be logged is answered the same whatever comes behind the request log. -/
  unlogged : ∀ route admitted, app.route? request = some route → route.area ≠ .health →
    app.letIn occasion request route.area = .ok admitted → request.method ≠ "GET" →
    ¬ (app.service occasion).Logs app.shared →
      shared' = app.shared ∧ response.IsRefusal ∧
        ∀ next, ((app.service occasion).logFirst request next {}).run app.shared =
          (.error response, app.shared)
  failed : response.status ≠ 200 →
    besidesLog shared'.store.tables = besidesLog app.shared.store.tables
  login : ∀ route, app.route? request = some route → route.area = .login →
    besidesLog shared'.store.tables = besidesLog app.shared.store.tables

namespace Changes

variable {app : App Memory} {occasion : Occasion} {request : Request} {response : Response}

theorem of_same
    (refused : ∀ route refusal, app.route? request = some route →
      app.letIn occasion request route.area = .error refusal → response = refusal)
    (unlogged : ∀ route admitted, app.route? request = some route → route.area ≠ .health →
      app.letIn occasion request route.area = .ok admitted → request.method ≠ "GET" →
      ¬ (app.service occasion).Logs app.shared ∧ response.IsRefusal ∧
        ∀ next, ((app.service occasion).logFirst request next {}).run app.shared =
          (.error response, app.shared)) :
    Changes app occasion request response app.shared where
  tables := rfl
  reads _ := rfl
  limited _ := rfl
  refused route refusal routed passed := ⟨refused route refusal routed passed, rfl⟩
  elsewhere _ := rfl
  logged route admitted routed inside passed asks logs :=
    absurd logs (unlogged route admitted routed inside passed asks).1
  unlogged route admitted routed inside passed asks _ :=
    ⟨rfl, (unlogged route admitted routed inside passed asks).2⟩
  failed _ := rfl
  login _ _ _ := rfl

theorem of_logged {route : Route} {admitted : App Memory} {t' : Tables}
    (routed : app.route? request = some route)
    (passed : app.letIn occasion request route.area = .ok admitted)
    (inside : route.area ≠ .health) (asks : request.method ≠ "GET")
    (logs : (app.service occasion).Logs app.shared) (unlimited : response.status ≠ 429)
    (entries : t'.requestEntries = app.shared.store.tables.requestEntries ++
      [(request.entry occasion.now).stored app.shared.store.tables.nextId])
    (written : t' = app.shared.store.tables.addRequestEntry (request.entry occasion.now) ∧
        (response.status = 200 → route.endpoint = some .login) ∨
      response.status = 200 ∧ ∃ endpoint command n, route.endpoint = some endpoint ∧
        command.endpoint? = some endpoint ∧
        Command.Writes (app.shared.store.tables.addRequestEntry (request.entry occasion.now))
          command n t')
    (besides : response.status ≠ 200 ∨ route.area = .login →
      besidesLog t' = besidesLog app.shared.store.tables) :
    Changes app occasion request response
      { app.shared with store := { app.shared.store with tables := t' } } := by
  constructor
  case tables => rfl
  case reads => exact fun reads => absurd reads asks
  case limited => exact fun limited => absurd limited unlimited
  case refused =>
    intro other refusal found refused
    obtain rfl := App.route_unique routed found
    cases passed.symm.trans refused
  case elsewhere => exact fun health => absurd (health route routed) inside
  case logged =>
    intro other _ found _ _ _ _
    obtain rfl := App.route_unique routed found
    exact ⟨entries, written⟩
  case unlogged => exact fun _ _ _ _ _ _ unlogged => absurd logs unlogged
  case failed => exact fun failed => besides (.inl failed)
  case login =>
    intro other found login
    obtain rfl := App.route_unique routed found
    exact besides (.inr login)

end Changes

theorem writes_keep_log {t t' : Tables} {command : Command} {n : Nat} {endpoint : Endpoint}
    (writes : Command.Writes t command n t') (made : command.endpoint? = some endpoint) :
    t'.requestEntries = t.requestEntries := by
  cases writes with
  | request => cases made
  | payroll =>
      rw [Tables.bookPayslips, Tables.addPayslips_eq]
      rfl
  | _ => rfl

/-- Whatever a request is and whatever stops it, it changes no more than it may. -/
theorem request_changes (app : App Memory) (occasion : Occasion) (request : Request) :
    Changes app occasion request (app.handle occasion request).1
      (app.handle occasion request).2.shared := by
  obtain ⟨none, answered⟩ | ⟨route, refusal, routed, limited, answered⟩ |
    ⟨route, admitted, routed, passed, effect⟩ := app.handle_cases occasion request
  · rw [answered]
    exact .of_same (fun _ _ routed => by rw [none] at routed; cases routed)
      fun _ _ routed => by rw [none] at routed; cases routed
  · rw [answered]
    refine .of_same (fun other refusal found refused => ?_) fun other _ found _ passed _ => ?_
    · obtain rfl := App.route_unique routed found
      exact Except.error.inj (limited.symm.trans refused)
    · obtain rfl := App.route_unique routed found
      cases limited.symm.trans passed
  · have unrefused {response : Response} (other refusal) (found : app.route? request = some other)
        (refused : app.letIn occasion request other.area = .error refusal) :
        response = refusal := by
      obtain rfl := App.route_unique routed found
      cases passed.symm.trans refused
    generalize (app.handle occasion request).1 = response,
      (app.handle occasion request).2.shared = shared' at effect ⊢
    cases effect with
    | looked plain unlimited =>
        refine .of_same unrefused fun other _ found inside _ asks => ?_
        obtain rfl := App.route_unique routed found
        rcases plain with health | reads
        · exact absurd health inside
        · exact absurd reads asks
    | unlogged asks unlogged genuine first =>
        exact .of_same unrefused fun _ _ _ _ _ _ => ⟨unlogged, genuine, first⟩
    | stopped inside asks logs unlimited idle =>
        exact .of_logged routed passed inside asks logs unlimited rfl (.inl ⟨rfl, idle⟩)
          fun _ => rfl
    | wrote area asks logs leads authentic role command made actor writes reply =>
        refine .of_logged routed passed (by rw [area]; nofun) asks logs nofun ?_
          (.inr ⟨rfl, _, command, _, leads, made, writes⟩) ?_
        · rw [writes_keep_log writes made]
          rfl
        · rintro (failed | login)
          · exact absurd rfl failed
          · rw [area] at login
            cases login

end Wagebook.Http
