import Wagebook.Proofs.Requests

/-!
Who gets in. A caller is whoever is named by a token that is accepted. Without one of the role that
an endpoint is for, a request gets no further than to the checks in front of the endpoint's work,
and its answer is the same whatever is stored.
-/

namespace Wagebook

theorem Role.eq_id_of_ofId? {n : Nat} {role : Role} (h : ofId? n = some role) : n = role.id := by
  unfold ofId? at h
  split at h <;> cases h <;> rfl

namespace Http

/-- The request bears a token that is accepted at that time, with these claims. -/
def Request.Bears (request : Request) (now : Stamp) (secret : String) (claims : Claims) : Prop :=
  ∃ token, request.header? "authorization" = some ("Bearer " ++ token) ∧
    Token.verify now secret token = .ok claims

theorem bearerToken_ok {header : Option String} {token : String}
    (h : bearerToken header = .ok token) : header = some ("Bearer " ++ token) := by
  unfold bearerToken at h
  split at h
  · cases h
  · rename_i text
    split at h
    · rename_i rest chars
      cases h
      have spelt : text.toList = "Bearer ".toList ++ rest := chars
      rw [← String.ofList_toList (s := text), spelt, String.ofList_append, String.ofList_toList]
    · cases h

theorem Caller.ofClaims_ok {claims : Claims} {caller : Caller} (h : ofClaims claims = .ok caller) :
    claims.user = caller.user ∧ claims.role = caller.role.id := by
  unfold ofClaims at h
  split at h
  · rename_i role known
    cases h
    exact ⟨rfl, Role.eq_id_of_ofId? known⟩
  · cases h

/-- A caller is who his token claims. -/
theorem Request.bears_of_authenticate {request : Request} {now : Stamp} {secret : String}
    {caller : Caller}
    (h : Caller.authenticate now secret (request.header? "authorization") = .ok caller) :
    ∃ claims, request.Bears now secret claims ∧ claims.user = caller.user ∧
      claims.role = caller.role.id := by
  unfold Caller.authenticate at h
  cases bearer : bearerToken (request.header? "authorization") with
  | error fault =>
      rw [bearer] at h
      cases h
  | ok token =>
      simp only [bearer, bind, Except.bind] at h
      split at h
      · rename_i claims verified
        exact ⟨claims, ⟨token, bearerToken_ok bearer, verified⟩, Caller.ofClaims_ok h⟩
      · cases h

/-- The request bears a token of the role that its endpoint is for. -/
def App.Entitles (app : App Memory) (occasion : Occasion) (request : Request) (claims : Claims) :
    Prop :=
  request.Bears occasion.now app.config.secret claims ∧
    ∃ route endpoint role, app.route? request = some route ∧ route.endpoint = some endpoint ∧
      endpoint.role? = some role ∧ claims.role = role.id

/-- What is decided for a caller of another role. -/
theorem Decides.refuses {s : Service} {caller : Caller} {endpoint : Endpoint}
    {serve : Nat → Serve Memory Response} (h : Decides s caller endpoint serve)
    (other : endpoint.role? ≠ some caller.role) :
    ∃ refusal : Response, refusal.IsRefusal ∧ serve = fun _ => throw refusal := by
  cases h with
  | refuse genuine => exact ⟨_, genuine, rfl⟩
  | look role => exact absurd role other
  | order command role => exact absurd role other

namespace Service

variable {s : Service} {request : Request} {route : Route}
  (leads : ∀ endpoint, route.endpoint = some endpoint →
    endpoint.area = .guarded ∧ endpoint.method = request.method)
  (stranger : ∀ caller endpoint, Caller.authenticate s.occasion.now s.config.secret
    (request.header? "authorization") = .ok caller → route.endpoint = some endpoint →
      endpoint.role? ≠ some caller.role)
include leads stranger

/-- The check of the token and the endpoint behind it answer a stranger without a look at the
store. -/
theorem authenticateFirst_refuses : ∃ refusal : Response, refusal.IsRefusal ∧ ∀ id shared,
    Serve.told ((s.authenticateFirst request (s.enter request route .notFound)
      { logged? := if request.method = "GET" then none else some id }).run shared).1 =
        refusal := by
  simp only [run_authenticateFirst]
  by_cases missing : ¬ s.parts.config
  · exact ⟨_, Fault.isRefusal .internal, fun id shared => by rw [if_pos missing]; rfl⟩
  simp only [if_neg missing]
  cases authentic : Caller.authenticate s.occasion.now s.config.secret
      (request.header? "authorization") with
  | error fault => exact ⟨_, fault.isRefusal, fun id shared => rfl⟩
  | ok caller =>
      cases led : route.endpoint with
      | none =>
          refine ⟨.notFound, ⟨nofun, nofun⟩, fun id shared => ?_⟩
          simp only [enter, led]
          rfl
      | some endpoint =>
          obtain ⟨area, method⟩ := leads endpoint led
          obtain ⟨refusal, genuine, refused⟩ :=
            (s.answer_decides caller request area).refuses (stranger caller endpoint authentic led)
          refine ⟨refusal, genuine, fun id shared => ?_⟩
          have answered := congrFun refused id
          simp only [inner, method] at answered
          simp only [enter, led, answered]
          rfl

/-- So does the whole way to an endpoint, whatever the tables hold. -/
theorem serve_refuses (guarded : route.area = .guarded) (shared : Shared Memory) :
    ∃ refusal : Response, refusal.IsRefusal ∧ ∀ tables,
      Serve.told ((s.serve request route).run
        { shared with store := { shared.store with tables } }).1 = refusal := by
  obtain ⟨refusal, genuine, refused⟩ := authenticateFirst_refuses leads stranger
  simp only [serve_eq, guarded]
  by_cases reads : request.method = "GET"
  · refine ⟨refusal, genuine, fun tables => ?_⟩
    simp only [if_pos reads] at refused
    rw [logFirst, if_pos reads]
    exact refused 0 _
  · simp only [if_neg reads] at refused
    by_cases logs : s.Logs shared
    · refine ⟨refusal, genuine, fun tables => ?_⟩
      have still : s.Logs { shared with store := { shared.store with tables } } := logs
      rw [s.logFirst_of_logs request reads still]
      exact refused _ _
    · obtain ⟨refusal, genuine, unlogged⟩ := s.logFirst_refuses request reads logs
      exact ⟨refusal, genuine, fun tables => by rw [unlogged tables]; rfl⟩

end Service

namespace App

private theorem error_of_map_error {f : α → β} {result : Except ε α} {e : ε}
    (h : result.map f = .error e) : result = .error e := by
  cases result with
  | error cause => exact congrArg _ (Except.error.inj h)
  | ok a => cases h

/-- The service on other tables. -/
def holding (app : App Memory) (tables : Tables) : App Memory :=
  { app with shared := { app.shared with store := { app.shared.store with tables } } }

variable {app : App Memory} {occasion : Occasion} {request : Request}

theorem letIn_holding (tables : Tables) (area : Area) :
    (app.holding tables).letIn occasion request area =
      (app.letIn occasion request area).map (·.holding tables) := by
  cases area with
  | health => rfl
  | login =>
      simp only [letIn, holding]
      cases letThrough app.logins request occasion.now <;> rfl
  | guarded =>
      simp only [letIn, holding]
      cases letThrough app.guarded request occasion.now <;> rfl

theorem letThrough_error {limiter : Limiter} {now : Stamp} {refusal : Response}
    (h : letThrough limiter request now = .error refusal) : refusal.status ≠ 200 := by
  obtain ⟨-, rfl⟩ | ⟨seconds, rfl⟩ := letThrough_refusal h
  · exact nofun
  · exact nofun

theorem letIn_error {area : Area} {refusal : Response}
    (h : app.letIn occasion request area = .error refusal) : refusal.status ≠ 200 := by
  cases area with
  | health => cases h
  | login => exact letThrough_error (error_of_map_error h)
  | guarded => exact letThrough_error (error_of_map_error h)

/-- What a request has changed beside its log entry was done by a command for the user of its
token. -/
theorem handle_author (app : App Memory) (occasion : Occasion) (request : Request) :
    let t := app.shared.store.tables
    let t' := (app.handle occasion request).2.shared.store.tables
    besidesLog t' = besidesLog t ∨ ∃ claims, app.Entitles occasion request claims ∧
      ∃ command endpoint role n, command.endpoint? = some endpoint ∧
        endpoint.role? = some role ∧ claims.role = role.id ∧
        command.actor? = some ⟨claims.user, t.nextId⟩ ∧
        Command.Writes (t.addRequestEntry (request.entry occasion.now)) command n t' := by
  intro t t'
  obtain ⟨-, answered⟩ | ⟨route, refusal, -, -, answered⟩ | ⟨route, admitted, routed, -, effect⟩ :=
    app.handle_cases occasion request
  · exact .inl (by simp only [t, t', answered])
  · exact .inl (by simp only [t, t', answered])
  · simp only [t']
    generalize (app.handle occasion request).1 = response,
      (app.handle occasion request).2.shared = shared' at effect
    cases effect with
    | looked => exact .inl rfl
    | unlogged => exact .inl rfl
    | stopped => exact .inl rfl
    | @wrote endpoint caller _ _ area asks logs led authentic role command made actor writes =>
        obtain ⟨claims, bears, user, claimed⟩ := Request.bears_of_authenticate authentic
        refine .inr ⟨claims, ⟨bears, route, endpoint, caller.role, routed, led, role, claimed⟩,
          command, endpoint, caller.role, _, made, role, claimed, ?_, writes⟩
        rw [user]
        exact actor

/-- What a request comes to that is turned away: it leaves its log entry at most, and its answer is
no success and the same whatever is stored. -/
structure TurnsAway (app : App Memory) (occasion : Occasion) (request : Request) : Prop where
  besides : besidesLog (app.handle occasion request).2.shared.store.tables =
    besidesLog app.shared.store.tables
  unsuccessful : (app.handle occasion request).1.status ≠ 200
  blind : ∀ tables, ((app.holding tables).handle occasion request).1 =
    (app.handle occasion request).1

theorem TurnsAway.of_blind
    (besides : besidesLog (app.handle occasion request).2.shared.store.tables =
      besidesLog app.shared.store.tables)
    {refusal : Response} (unsuccessful : refusal.status ≠ 200)
    (blind : ∀ tables, ((app.holding tables).handle occasion request).1 = refusal) :
    app.TurnsAway occasion request := by
  have same : (app.handle occasion request).1 = refusal := blind app.shared.store.tables
  exact ⟨besides, by rw [same]; exact unsuccessful, fun tables => by rw [same, blind]⟩

/-- Nobody else than who bears a token of the right role gets past a guarded route. -/
theorem turnsAway {route : Route} (routed : app.route? request = some route)
    (guarded : route.area = .guarded)
    (stranger : ∀ claims, ¬ app.Entitles occasion request claims) :
    app.TurnsAway occasion request := by
  have besides := (app.handle_author occasion request).resolve_right
    fun ⟨claims, entitled, _⟩ => stranger claims entitled
  cases passed : app.letIn occasion request route.area with
  | error refusal =>
      refine .of_blind besides (letIn_error passed) fun tables => ?_
      have same : (app.holding tables).route? request = some route := routed
      simp only [handle_eq, same, letIn_holding, passed]
      rfl
  | ok admitted =>
      obtain ⟨path, -, found⟩ := Option.bind_eq_some_iff.mp routed
      obtain ⟨refusal, genuine, refused⟩ := Service.serve_refuses (s := app.service occasion)
        (fun endpoint led => guarded ▸ Route.of_endpoint found led)
        (fun caller endpoint authentic led role => by
          obtain ⟨claims, bears, -, claimed⟩ := Request.bears_of_authenticate authentic
          exact stranger claims ⟨bears, route, endpoint, caller.role, routed, led, role, claimed⟩)
        guarded app.shared
      refine .of_blind besides genuine.1 fun tables => ?_
      obtain ⟨service, shared⟩ := letIn_ok passed
      have same : (app.holding tables).route? request = some route := routed
      simp only [handle_eq, same, letIn_holding, passed, Except.map, serve_told]
      rw [← refused tables, ← service, ← shared]
      rfl

end App
end Http
end Wagebook
