import Wagebook.Http.Limiter
import Wagebook.Http.Service

/-!
The service as a whole. On its way to an endpoint a request passes, from the outside in, the limit
of its client, the request log unless it only reads, and the check of its token. What stops it there
is its answer.
-/

namespace Wagebook.Http

namespace Service

variable {σ : Type} [Store σ]

/-- Logs a request that may change something before it goes on; one that cannot be logged does
not. -/
def logFirst (s : Service) (request : Request) (next : Context → Serve σ Response)
    (context : Context) : Serve σ Response := do
  if request.method = "GET" then next context
  else
    if ¬ s.parts.store ∨ ¬ s.parts.config then throw Fault.internal.response
    let id ← s.perform
      (recordRequest s.occasion.now request.target.text request.method request.client)
    next { context with logged? := some id }

def authenticateFirst (s : Service) (request : Request) (next : Context → Serve σ Response)
    (context : Context) : Serve σ Response := do
  if ¬ s.parts.config then throw Fault.internal.response
  let caller ← orRefuse
    (Caller.authenticate s.occasion.now s.config.secret (request.header? "authorization"))
  next { context with caller? := some caller }

/-- The way in to each area, after the limit. -/
def serve (s : Service) (request : Request) (route : Route) : Serve σ Response :=
  let inside (missing : Response) (context : Context) : Serve σ Response :=
    match route.endpoint with
    | some endpoint => s.answer context request endpoint
    | none => return missing
  match route.area with
  | .health => inside .methodNotAllowed {}
  | .login => s.logFirst request (inside .methodNotAllowed) {}
  | .guarded => s.logFirst request (s.authenticateFirst request (inside .notFound)) {}

end Service

structure App (σ : Type) [Store σ] where
  config : ServiceConfig
  parts : Parts := {}
  shared : Shared σ
  logins : Limiter := { quota := .perMinute config.loginsPerMinute }
  guarded : Limiter := { quota := .perMinute config.guardedPerMinute }

namespace App

variable {σ : Type} [Store σ]

def letThrough (limiter : Limiter) (request : Request) (now : Stamp) : Except Response Limiter :=
  match request.peer with
  | none => .error .peerUnknown
  | some peer =>
    match limiter.take peer.network now.unixMillis.toNat with
    | .ok limiter => .ok limiter
    | .error wait => .error (.tooMany (wait / 1000))

def serve (app : App σ) (occasion : Occasion) (request : Request) (route : Route) :
    Response × App σ :=
  let service : Service := { config := app.config, parts := app.parts, occasion }
  let (result, shared) := (service.serve request route).run app.shared
  let response := match result with
    | .ok response => response
    | .error response => response
  (response, { app with shared })

def handle (app : App σ) (occasion : Occasion) (request : Request) : Response × App σ :=
  let route? := (SharedPath.read? app.config.sharedPath).bind fun shared =>
    Route.of? shared request.method request.target.routed
  match route? with
  | none => (.notFound, app)
  | some route =>
    match route.area with
    | .health => app.serve occasion request route
    | .login =>
      match letThrough app.logins request occasion.now with
      | .error response => (response, app)
      | .ok logins => { app with logins }.serve occasion request route
    | .guarded =>
      match letThrough app.guarded request occasion.now with
      | .error response => (response, app)
      | .ok guarded => { app with guarded }.serve occasion request route

end App
end Wagebook.Http
