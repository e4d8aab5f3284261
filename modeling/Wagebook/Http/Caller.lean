import Wagebook.Http.Fault
import Wagebook.Token

/-!
Callers: who a bearer token says is asking, and what his role lets him do.
-/

namespace Wagebook.Http

structure Caller where
  user : Nat
  username : String
  role : Role
  deriving DecidableEq, Repr

def bearerToken : Option String → Except Fault String
  | none => .error .tokenMissing
  | some header =>
    match header.toList with
    | 'B' :: 'e' :: 'a' :: 'r' :: 'e' :: 'r' :: ' ' :: token => .ok (String.ofList token)
    | _ => .error .notBearer

namespace Caller

def ofClaims (claims : Claims) : Except Fault Caller :=
  match Role.ofId? claims.role with
  | some role => .ok ⟨claims.user, claims.username, role⟩
  | none => .error .roleUnknown

/-- The caller that an authorization header stands for. -/
def authenticate (now : Stamp) (secret : String) (header : Option String) :
    Except Fault Caller := do
  let token ← bearerToken header
  match Token.verify now secret token with
  | .ok claims => ofClaims claims
  | .error _ => throw .tokenRefused

def requireAdmin (c : Caller) : Except Fault Unit :=
  if c.role = .admin then .ok () else .error .notAdmin

def requireEmployee (c : Caller) : Except Fault Unit :=
  if c.role = .employee then .ok () else .error .notEmployee

/-- The caller as the author of a change, in a logged request. -/
def actor (c : Caller) (request : Nat) : Actor := ⟨c.user, request⟩

end Caller

structure Context where
  caller? : Option Caller := none
  /-- The id under which the request was logged. -/
  logged? : Option Nat := none
  deriving DecidableEq, Repr

namespace Context

def caller (c : Context) : Except Fault Caller :=
  match c.caller? with
  | some caller => .ok caller
  | none => .error .internal

def logged (c : Context) : Except Fault Nat :=
  match c.logged? with
  | some id => .ok id
  | none => .error .internal

end Context
end Wagebook.Http
