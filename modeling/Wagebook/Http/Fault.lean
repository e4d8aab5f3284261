import Wagebook.Json.Record
import Wagebook.PayrollError

/-!
Answers of the service: every endpoint answers with an envelope, and a failure is told in one too.
An internal failure says nothing but that it is one.
-/

namespace Wagebook.Http

inductive Body
  | empty
  | json (v : Json)
  | plain (text : String)

def Body.contentType : Body → Option String
  | .empty => none
  | .json _ => some "application/json"
  | .plain _ => some "text/plain; charset=utf-8"

structure Response where
  status : Nat
  body : Body

inductive Fault
  | payroll (cause : PayrollError)
  | badRequest (text : String)
  | unauthorized (text : String)
  | forbidden (text : String)
  | internal
  deriving DecidableEq

def payrollStatus : PayrollError → Nat
  | .invalid _ => 400
  | .outOfWindow _ _ => 400
  | .attendanceMissing => 400
  | .notFound _ => 404
  | .alreadyExists _ => 409
  | .alreadyProcessed _ => 409
  | .timeout => 504
  | .store _ => 500
  | .unserializable => 500

def envelope (success : Bool) (error : String) (data : Json) : Json :=
  .record ["success", "error", "data"] [.bool success, .str error, data]

namespace Fault

def status : Fault → Nat
  | .payroll cause => payrollStatus cause
  | .badRequest _ => 400
  | .unauthorized _ => 401
  | .forbidden _ => 403
  | .internal => 500

def text : Fault → String
  | .payroll cause => cause.message
  | .badRequest text => text
  | .unauthorized text => text
  | .forbidden text => text
  | .internal => "internal server error"

def message (fault : Fault) : String :=
  if fault.status = 500 then Fault.internal.text else fault.text

def response (fault : Fault) : Response :=
  ⟨fault.status, .json (envelope false fault.message .null)⟩

def malformedBody : Fault := .badRequest "invalid input"

def malformedParameter : Fault := .badRequest "invalid path parameter"

def malformedField (name : String) : Fault := .badRequest ("invalid input " ++ name)

def blankCredentials : Fault := .badRequest "invalid input"

def workUnfinished : Fault := .badRequest "you must finish your work before submitting overtime"

def amountNotPositive : Fault := .badRequest "amount must be greater than 0"

def tokenMissing : Fault := .unauthorized "missing token"

def notBearer : Fault := .unauthorized "invalid authorization format"

def tokenRefused : Fault := .unauthorized "invalid token"

def roleUnknown : Fault := .unauthorized "invalid role"

def wrongCredentials : Fault := .unauthorized "invalid credentials"

def notAdmin : Fault := .forbidden "only admin can perform this action"

def notEmployee : Fault := .forbidden "only employee can perform this action"

end Fault

namespace Response

def ok (data : Json) : Response := ⟨200, .json (envelope true "" data)⟩

def notFound : Response := ⟨404, .empty⟩

def methodNotAllowed : Response := ⟨405, .empty⟩

def peerUnknown : Response :=
  ⟨500, .plain "Could not extract peer IP address from request"⟩

def partMissing : Response :=
  ⟨500, .plain ("Requested application data is not configured correctly. " ++
    "View/enable debug logs for more details.")⟩

def tooMany (seconds : Nat) : Response :=
  ⟨429, .plain ("Too many requests, retry in " ++ toString seconds ++ "s")⟩

end Response
end Wagebook.Http
