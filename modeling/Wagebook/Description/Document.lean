import Wagebook.Description.Schema

/-!
The description of the service as an OpenAPI document: its endpoints, and the schemas of what they
take and give.
-/

namespace Wagebook.Description

/-- What an endpoint gives. -/
inductive Content
  | one (schema : String)
  | many (schema : String)
  deriving DecidableEq, Repr

structure Answer where
  status : Nat
  description : String := ""
  content : Content := .one "ErrorEnvelope"

structure EndpointEntry where
  method : String
  path : String
  id : String
  tag : String
  form : Option String := none
  /-- The id in the path, with its description. -/
  parameter : Option (String × String) := none
  answers : List Answer
  /-- Whether a token is needed. -/
  guarded : Bool := true

def jsonContent (schema : Json) : Json :=
  .obj [("application/json", .obj [("schema", schema)])]

def Content.toJson : Content → Json
  | .one schema => jsonContent (reference schema)
  | .many schema => jsonContent (.obj (Shape.listOf schema).members)

def Answer.toMember (a : Answer) : String × Json :=
  (toString a.status,
    .obj [("description", .str a.description), ("content", a.content.toJson)])

namespace EndpointEntry

def parameters (e : EndpointEntry) : List (String × Json) :=
  (e.parameter.map fun (name, description) =>
    ("parameters", Json.arr [.obj [("name", .str name), ("in", .str "path"),
      ("description", .str description), ("required", .bool true),
      ("schema", .obj Shape.id.members)]])).toList

def requestBody (e : EndpointEntry) : List (String × Json) :=
  (e.form.map fun schema =>
    ("requestBody", Json.obj [("content", jsonContent (reference schema)),
      ("required", .bool true)])).toList

def security (e : EndpointEntry) : List (String × Json) :=
  if e.guarded then [("security", .arr [.obj [("bearer_auth", .arr [])]])] else []

def toJson (e : EndpointEntry) : Json :=
  .obj ([("tags", .arr [.str e.tag]), ("operationId", .str e.id)] ++ e.parameters ++
    e.requestBody ++ [("responses", .obj (e.answers.map Answer.toMember))] ++ e.security)

end EndpointEntry

def endpoints : List EndpointEntry :=
  [{ method := "get", path := "/v1/ping", id := "ping", tag := "Health", guarded := false
     answers := [⟨200, "Database reachable", .one "PingResponse"⟩,
       { status := 500, description := "Database unreachable" }] },
   { method := "post", path := "/v1/login", id := "login", tag := "Auth", guarded := false
     form := some "LoginReqDto"
     answers := [⟨200, "Token issued", .one "LoginResponse"⟩,
       { status := 400, description := "Missing username or password" },
       { status := 401, description := "Invalid credentials" }] },
   { method := "post", path := "/v1/admin/add-attendance-period", id := "add_attendance_period"
     tag := "Admin", form := some "AddAttendancePeriod"
     answers := [⟨200, "Period created", .one "PeriodCreated"⟩,
       { status := 400, description := "Invalid dates" }, { status := 401 }, { status := 403 }] },
   { method := "post", path := "/v1/admin/run-payroll", id := "run_payroll", tag := "Admin"
     form := some "RunPayroll"
     answers := [⟨200, "Payslips generated", .one "PayrollRunResult"⟩,
       { status := 404, description := "Period not found" },
       { status := 409, description := "Payroll already generated" }, { status := 401 },
       { status := 403 }] },
   { method := "get", path := "/v1/admin/get-payslip-summary/\x7bperiod_id\x7d"
     id := "get_payslip_summary", tag := "Admin"
     parameter := some ("period_id", "Attendance period ID")
     answers := [⟨200, "Take-home totals per employee", .one "PayslipSummaryReport"⟩,
       { status := 401 }, { status := 403 }] },
   { method := "post", path := "/v1/employee/submit-attendance", id := "submit_attendance"
     tag := "Employee", form := some "SubmitAttendance"
     answers := [⟨200, "Attendance recorded", .one "Submitted"⟩,
       { status := 400, description := "Date outside the period" },
       { status := 404, description := "Period not found" },
       { status := 409, description := "Attendance already submitted" }, { status := 403 }] },
   { method := "post", path := "/v1/employee/submit-overtime", id := "submit_overtime"
     tag := "Employee", form := some "SubmitOvertime"
     answers := [⟨200, "Overtime recorded", .one "Submitted"⟩,
       { status := 400, description := "Work not completed, invalid hours or no attendance" },
       { status := 404, description := "Period not found" },
       { status := 409, description := "Overtime already submitted" }, { status := 403 }] },
   { method := "post", path := "/v1/employee/submit-reimbursement", id := "submit_reimbursement"
     tag := "Employee", form := some "SubmitReimbursement"
     answers := [⟨200, "Reimbursement recorded", .one "Submitted"⟩,
       { status := 400, description := "Amount not positive" },
       { status := 404, description := "Period not found" }, { status := 403 }] },
   { method := "get", path := "/v1/employee/generate-payslips", id := "generate_payslips"
     tag := "Employee"
     answers := [⟨200, "The caller's payslips, oldest period first", .many "Payslip"⟩,
       { status := 401 }, { status := 403 }] }]

def overview : String := "
## Payslip Generation System

Attendance-based payroll with a full audit trail.

### Flow
- **Admin** opens an attendance period.
- **Employees** submit attendance, overtime and reimbursements for the period.
- **Admin** runs payroll once per period, generating one payslip per employee.
- **Admin** reads the take-home summary; employees read their own payslips.

Every successful mutation is written to the audit log together with the
request that caused it.

### Security
All admin and employee endpoints require a **JWT Bearer** token from `/v1/login`.

### Response Format
Every response is `\x7b \"success\": bool, \"error\": string, \"data\": any \x7d`.
"

def tags : List (String × String) :=
  [("Health", "Liveness and database connectivity"), ("Auth", "Token issuing"),
   ("Admin", "Attendance periods, payroll runs and summaries"),
   ("Employee", "Submissions and payslips")]

def info : Json :=
  .obj [("title", .str "Payslip API"), ("description", .str overview),
    ("license", .obj [("name", .str "")]), ("version", .str "1.0.0")]

def securitySchemes : Json :=
  .obj [("bearer_auth", .obj [("type", .str "http"), ("scheme", .str "bearer"),
    ("bearerFormat", .str "JWT")])]

def document : Json :=
  .obj [("openapi", .str "3.0.3"), ("info", info),
    ("paths", .obj (endpoints.map fun e => (e.path, .obj [(e.method, e.toJson)]))),
    ("components", .obj [("schemas", .obj (schemas.map fun s => (s.name, s.toJson))),
      ("securitySchemes", securitySchemes)]),
    ("tags", .arr (tags.map fun (name, description) =>
      .obj [("name", .str name), ("description", .str description)]))]

end Wagebook.Description
