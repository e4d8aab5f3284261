import Wagebook.Json.Basic

/-!
Schemas: the shape of the records that the service takes and gives, field by field.
-/

namespace Wagebook.Description

/-- What a field holds. -/
inductive Shape
  | text
  | textIn (format : String)
  | flag
  /-- 64 bits without sign. -/
  | id
  | count
  /-- 64 bits with sign. -/
  | amount
  /-- 32 bits with sign, between two bounds. -/
  | small (least most : Int)
  | listOf (schema : String)
  /-- An object or nothing. -/
  | anything
  deriving DecidableEq, Repr

structure Field where
  name : String
  shape : Shape
  sample : Option Json := none

structure Schema where
  name : String
  description : Option String := none
  fields : List Field

def reference (schema : String) : Json :=
  .obj [("$ref", .str ("#/components/schemas/" ++ schema))]

def Shape.members : Shape → List (String × Json)
  | .text => [("type", .str "string")]
  | .textIn format => [("type", .str "string"), ("format", .str format)]
  | .flag => [("type", .str "boolean")]
  | .id => [("type", .str "integer"), ("format", .str "int64"), ("minimum", .int 0)]
  | .count => [("type", .str "integer"), ("minimum", .int 0)]
  | .amount => [("type", .str "integer"), ("format", .str "int64")]
  | .small least most =>
    [("type", .str "integer"), ("format", .str "int32"), ("minimum", .int least),
      ("maximum", .int most)]
  | .listOf schema => [("type", .str "array"), ("items", reference schema)]
  | .anything => [("type", .str "object"), ("nullable", .bool true)]

def Field.toJson (f : Field) : Json :=
  .obj (f.shape.members ++ (f.sample.map fun v => ("example", v)).toList)

namespace Schema

/-- The fields that a record must have: all that cannot be nothing. -/
def required (s : Schema) : List String :=
  (s.fields.filter (·.shape ≠ .anything)).map (·.name)

def toJson (s : Schema) : Json :=
  .obj ([("type", .str "object")] ++
    (s.description.map fun text => ("description", .str text)).toList ++
    [("required", .arr (s.required.map .str)),
      ("properties", .obj (s.fields.map fun f => (f.name, f.toJson)))])

end Schema

def textField (name sample : String) : Field := ⟨name, .text, some (.str sample)⟩

def dateField (name sample : String) : Field := ⟨name, .textIn "date", some (.str sample)⟩

def stampField (name sample : String) : Field := ⟨name, .textIn "date-time", some (.str sample)⟩

def idField (name : String) (sample : Int) : Field := ⟨name, .id, some (.int sample)⟩

def amountField (name : String) (sample : Int) : Field := ⟨name, .amount, some (.int sample)⟩

def schemas : List Schema :=
  [{ name := "PingResponse", fields := [textField "server_says" "pong"] },
   { name := "LoginReqDto", fields := [textField "username" "alice", textField "password" "s3cret"] },
   { name := "LoginResponse", fields := [{ name := "token", shape := .text }] },
   { name := "ErrorEnvelope", description := some "Envelope shape as shown in the OpenAPI document."
     fields := [{ name := "success", shape := .flag, sample := some (.bool false) },
       textField "error" "period not found", { name := "data", shape := .anything }] },
   { name := "AddAttendancePeriod"
     fields := [dateField "start_date" "2025-06-01", dateField "end_date" "2025-06-30"] },
   { name := "PeriodCreated"
     fields := [idField "period_id" 1, textField "message" "attendance period created"] },
   { name := "RunPayroll", fields := [idField "period_id" 1] },
   { name := "PayrollRunResult"
     fields := [idField "period_id" 1,
       { name := "payslips_generated", shape := .count, sample := some (.int 100) }] },
   { name := "SubmitAttendance"
     fields := [idField "period_id" 1, dateField "date" "2025-06-02"] },
   { name := "SubmitOvertime"
     fields := [idField "period_id" 1, dateField "date" "2025-06-02",
       { name := "hours", shape := .small 1 3, sample := some (.int 2) },
       { name := "work_completed", shape := .flag, sample := some (.bool true) }] },
   { name := "SubmitReimbursement"
     fields := [idField "period_id" 1, amountField "amount" 150000,
       textField "description" "Taxi to client site"] },
   { name := "Submitted"
     fields := [idField "id" 12, textField "message" "attendance submitted"] },
   { name := "Payslip"
     fields := [idField "id" 1, idField "user_id" 7, idField "period_id" 3,
       amountField "base_salary" 3000000, amountField "working_days" 10,
       amountField "present_days" 8, amountField "attendance_amount" 2400000,
       amountField "overtime_hours" 6, amountField "overtime_amount" 1800000,
       amountField "reimbursement_total" 100000, amountField "take_home_pay" 4300000,
       stampField "created_at" "2026-01-31T00:00:00Z",
       stampField "updated_at" "2026-01-31T00:00:00Z"] },
   { name := "PayslipSummary"
     fields := [idField "user_id" 7, amountField "total_take_home" 4300000] },
   { name := "PayslipSummaryReport", description := some "Recomputed on every query, never stored."
     fields := [{ name := "per_user", shape := .listOf "PayslipSummary" },
       amountField "total" 4300000] }]

end Wagebook.Description
