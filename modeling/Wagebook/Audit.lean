import Wagebook.Calendar.Json
import Wagebook.Role

/-!
The audit trail: one entry per change, which holds what was stored, and one entry per request that
may change something.
-/

namespace Wagebook

inductive AuditTable
  | attendancePeriods
  | attendances
  | overtimes
  | reimbursements
  | payslips
  deriving DecidableEq, Repr

inductive AuditAction
  | create
  deriving DecidableEq, Repr

namespace AuditTable

def name : AuditTable → String
  | .attendancePeriods => "attendance_periods"
  | .attendances => "attendances"
  | .overtimes => "overtimes"
  | .reimbursements => "reimbursements"
  | .payslips => "payslips"

def all : List AuditTable :=
  [.attendancePeriods, .attendances, .overtimes, .reimbursements, .payslips]

def ofName? (s : String) : Option AuditTable := all.find? (·.name = s)

def toJson (t : AuditTable) : Json := .str t.name

def ofJson? (v : Json) : Option AuditTable := do ofName? (← v.name?)

end AuditTable

namespace AuditAction

def name : AuditAction → String
  | .create => "CREATE"

def ofName? (s : String) : Option AuditAction := [.create].find? (·.name = s)

def toJson (a : AuditAction) : Json := .str a.name

def ofJson? (v : Json) : Option AuditAction := do ofName? (← v.name?)

end AuditAction

/-- The record id of an entry that is about a whole payroll run. -/
def runRecordId : Nat := 0

structure AuditEntry where
  id : Nat
  table : AuditTable
  recordId : Nat
  action : AuditAction
  oldData : Json
  newData : Json
  changedBy : Option Nat
  request : Option Nat
  createdAt : Stamp

structure AuditEntry.Draft where
  table : AuditTable
  recordId : Nat
  action : AuditAction
  oldData : Json
  newData : Json
  changedBy : Option Nat
  request : Option Nat
  createdAt : Stamp

namespace AuditEntry

def Draft.stored (draft : Draft) (id : Nat) : AuditEntry :=
  { id, table := draft.table, recordId := draft.recordId, action := draft.action
    oldData := draft.oldData, newData := draft.newData, changedBy := draft.changedBy
    request := draft.request, createdAt := draft.createdAt }

/-- The entry for a new record: nothing before it, and the record after it. -/
def created (table : AuditTable) (recordId : Nat) (record : Json) (actor : Actor)
    (createdAt : Stamp) : Draft :=
  { table, recordId, action := .create, oldData := .obj [], newData := record
    changedBy := some actor.user, request := some actor.request, createdAt }

def fieldNames : List String :=
  ["id", "table_name", "record_id", "action", "old_data", "new_data", "changed_by", "request_id",
    "created_at"]

def optionalFields : List String := ["changed_by", "request_id"]

def toJson (e : AuditEntry) : Json :=
  .record fieldNames [.nat e.id, e.table.toJson, .nat e.recordId, e.action.toJson, e.oldData,
    e.newData, .ofOption .nat e.changedBy, .ofOption .nat e.request, e.createdAt.toJson]

/-- The entry itself is one level of the nesting that a text may have. -/
def ofFields? : List Json → Option AuditEntry
  | [id, table, recordId, action, oldData, newData, changedBy, request, createdAt] => do
    return { id := ← id.nat64?, table := ← AuditTable.ofJson? table
             recordId := ← recordId.nat64?, action := ← AuditAction.ofJson? action
             oldData := ← Json.free? (Json.depthLimit - 1) oldData
             newData := ← Json.free? (Json.depthLimit - 1) newData
             changedBy := ← changedBy.option? Json.nat64?
             request := ← request.option? Json.nat64?, createdAt := ← createdAt.stamp? }
  | _ => none

def ofJson? (v : Json) : Option AuditEntry := do
  ofFields? (← v.fields? fieldNames optionalFields)

end AuditEntry

structure RequestEntry where
  id : Nat
  url : String
  method : String
  ipAddress : String
  createdAt : Stamp
  deriving DecidableEq

structure RequestEntry.Draft where
  url : String
  method : String
  ipAddress : String
  createdAt : Stamp
  deriving DecidableEq

namespace RequestEntry

def Draft.stored (draft : Draft) (id : Nat) : RequestEntry :=
  { id, url := draft.url, method := draft.method, ipAddress := draft.ipAddress
    createdAt := draft.createdAt }

def fieldNames : List String := ["id", "url", "method", "ip_address", "created_at"]

def toJson (e : RequestEntry) : Json :=
  .record fieldNames [.nat e.id, .str e.url, .str e.method, .str e.ipAddress, e.createdAt.toJson]

def ofFields? : List Json → Option RequestEntry
  | [id, url, method, ipAddress, createdAt] => do
    return { id := ← id.nat64?, url := ← url.str?, method := ← method.str?
             ipAddress := ← ipAddress.str?, createdAt := ← createdAt.stamp? }
  | _ => none

def ofJson? (v : Json) : Option RequestEntry := do ofFields? (← v.fields? fieldNames [])

end RequestEntry
end Wagebook
