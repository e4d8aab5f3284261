import Wagebook.Calendar.Json

/-!
Reimbursements: expenses that are paid back with a period's pay.
-/

namespace Wagebook

structure Reimbursement where
  id : Nat
  user : Nat
  period : Nat
  amount : Int
  description : String
  createdAt : Stamp
  updatedAt : Stamp
  deriving DecidableEq

structure Reimbursement.Draft where
  user : Nat
  period : Nat
  amount : Int
  description : String
  createdAt : Stamp
  deriving DecidableEq

namespace Reimbursement

def Draft.stored (draft : Draft) (id : Nat) : Reimbursement :=
  { id, user := draft.user, period := draft.period, amount := draft.amount
    description := draft.description
    createdAt := draft.createdAt, updatedAt := draft.createdAt }

def fieldNames : List String :=
  ["id", "user_id", "period_id", "amount", "description", "created_at", "updated_at"]

def toJson (r : Reimbursement) : Json :=
  .record fieldNames [.nat r.id, .nat r.user, .nat r.period, .int r.amount, .str r.description,
    r.createdAt.toJson, r.updatedAt.toJson]

def ofFields? : List Json → Option Reimbursement
  | [id, user, period, amount, description, createdAt, updatedAt] => do
    return { id := ← id.nat64?, user := ← user.nat64?, period := ← period.nat64?
             amount := ← amount.int64?, description := ← description.str?
             createdAt := ← createdAt.stamp?, updatedAt := ← updatedAt.stamp? }
  | _ => none

def ofJson? (v : Json) : Option Reimbursement := do ofFields? (← v.fields? fieldNames [])

end Reimbursement
end Wagebook
