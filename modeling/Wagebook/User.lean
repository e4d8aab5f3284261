import Wagebook.Calendar.Json

/-!
Users: the people who log in. The password hash is read with a user but never written out.
-/

namespace Wagebook

structure User where
  id : Nat
  username : String
  passwordHash : String
  fullName : String
  /-- The base salary that a period's days are paid by. -/
  salary : Int
  isAdmin : Bool
  createdAt : Stamp
  updatedAt : Stamp
  deriving DecidableEq

namespace User

def fieldNames : List String :=
  ["id", "username", "password_hash", "full_name", "salary", "is_admin", "created_at",
    "updated_at"]

def toJson (u : User) : Json :=
  .record (fieldNames.filter (· ≠ "password_hash")) [.nat u.id, .str u.username,
    .str u.fullName, .int u.salary, .bool u.isAdmin, u.createdAt.toJson, u.updatedAt.toJson]

def ofFields? : List Json → Option User
  | [id, username, passwordHash, fullName, salary, isAdmin, createdAt, updatedAt] => do
    return { id := ← id.nat64?, username := ← username.str?
             passwordHash := ← passwordHash.str?, fullName := ← fullName.str?
             salary := ← salary.int64?, isAdmin := ← isAdmin.bool?
             createdAt := ← createdAt.stamp?, updatedAt := ← updatedAt.stamp? }
  | _ => none

def ofJson? (v : Json) : Option User := do ofFields? (← v.fields? fieldNames [])

end User
end Wagebook
