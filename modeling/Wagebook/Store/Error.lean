/-!
What can go wrong in a store.
-/

namespace Wagebook

structure Refusal where
  code : Nat
  state : String
  message : String
  deriving DecidableEq, Repr

inductive DatabaseFault
  | refused (refusal : Refusal)
  | poolClosed
  /-- A query that always has a row came back without one. -/
  | noRow
  | unexpectedData (text : String)
  deriving DecidableEq, Repr

def DatabaseFault.message : DatabaseFault → String
  | .refused r =>
    "error returned from database: " ++ toString r.code ++ " (" ++ r.state ++ "): " ++ r.message
  | .poolClosed => "attempted to acquire a connection on a closed pool"
  | .noRow => "no rows returned by a query that expected to return at least one row"
  | .unexpectedData text => "encountered unexpected or invalid data: " ++ text

inductive StoreError
  /-- An insert collided with a unique key. -/
  | uniqueViolation (text : String)
  | database (fault : DatabaseFault)
  | unavailable (what : String)
  deriving DecidableEq, Repr

namespace StoreError

def message : StoreError → String
  | .uniqueViolation text => "unique constraint violated: " ++ text
  | .database fault => "database error: " ++ fault.message
  | .unavailable what => "store unavailable: " ++ what

/-- The codes by which the server reports a duplicate key: on a write, on a row, on a table with a
unique constraint, on an entry of a named key, and on a key of unknown name. -/
def duplicateCodes : List Nat := [1022, 1062, 1169, 1586, 1859]

def ofRefusal (r : Refusal) : StoreError :=
  if duplicateCodes.contains r.code then .uniqueViolation r.message else .database (.refused r)

end StoreError
end Wagebook
