import Wagebook.Json.Free

/-!
Records as JSON: a record is read from an object with its members in any order, or from an array of
its values in the order of its fields. Members that are no field are skipped. Whole numbers are read
within the range of their kind.
-/

namespace Wagebook.Json

/-- The value of one field among the members of an object; a field that may be absent is null then,
and one that is given twice makes the record unreadable. -/
def field? (mayMiss : Bool) (members : List (String × Json)) (name : String) : Option Json :=
  match membersNamed name members with
  | [v] => some v
  | [] => if mayMiss then some .null else none
  | _ => none

/-- The values of a record's fields, in the order of `names`; those in `optional` may be absent. -/
def fields? (names : List String) (optional : List String) : Json → Option (List Json)
  | .arr items => if items.length = names.length then some items else none
  | .obj members => names.mapM fun name => field? (optional.contains name) members name
  | _ => none

def record (names : List String) (values : List Json) : Json := .obj (names.zip values)

def natBelow? (bound : Nat) : Json → Option Nat
  | .int n => if 0 ≤ n ∧ n < bound then some n.toNat else none
  | _ => none

def intWithin? (bound : Nat) : Json → Option Int
  | .int n => if -bound ≤ n ∧ n < bound then some n else none
  | _ => none

/-- An identifier or a count: 64 bits without sign. -/
def nat64? : Json → Option Nat := natBelow? 0x10000000000000000

/-- An amount, or a number of days or hours: 64 bits with sign. -/
def int64? : Json → Option Int := intWithin? 0x8000000000000000

def int32? : Json → Option Int := intWithin? 0x80000000

def nat8? : Json → Option Nat := natBelow? 0x100

def bool? : Json → Option Bool
  | .bool b => some b
  | _ => none

def str? : Json → Option String
  | .str s => some s
  | _ => none

def name? : Json → Option String
  | .str s => some s
  | .obj [(s, .null)] => some s
  | _ => none

def option? (decode : Json → Option α) : Json → Option (Option α)
  | .null => some none
  | v => (decode v).map some

def list? (decode : Json → Option α) : Json → Option (List α)
  | .arr items => items.mapM decode
  | _ => none

end Wagebook.Json
