import Wagebook.Json.Range
import Wagebook.Json.Reader

/-!
Free-form values: members that a record keeps as they came. They are bounded in depth, their
strings have values, their numbers fit a double, and an object has each key once, in order of keys.
An object may stand for a value that it holds as text.
-/

namespace Wagebook.Json

/-- Puts a member into its place; a later member takes the place of an earlier one of its name. -/
def insertMember (key : String) (v : Json) : List (String × Json) → List (String × Json)
  | [] => [(key, v)]
  | (k, w) :: ms =>
    if key = k then (key, v) :: ms
    else if key < k then (key, v) :: (k, w) :: ms
    else (k, w) :: insertMember key v ms

/-- A whole number beyond 64 bits is kept as a spelling. -/
def number? (n : Int) : Option Json :=
  if -0x8000000000000000 ≤ n ∧ n < 0x10000000000000000 then some (.int n)
  else
    let spelling := String.ofList (Text.ofInt n)
    if isFinite spelling then some (.real spelling) else none

/-- The only key of an object that stands for the value in its text. -/
def textKey : String := "$serde_json::private::RawValue"

mutual

/-- The value in free form, when it nests at most `depth` arrays and objects; `ofText?` reads the
texts that stand for values. -/
def freeWith? (ofText? : String → Option Json) : Nat → Json → Option Json
  | _, .null => some .null
  | _, .bool b => some (.bool b)
  | _, .int n => number? n
  | _, .real spelling => if isFinite spelling then some (.real spelling) else none
  | _, .str s => some (.str s)
  | 0, .arr _ => none
  | depth + 1, .arr items => (freeItems? ofText? depth items).map .arr
  | 0, .obj _ => none
  | depth + 1, .obj members =>
    if (members.head?.map (·.1)) = some textKey then
      match members with
      | [(_, .str text)] => ofText? text
      | _ => none
    else (freeMembers? ofText? depth members []).map .obj
  | _, .unusable => none

def freeItems? (ofText? : String → Option Json) : Nat → List Json → Option (List Json)
  | _, [] => some []
  | depth, v :: vs => do
    let v ← freeWith? ofText? depth v
    return v :: (← freeItems? ofText? depth vs)

def freeMembers? (ofText? : String → Option Json) :
    Nat → List (String × Json) → List (String × Json) → Option (List (String × Json))
  | _, [], seen => some seen
  | depth, (k, v) :: ms, seen => do
    let v ← freeWith? ofText? depth v
    freeMembers? ofText? depth ms (insertMember k v seen)

end

/-- How deep a value nests that is all of a text: 127 arrays and objects. -/
def depthLimit : Nat := 127

/-- The free form of what a text spells. Texts within it are shorter, so `fuel` is its length at
most. -/
def freeText? : Nat → String → Option Json
  | 0, _ => none
  | fuel + 1, text => do freeWith? (freeText? fuel) depthLimit (← parse? text)

def free? (depth : Nat) (v : Json) : Option Json :=
  freeWith? (fun text => freeText? (text.length + 1) text) depth v

mutual

/-- Whether a value can be held as it is: it nests at most `depth` arrays and objects, its strings
have values and its numbers fit a double. -/
def isPlain : Nat → Json → Bool
  | _, .int n => (number? n).isSome
  | _, .real spelling => isFinite spelling
  | 0, .arr _ => false
  | depth + 1, .arr items => arePlain depth items
  | 0, .obj _ => false
  | depth + 1, .obj members => membersArePlain depth members
  | _, .unusable => false
  | _, _ => true

def arePlain : Nat → List Json → Bool
  | _, [] => true
  | depth, v :: vs => isPlain depth v && arePlain depth vs

def membersArePlain : Nat → List (String × Json) → Bool
  | _, [] => true
  | depth, (_, v) :: ms => isPlain depth v && membersArePlain depth ms

end

end Wagebook.Json
