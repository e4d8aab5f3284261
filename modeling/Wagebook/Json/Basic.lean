/-!
JSON values. A number is kept as an integer when it is spelled as one, and otherwise as its
spelling, which nothing in a wage book needs to compute with.
-/

namespace Wagebook

inductive Json
  | null
  | bool (b : Bool)
  | int (n : Int)
  /-- A number with a fraction or an exponent, or negative zero. -/
  | real (spelling : String)
  | str (s : String)
  | arr (items : List Json)
  | obj (members : List (String × Json))
  /-- A string that spells no text, or an object with such a key: it can be skipped but has no
  value. -/
  | unusable
  deriving Inhabited, Repr, BEq

namespace Json

/-- The values of the members named `key`, in order. -/
def membersNamed (key : String) (members : List (String × Json)) : List Json :=
  members.filterMap fun (k, v) => if k = key then some v else none

def ofOption (encode : α → Json) : Option α → Json
  | none => .null
  | some a => encode a

def nat (n : Nat) : Json := .int n

end Json
end Wagebook
