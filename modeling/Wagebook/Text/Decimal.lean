/-!
Whole numbers as decimal text: printing, and reading a bounded one with the first cause that stops
it. A digit is one of the ten ASCII digits.
-/

namespace Wagebook.Text

def isDigit (c : Char) : Bool := '0' ≤ c && c ≤ '9'

def digitValue (c : Char) : Nat := c.toNat - '0'.toNat

def valueOfDigits (cs : List Char) : Nat :=
  cs.foldl (fun n c => n * 10 + digitValue c) 0

def ofNat (n : Nat) : List Char := Nat.toDigits 10 n

def ofInt : Int → List Char
  | .ofNat n => ofNat n
  | .negSucc n => '-' :: ofNat (n + 1)

/-- At least `width` digits, filled up with zeros on the left. -/
def padded (width n : Nat) : List Char :=
  let digits := ofNat n
  List.replicate (width - digits.length) '0' ++ digits

inductive NumberFault
  | empty
  | notADigit
  | tooLarge
  deriving DecidableEq, Repr

def NumberFault.message : NumberFault → String
  | .empty => "cannot parse integer from empty string"
  | .notADigit => "invalid digit found in string"
  | .tooLarge => "number too large to fit in target type"

/-- Reads on from the value `n` of the digits before `cs`; the leftmost fault is reported. -/
def readDigits (bound : Nat) : Nat → List Char → Except NumberFault Nat
  | n, [] => .ok n
  | n, c :: cs =>
    if !isDigit c then .error .notADigit
    else if bound ≤ n * 10 + digitValue c then .error .tooLarge
    else readDigits bound (n * 10 + digitValue c) cs

/-- A whole number below `bound`: digits, after at most one plus sign. -/
def readNat (bound : Nat) : List Char → Except NumberFault Nat
  | [] => .error .empty
  | ['+'] => .error .notADigit
  | '+' :: cs => readDigits bound 0 cs
  | cs => readDigits bound 0 cs

end Wagebook.Text
