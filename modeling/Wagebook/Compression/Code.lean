import Wagebook.Compression.Bits

/-!
Prefix codes, given by how many bits each symbol takes. Shorter codes come before longer ones, and
among those of one length the code of a smaller symbol comes first.
-/

namespace Wagebook.Compression

inductive Code
  | unused
  | symbol (n : Nat)
  | fork (zero one : Code)
  deriving Inhabited

namespace Code

def read? : Code → Bits → Option (Nat × Bits)
  | .unused, _ => none
  | .symbol n, bits => some (n, bits)
  | .fork zero one, bits =>
    match bits.next? with
    | some (false, bits) => zero.read? bits
    | some (true, bits) => one.read? bits
    | none => none

/-- The code for symbols with their lengths, in the order of their codes, below a place that `depth`
bits lead to; it has `levels` levels at most. The symbols that it has no place for are left. -/
def build : Nat → Nat → List (Nat × Nat) → Code × List (Nat × Nat)
  | _, _, [] => (.unused, [])
  | levels, depth, (length, n) :: rest =>
    if length = depth then (.symbol n, rest)
    else
      match levels with
      | 0 => (.unused, (length, n) :: rest)
      | levels + 1 =>
        let (zero, rest) := build levels (depth + 1) ((length, n) :: rest)
        let (one, rest) := build levels (depth + 1) rest
        (.fork zero one, rest)

def isComplete : Code → Bool
  | .unused => false
  | .symbol _ => true
  | .fork zero one => zero.isComplete && one.isComplete

def maxLength : Nat := 15

/-- The symbols that have a code, with its length, in the order of their codes. -/
def inOrder (lengths : List Nat) : List (Nat × Nat) :=
  (List.range maxLength).flatMap fun i =>
    (lengths.zipIdx.filter fun (length, _) => length = i + 1)

/-- The code with these lengths, if there is room for it. Every bit string has to be the beginning
of a code or to begin with one, unless there is but one code and `mayLack` allows it. -/
def ofLengths? (mayLack : Bool) (lengths : List Nat) : Option Code :=
  let symbols := inOrder lengths
  let (code, rest) := build maxLength 0 symbols
  if rest.isEmpty && (code.isComplete || (mayLack && symbols.length ≤ 1)) then some code else none

end Code
end Wagebook.Compression
