import Wagebook.Text.Decimal

/-!
Punycode: a text spelled with ASCII characters only. First come its own ASCII characters with a
hyphen after them, then the places and code points of the others, in the order of the code points.
Both are told by how far one is from the one before, in digits whose number depends on the steps so
far.
-/

namespace Wagebook.Text.Punycode

def digitValue? (c : Char) : Option Nat :=
  if 'a' ≤ c ∧ c ≤ 'z' then some (c.toNat - 97)
  else if isDigit c then some (c.toNat - 22)
  else none

/-- The least digit value that another digit follows. -/
def threshold (place bias : Nat) : Nat := min 26 (max 1 (36 * place - bias))

/-- Reads one step. The first digit weighs one. -/
def readStep (bias : Nat) : Nat → Nat → Nat → List Char → Option (Nat × List Char)
  | _, _, _, [] => none
  | place, weight, n, c :: cs => do
    let digit ← digitValue? c
    let n := n + digit * weight
    let least := threshold place bias
    if digit < least then some (n, cs) else readStep bias (place + 1) (weight * (36 - least)) n cs

/-- How often a step has to be divided by 35 to get below 456, and what is left. -/
def shrink (step : Nat) : Nat × Nat :=
  if 455 < step then
    let (times, left) := shrink (step / 35)
    (times + 1, left)
  else (0, step)
termination_by step

/-- The bias after a step, with the number of characters that there are then. -/
def adapt (step count : Nat) (isFirst : Bool) : Nat :=
  let step := if isFirst then step / 700 else step / 2
  let (times, left) := shrink (step + step / count)
  36 * times + 36 * left / (left + 38)

def lastCode : Nat := 0x10FFFF

/-- Reads the other characters into `seen`. The last one has the code point `code` and is the one
before place `at_`. -/
def readInsertions : Nat → List Char → Nat → Nat → Nat → List Char → Option (List Char)
  | 0, _, _, _, _, _ => none
  | _ + 1, seen, _, _, _, [] => some seen
  | fuel + 1, seen, code, at_, bias, cs => do
    let (step, rest) ← readStep bias 1 1 0 cs
    let count := seen.length + 1
    let code' := code + (at_ + step) / count
    let place := (at_ + step) % count
    if lastCode < code' ∨ (0xD800 ≤ code' ∧ code' < 0xE000) then none
    else
      readInsertions fuel (seen.insertIdx place (Char.ofNat code')) code' (place + 1)
        (adapt step count (at_ = 0)) rest

def decode? (cs : List Char) : Option (List Char) :=
  match cs.reverse.dropWhile (· ≠ '-') with
  | _ :: before@(_ :: _) =>
    readInsertions (cs.length + 1) before.reverse 0x80 0 72
      (cs.reverse.takeWhile (· ≠ '-')).reverse
  | _ => readInsertions (cs.length + 1) [] 0x80 0 72 cs

end Wagebook.Text.Punycode
