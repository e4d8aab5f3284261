/-!
Base64 without padding: bytes as characters of six bits each. Only the canonical form is read, in
which the bits left over at the end are zero.
-/

namespace Wagebook.Text

/-- The two characters that stand for 62 and 63. -/
structure Base64 where
  plus : Char
  slash : Char

namespace Base64

def standard : Base64 := ⟨'+', '/'⟩

/-- The alphabet that is safe in an address. -/
def url : Base64 := ⟨'-', '_'⟩

def digit (alphabet : Base64) (n : Nat) : Char :=
  if n < 26 then Char.ofNat (65 + n)
  else if n < 52 then Char.ofNat (71 + n)
  else if n < 62 then Char.ofNat (n - 4)
  else if n = 62 then alphabet.plus
  else alphabet.slash

def value? (alphabet : Base64) (c : Char) : Option Nat :=
  if 'A' ≤ c ∧ c ≤ 'Z' then some (c.toNat - 65)
  else if 'a' ≤ c ∧ c ≤ 'z' then some (c.toNat - 71)
  else if '0' ≤ c ∧ c ≤ '9' then some (c.toNat + 4)
  else if c = alphabet.plus then some 62
  else if c = alphabet.slash then some 63
  else none

def encode (alphabet : Base64) : List UInt8 → List Char
  | a :: b :: c :: rest =>
    let n := a.toNat * 65536 + b.toNat * 256 + c.toNat
    alphabet.digit (n / 262144) :: alphabet.digit (n / 4096 % 64) ::
      alphabet.digit (n / 64 % 64) :: alphabet.digit (n % 64) :: encode alphabet rest
  | [a, b] =>
    let n := a.toNat * 1024 + b.toNat * 4
    [alphabet.digit (n / 4096), alphabet.digit (n / 64 % 64), alphabet.digit (n % 64)]
  | [a] => [alphabet.digit (a.toNat / 4), alphabet.digit (a.toNat * 16 % 64)]
  | [] => []

def bytes? : List Nat → Option (List UInt8)
  | a :: b :: c :: d :: rest => do
    let n := a * 262144 + b * 4096 + c * 64 + d
    return UInt8.ofNat (n / 65536) :: UInt8.ofNat (n / 256 % 256) :: UInt8.ofNat (n % 256) ::
      (← bytes? rest)
  | [a, b, c] =>
    let n := a * 4096 + b * 64 + c
    if n % 4 = 0 then some [UInt8.ofNat (n / 1024), UInt8.ofNat (n / 4 % 256)] else none
  | [a, b] => if b % 16 = 0 then some [UInt8.ofNat ((a * 64 + b) / 16)] else none
  | [_] => none
  | [] => some []

def decode? (alphabet : Base64) (cs : List Char) : Option (List UInt8) := do
  bytes? (← cs.mapM alphabet.value?)

end Base64

end Wagebook.Text
