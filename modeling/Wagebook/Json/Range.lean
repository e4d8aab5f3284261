import Wagebook.Text.Decimal

/-!
Which spelled numbers have a value. A spelling is read into a significand of 64 bits and a power of
ten, both are rounded to doubles, and their product has to round to a double too.
-/

namespace Wagebook.Json

/-- Appends digits to a significand for as long as it stays within 64 bits; the rest is left. -/
def appendDigits : Nat → List Char → Nat × List Char
  | n, [] => (n, [])
  | n, c :: cs =>
    let longer := n * 10 + Text.digitValue c
    if longer < 0x10000000000000000 then appendDigits longer cs else (n, c :: cs)

/-- The nearest number of at most 53 bits and zeros after them; of two, the one with the even
bits. -/
def nearestDouble (n : Nat) : Nat :=
  let unit := 1 <<< (n.log2 + 1 - 53)
  let bits := n / unit
  let twice := 2 * (n % unit)
  if unit < twice ∨ (twice = unit ∧ bits % 2 = 1) then (bits + 1) * unit else bits * unit

/-- The text before a spelled exponent, and the exponent's sign and digits. -/
def splitExponent (cs : List Char) : List Char × Bool × List Char :=
  let isMark (c : Char) : Bool := c = 'e' || c = 'E'
  let mantissa := cs.takeWhile (!isMark ·)
  match (cs.dropWhile (!isMark ·)).drop 1 with
  | '-' :: digits => (mantissa, true, digits)
  | '+' :: digits => (mantissa, false, digits)
  | digits => (mantissa, false, digits)

/-- A number whose significand is a whole one. -/
structure Scaled where
  significand : Nat
  /-- The power of ten that the significand is multiplied by. -/
  exponent : Int
  deriving DecidableEq, Repr

/-- Digits that the significand has no room for count as zeros. -/
def Scaled.ofSpelling (spelling : String) : Scaled :=
  let (mantissa, negative, digits) := splitExponent (spelling.toList.dropWhile (· = '-'))
  let fraction := (mantissa.dropWhile (· ≠ '.')).drop 1
  let (whole, excess) := appendDigits 0 (mantissa.takeWhile (· ≠ '.'))
  let (significand, unused) := appendDigits whole fraction
  let power : Int := Text.valueOfDigits digits
  { significand
    exponent := (if negative then -power else power) + excess.length
      - (fraction.length - unused.length : Nat) }

/-- The least number that is too large to be rounded to a double. -/
def tooLarge : Nat := (1 <<< 1024) - (1 <<< 970)

def Scaled.isFinite (n : Scaled) : Bool :=
  if n.exponent ≤ 0 ∨ n.significand = 0 then true
  else if 308 < n.exponent then false
  else nearestDouble n.significand * nearestDouble (Nat.pow 10 n.exponent.toNat) < tooLarge

def isFinite (spelling : String) : Bool := (Scaled.ofSpelling spelling).isFinite

end Wagebook.Json
