import Wagebook.Calendar.Date
import Wagebook.Text.Blank
import Wagebook.Text.Decimal

/-!
Dates as text. A date is written year, month, day with dashes between; a year outside 0 to 9999
carries a sign. Reading is looser: a number may stand after white space, month and day may have one
digit, a year may have fewer than four digits, or any number of them after a sign.
-/

namespace Wagebook.Date

def yearText (year : Int) : List Char :=
  if 0 ≤ year ∧ year ≤ 9999 then Text.padded 4 year.toNat
  else (if year < 0 then '-' else '+') :: Text.padded 4 year.natAbs

def text (d : Date) : List Char :=
  yearText d.year ++ '-' :: Text.padded 2 d.month ++ '-' :: Text.padded 2 d.day

def toText (d : Date) : String := String.ofList d.text

/-- The leading digits, one at least and `width` at most, as a number. -/
def readDigits (width : Nat) (cs : List Char) : Option (Nat × List Char) :=
  let digits := (cs.take width).takeWhile Text.isDigit
  if digits.isEmpty then none
  else some (Text.valueOfDigits digits, cs.drop digits.length)

/-- A number after white space. -/
def readPart (width : Nat) (cs : List Char) : Option (Nat × List Char) :=
  readDigits width (Text.trimStart cs)

def readYear (cs : List Char) : Option (Int × List Char) :=
  match Text.trimStart cs with
  | '-' :: cs => (readDigits cs.length cs).map fun (n, rest) => (-n, rest)
  | '+' :: cs => (readDigits cs.length cs).map fun (n, rest) => (n, rest)
  | cs => (readDigits 4 cs).map fun (n, rest) => (n, rest)

/-- The text after a separator; white space may stand before it when `spaced`. -/
def readMark (mark : Char) (spaced : Bool) (cs : List Char) : Option (List Char) :=
  match if spaced then Text.trimStart cs else cs with
  | c :: cs => if c = mark then some cs else none
  | [] => none

def readFront (spaced : Bool) (cs : List Char) : Option (Date × List Char) := do
  let (year, cs) ← readYear cs
  let cs ← readMark '-' spaced cs
  let (month, cs) ← readPart 2 cs
  let cs ← readMark '-' spaced cs
  let (day, cs) ← readPart 2 cs
  return (← of? year month day, cs)

/-- A date with white space around its parts at most. -/
def read? (cs : List Char) : Option Date := do
  let (d, rest) ← readFront true cs
  if (Text.trimStart rest).isEmpty then some d else none

/-- A date field of a form: white space may surround it and precede its numbers, but not its
dashes. -/
def readField? (s : String) : Option Date := do
  let (d, rest) ← readFront false (Text.trim s.toList)
  if rest.isEmpty then some d else none

end Wagebook.Date
