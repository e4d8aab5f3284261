import Wagebook.Calendar.Stamp
import Wagebook.Calendar.DateText

/-!
Stamps as text. A stamp is written date, `T`, time of day and `Z`, with as many fraction digits as
it needs, in groups of three. Reading takes any offset below a day, one-digit parts, white space
around the parts, a space for the `T`, and cuts the fraction to nine digits.
-/

namespace Wagebook.Stamp

def fractionText (nano : Nat) : List Char :=
  if nano = 0 then []
  else if nano % 1000000 = 0 then '.' :: Text.padded 3 (nano / 1000000)
  else if nano % 1000 = 0 then '.' :: Text.padded 6 (nano / 1000)
  else '.' :: Text.padded 9 nano

def text (s : Stamp) : List Char :=
  let shown := s.second % 60 + (if s.leap then 1 else 0)
  s.date.text ++ 'T' :: Text.padded 2 (s.second / 3600) ++ ':' ::
    Text.padded 2 (s.second / 60 % 60) ++ ':' :: Text.padded 2 shown ++
    fractionText s.nano ++ ['Z']

def toText (s : Stamp) : String := String.ofList s.text

/-- The fraction after a point, in nanoseconds; digits after the ninth do not count. -/
def readFraction : List Char → Option (Nat × List Char)
  | '.' :: cs => do
    let (n, rest) ← Date.readDigits 9 cs
    let width := cs.length - rest.length
    return (n * Nat.pow 10 (9 - width), rest.dropWhile Text.isDigit)
  | cs => some (0, cs)

def readTwoDigits : List Char → Option (Nat × List Char)
  | a :: b :: cs =>
    if Text.isDigit a && Text.isDigit b then
      some (Text.digitValue a * 10 + Text.digitValue b, cs)
    else none
  | _ => none

def isColonOrBlank (c : Char) : Bool := c = ':' || Text.isBlank c

/-- An offset in hours and minutes, in minutes. -/
def readOffset (cs : List Char) : Option (Nat × List Char) := do
  let (hours, cs) ← readTwoDigits cs
  let (minutes, cs) ← readTwoDigits (cs.dropWhile isColonOrBlank)
  if hours < 24 ∧ minutes < 60 then some (hours * 60 + minutes, cs) else none

/-- The zone at the end of a stamp: `Z`, `UTC` in any case, or an offset with its sign. -/
def readZone : List Char → Option (Int × List Char)
  | '+' :: cs => (readOffset cs).map fun (n, rest) => (n, rest)
  | '-' :: cs => (readOffset cs).map fun (n, rest) => (-n, rest)
  | '\u2212' :: cs => (readOffset cs).map fun (n, rest) => (-n, rest)
  | c :: cs =>
    if c = 'Z' || c = 'z' then some (0, cs)
    else match c :: cs with
      | a :: b :: c :: cs =>
        if a.toUpper = 'U' && b.toUpper = 'T' && c.toUpper = 'C' then some (0, cs) else none
      | _ => none
  | [] => none

def readTimeMark : List Char → Option (List Char)
  | c :: cs => if c = 't' || c = 'T' || c = ' ' then some cs else none
  | [] => none

def read? (cs : List Char) : Option Stamp := do
  let (date, cs) ← Date.readFront true cs
  let cs ← readTimeMark cs
  let (hour, cs) ← Date.readPart 2 cs
  let cs ← Date.readMark ':' true cs
  let (minute, cs) ← Date.readPart 2 cs
  let cs ← Date.readMark ':' true cs
  let (second, cs) ← Date.readPart 2 cs
  let (nano, cs) ← readFraction cs
  let (offset, cs) ← readZone (Text.trimStart cs)
  if !(Text.trimStart cs).isEmpty then none
  (← of? date hour minute second nano).ofLocal? offset

end Wagebook.Stamp
