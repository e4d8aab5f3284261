import Wagebook.Json.Basic
import Wagebook.Text.Decimal
import Wagebook.Text.Hex

/-!
Reading a JSON text. The reader takes everything that is well formed, at any depth; what a value
may be is left to those who ask for one.
-/

namespace Wagebook.Json

def isSpace (c : Char) : Bool := c = ' ' || c = '\n' || c = '\t' || c = '\r'

def skipSpace (cs : List Char) : List Char := cs.dropWhile isSpace

def isHighSurrogate (u : Nat) : Bool := 0xD800 ≤ u && u < 0xDC00

def isLowSurrogate (u : Nat) : Bool := 0xDC00 ≤ u && u < 0xE000

def pairValue (high low : Nat) : Nat := 0x10000 + (high - 0xD800) * 0x400 + (low - 0xDC00)

def unit16? (a b c d : Char) : Option Nat := do
  let a ← Text.hexValue? a
  let b ← Text.hexValue? b
  let c ← Text.hexValue? c
  let d ← Text.hexValue? d
  return ((a * 16 + b) * 16 + c) * 16 + d

def shortEscape? (c : Char) : Option Char :=
  if c = '"' then some '"'
  else if c = '\\' then some '\\'
  else if c = '/' then some '/'
  else if c = 'b' then some '\x08'
  else if c = 'f' then some '\x0c'
  else if c = 'n' then some '\n'
  else if c = 'r' then some '\r'
  else if c = 't' then some '\t'
  else none

/-- Stands in a text for a byte that is part of no character. No JSON text holds this character. -/
def gap : Char := '\x00'

structure Spelled where
  /-- The characters so far, the last one first. -/
  seen : List Char := []
  /-- The first half of a surrogate pair, waiting for the second. -/
  half : Option Nat := none
  /-- False once half of a pair stands alone, or a byte that is part of no character. -/
  sound : Bool := true

def Spelled.char (s : Spelled) (c : Char) : Spelled :=
  ⟨c :: s.seen, none, s.sound && s.half.isNone⟩

/-- A character of the text itself. -/
def Spelled.plain (s : Spelled) (c : Char) : Spelled :=
  if c = gap then ⟨s.seen, none, false⟩ else s.char c

def Spelled.unit (s : Spelled) (u : Nat) : Spelled :=
  match s.half with
  | some high =>
    if isLowSurrogate u then ⟨Char.ofNat (pairValue high u) :: s.seen, none, s.sound⟩
    else ⟨s.seen, none, false⟩
  | none =>
    if isHighSurrogate u then ⟨s.seen, some u, s.sound⟩
    else if isLowSurrogate u then ⟨s.seen, none, false⟩
    else ⟨Char.ofNat u :: s.seen, none, s.sound⟩

def Spelled.value? (s : Spelled) : Option String :=
  if s.sound && s.half.isNone then some (String.ofList s.seen.reverse) else none

def readString (s : Spelled) : List Char → Option (Option String × List Char)
  | [] => none
  | '"' :: cs => some (s.value?, cs)
  | '\\' :: 'u' :: a :: b :: c :: d :: cs =>
    match unit16? a b c d with
    | some u => readString (s.unit u) cs
    | none => none
  | '\\' :: e :: cs =>
    match shortEscape? e with
    | some c => readString (s.char c) cs
    | none => none
  | c :: cs =>
    if c = '\\' || (c.toNat < 0x20 && c != gap) then none else readString (s.plain c) cs

/-- The digits after the point, with the point; nothing when there is no point. -/
def readFraction : List Char → Option (List Char × List Char)
  | '.' :: cs =>
    let digits := cs.takeWhile Text.isDigit
    if digits.isEmpty then none else some ('.' :: digits, cs.dropWhile Text.isDigit)
  | cs => some ([], cs)

def exponentSign : List Char → List Char × List Char
  | '+' :: cs => (['+'], cs)
  | '-' :: cs => (['-'], cs)
  | cs => ([], cs)

def readExponent : List Char → Option (List Char × List Char)
  | c :: cs =>
    if c = 'e' || c = 'E' then
      let (sign, cs) := exponentSign cs
      let digits := cs.takeWhile Text.isDigit
      if digits.isEmpty then none else some (c :: sign ++ digits, cs.dropWhile Text.isDigit)
    else some ([], c :: cs)
  | [] => some ([], [])

def readUnsigned (negative : Bool) (cs : List Char) : Option (Json × List Char) := do
  let whole := cs.takeWhile Text.isDigit
  if whole.isEmpty || (whole.length > 1 && whole.head? == some '0') then none
  let (fraction, rest) ← readFraction (cs.dropWhile Text.isDigit)
  let (exponent, rest) ← readExponent rest
  let n := Text.valueOfDigits whole
  let isReal := !fraction.isEmpty || !exponent.isEmpty || (negative && n == 0)
  let sign := if negative then ['-'] else []
  let value :=
    if isReal then .real (String.ofList (sign ++ whole ++ fraction ++ exponent))
    else if negative then .int (-n) else .int n
  return (value, rest)

def readNumber : List Char → Option (Json × List Char)
  | '-' :: cs => readUnsigned true cs
  | cs => readUnsigned false cs

mutual

def readValue : Nat → List Char → Option (Json × List Char)
  | 0, _ => none
  | fuel + 1, cs =>
    match skipSpace cs with
    | 'n' :: 'u' :: 'l' :: 'l' :: rest => some (.null, rest)
    | 't' :: 'r' :: 'u' :: 'e' :: rest => some (.bool true, rest)
    | 'f' :: 'a' :: 'l' :: 's' :: 'e' :: rest => some (.bool false, rest)
    | '"' :: rest => do
      let (s, rest) ← readString {} rest
      return (s.elim .unusable .str, rest)
    | '[' :: rest =>
      match skipSpace rest with
      | ']' :: rest => some (.arr [], rest)
      | rest => do
        let (items, rest) ← readItems fuel rest
        return (.arr items, rest)
    | '\x7b' :: rest =>
      match skipSpace rest with
      | '\x7d' :: rest => some (.obj [], rest)
      | rest => do
        let (members, rest) ← readMembers fuel rest
        return (members.elim .unusable .obj, rest)
    | cs => readNumber cs

def readItems : Nat → List Char → Option (List Json × List Char)
  | 0, _ => none
  | fuel + 1, cs => do
    let (v, rest) ← readValue fuel cs
    match skipSpace rest with
    | ',' :: rest =>
      let (vs, rest) ← readItems fuel rest
      return (v :: vs, rest)
    | ']' :: rest => return ([v], rest)
    | _ => none

/-- Reads one member or more, up to the closing brace; none of them has a value when a key has
none. -/
def readMembers : Nat → List Char → Option (Option (List (String × Json)) × List Char)
  | 0, _ => none
  | fuel + 1, cs =>
    match skipSpace cs with
    | '"' :: rest => do
      let (key, rest) ← readString {} rest
      match skipSpace rest with
      | ':' :: rest =>
        let (v, rest) ← readValue fuel rest
        match skipSpace rest with
        | ',' :: rest =>
          let (ms, rest) ← readMembers fuel rest
          return (return (← key, v) :: (← ms), rest)
        | '\x7d' :: rest => return (return [(← key, v)], rest)
        | _ => none
      | _ => none
    | _ => none

end

/-- The value of a text that holds one value, with white space around it at most. The text may have
gaps. -/
def read? (cs : List Char) : Option Json := do
  let (v, rest) ← readValue (2 * cs.length + 2) cs
  if (skipSpace rest).isEmpty then some v else none

def parse? (s : String) : Option Json := if s.toList.contains gap then none else read? s.toList

end Wagebook.Json
