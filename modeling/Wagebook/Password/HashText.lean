import Wagebook.Password.Argon2
import Wagebook.Text.Base64
import Wagebook.Text.Decimal

/-!
Password hashes as text: an algorithm, a version, parameters, a salt and an output, each after a
dollar sign. All but the algorithm may be left out, from the end or, for version and parameters,
from the middle.
-/

namespace Wagebook

/-- The fields of a hash, as they are spelled. -/
structure HashText where
  algorithm : List Char
  version : Option Nat
  params : List (List Char × List Char)
  salt : Option (List Char)
  output : Option (List UInt8)

namespace HashText

def isNameChar (c : Char) : Bool := ('a' ≤ c && c ≤ 'z') || Text.isDigit c || c = '-'

def isName (cs : List Char) : Bool := 1 ≤ cs.length && cs.length ≤ 32 && cs.all isNameChar

def isValueChar (c : Char) : Bool :=
  ('a' ≤ c && c ≤ 'z') || ('A' ≤ c && c ≤ 'Z') || Text.isDigit c || c = '/' || c = '+' ||
    c = '.' || c = '-'

def isValue (cs : List Char) : Bool := cs.length ≤ 64 && cs.all isValueChar

/-- A number of 32 bits, without zeros in front. -/
def number? (cs : List Char) : Option Nat :=
  let n := Text.valueOfDigits cs
  if isValue cs ∧ cs ≠ [] ∧ cs.all Text.isDigit ∧ (cs.head? = some '0' → cs = ['0']) ∧
      n < 0x100000000 then some n
  else none

def version? (field : List Char) : Option (List Char) :=
  match field with
  | 'v' :: '=' :: value => if field.contains ',' then none else some value
  | _ => none

def param? (part : List Char) : Option (List Char × List Char) :=
  match part.splitOn '=' with
  | [name, value] => if isName name && isValue value then some (name, value) else none
  | _ => none

def params? (field : List Char) : Option (List (List Char × List Char)) :=
  if field.length ≤ 127 then (field.splitOn ',').mapM param? else none

def isSalt (field : List Char) : Bool := 4 ≤ field.length && isValue field

def output? (field : List Char) : Option (List UInt8) := do
  let bytes ← Text.Base64.standard.decode? field
  if 10 ≤ bytes.length ∧ bytes.length ≤ 64 then some bytes else none

/-- What follows the parameters. -/
def readEnd (h : HashText) : List (List Char) → Option HashText
  | [] => some h
  | [salt] => if isSalt salt then some { h with salt := some salt } else none
  | [salt, output] => do
    if !isSalt salt then none
    return { h with salt := some salt, output := some (← output? output) }
  | _ => none

/-- What follows the version. -/
def readParams (h : HashText) : List (List Char) → Option HashText
  | field :: fields =>
    if field.contains '=' then do readEnd { h with params := ← params? field } fields
    else readEnd h (field :: fields)
  | [] => some h

def readVersion (h : HashText) : List (List Char) → Option HashText
  | field :: fields =>
    match version? field with
    | some value => do readParams { h with version := some (← number? value) } fields
    | none => readParams h (field :: fields)
  | [] => some h

def read? (cs : List Char) : Option HashText :=
  match cs.splitOn '$' with
  | [] :: algorithm :: fields =>
    if isName algorithm then readVersion ⟨algorithm, none, [], none, none⟩ fields else none
  | _ => none

end HashText
end Wagebook
