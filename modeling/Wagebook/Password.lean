import Wagebook.Password.HashText
import Wagebook.Text.Utf8

/-!
Checking a password against the hash that is stored for it.
-/

namespace Wagebook.Password

def variant? (name : List Char) : Option Argon2.Variant :=
  if name = "argon2d".toList then some .d
  else if name = "argon2i".toList then some .i
  else if name = "argon2id".toList then some .id
  else none

def version? : Option Nat → Option Argon2.Version
  | none => some .v19
  | some 19 => some .v19
  | some 16 => some .v16
  | _ => none

def bytesWithin? (limit : Nat) (value : List Char) : Option (List UInt8) := do
  let bytes ← Text.Base64.standard.decode? value
  if bytes.length ≤ limit then some bytes else none

/-- The cost with one more parameter; of two with the same name the later one counts. -/
def withParam? (cost : Argon2.Cost) : List Char × List Char → Option Argon2.Cost
  | (name, value) =>
    if name = ['m'] then do return { cost with memory := ← HashText.number? value }
    else if name = ['t'] then do return { cost with passes := ← HashText.number? value }
    else if name = ['p'] then do return { cost with lanes := ← HashText.number? value }
    else if name = "keyid".toList then do
      let _ ← bytesWithin? 8 value
      return cost
    else if name = "data".toList then do return { cost with data := ← bytesWithin? 32 value }
    else none

/-- The job that a hash asks for, and its salt. -/
def job? (h : HashText) (salt : List Char) : Option (Argon2.Job × List UInt8) := do
  let variant ← variant? h.algorithm
  let version ← version? h.version
  let cost ← h.params.foldlM withParam? {}
  if ¬ cost.Valid then none
  let salt ← Text.Base64.standard.decode? salt
  if salt.length < 8 then none
  return ({ variant, version, cost }, salt)

/-- Whether a password fits a hash; nothing when the hash cannot be used. No password fits one that
lacks salt or output. -/
def matches? (password hash : String) : Option Bool := do
  let h ← HashText.read? hash.toList
  match h.salt, h.output with
  | some salt, some output =>
    let (job, salt) ← job? h salt
    return Argon2.digest job (Text.utf8 password) salt output.length == output
  | _, _ => return false

end Wagebook.Password
