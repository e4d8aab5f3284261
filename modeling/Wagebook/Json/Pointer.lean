import Wagebook.Json.Basic
import Wagebook.Text.Decimal

/-!
Pointers into a JSON value: a slash before each key or index on the way.
-/

namespace Wagebook.Json

/-- A part of a pointer as a key; `~1` spells a slash and `~0` a tilde. -/
def pointerKey : List Char → List Char
  | '~' :: '1' :: cs => '/' :: pointerKey cs
  | '~' :: '0' :: cs => '~' :: pointerKey cs
  | c :: cs => c :: pointerKey cs
  | [] => []

def pointerIndex? (cs : List Char) : Option Nat :=
  if cs = [] ∨ (cs.head? = some '0' ∧ cs ≠ ['0']) ∨ ¬ cs.all Text.isDigit then none
  else some (Text.valueOfDigits cs)

def child? (part : List Char) : Json → Option Json
  | .obj members => (membersNamed (String.ofList (pointerKey part)) members).head?
  | .arr items => do items[← pointerIndex? part]?
  | _ => none

def at? (v : Json) (pointer : String) : Option Json :=
  match pointer.toList with
  | [] => some v
  | '/' :: cs => (cs.splitOn '/').foldlM (fun v part => child? part v) v
  | _ => none

end Wagebook.Json
