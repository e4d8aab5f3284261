import Wagebook.Text.Decimal
import Wagebook.Text.Hex

/-!
Addresses of clients, as text and as what a limit counts by.
-/

namespace Wagebook

inductive Address
  /-- Four bytes. -/
  | v4 (bytes : List Nat)
  /-- Eight groups of two bytes. -/
  | v6 (groups : List Nat)
  deriving DecidableEq, Repr

namespace Address

/-- What stands for the client: the address, or the network that an address of the longer kind
belongs to, which is its first seven bytes. -/
def network : Address → Address
  | .v4 bytes => .v4 bytes
  | .v6 [a, b, c, d, _, _, _, _] => .v6 [a, b, c, d / 256 * 256, 0, 0, 0, 0]
  | .v6 groups => .v6 groups

def dotted (bytes : List Nat) : List Char := ['.'].intercalate (bytes.map Text.ofNat)

def colons (groups : List Nat) : List Char := [':'].intercalate (groups.map Text.hex)

def zerosFrom (groups : List Nat) : Nat := (groups.takeWhile (· = 0)).length

/-- The start and length of the longest run of zeros, the first of several. -/
def longestZeros (groups : List Nat) : Nat × Nat :=
  (List.range groups.length).foldl
    (fun best i =>
      let n := zerosFrom (groups.drop i)
      if best.2 < n then (i, n) else best)
    (0, 0)

/-- The shortest text of an address; one that holds an address of the shorter kind shows it. -/
def text : Address → List Char
  | .v4 bytes => dotted bytes
  | .v6 [0, 0, 0, 0, 0, 0xffff, g, h] =>
    "::ffff:".toList ++ dotted [g / 256, g % 256, h / 256, h % 256]
  | .v6 groups =>
    let (start, n) := longestZeros groups
    if n ≤ 1 then colons groups
    else colons (groups.take start) ++ ':' :: ':' :: colons (groups.drop (start + n))

def byte? (cs : List Char) : Option Nat :=
  if 1 ≤ cs.length ∧ cs.length ≤ 3 ∧ cs.all Text.isDigit ∧ (cs.head? = some '0' → cs = ['0']) ∧
      Text.valueOfDigits cs < 256 then some (Text.valueOfDigits cs)
  else none

def bytes? (cs : List Char) : Option (List Nat) := do
  let bytes ← (cs.splitOn '.').mapM byte?
  if bytes.length = 4 then some bytes else none

def group? (cs : List Char) : Option Nat := do
  if cs.isEmpty ∨ 4 < cs.length then none
  return (← cs.mapM Text.hexValue?).foldl (fun n d => n * 16 + d) 0

/-- Groups between colons at the end of an address, of which the last may be spelled as four
bytes. -/
def lastGroups? (parts : List (List Char)) : Option (List Nat) := do
  match ← (parts.getLast?).bind bytes? with
  | [a, b, c, d] =>
    return (← parts.dropLast.mapM group?) ++ [a * 256 + b, c * 256 + d]
  | _ => none

def groups? (parts : List (List Char)) : Option (List Nat) :=
  (parts.mapM group?).orElse fun _ => lastGroups? parts

def partsOf (cs : List Char) : List (List Char) := if cs.isEmpty then [] else cs.splitOn ':'

/-- The texts around the first occurrence of a mark. -/
def splitMark (mark : List Char) : List Char → Option (List Char × List Char)
  | [] => none
  | c :: rest =>
    if mark.isPrefixOf (c :: rest) then some ([], (c :: rest).drop mark.length)
    else (splitMark mark rest).map fun (before, after) => (c :: before, after)

def v6? (cs : List Char) : Option Address := do
  match splitMark [':', ':'] cs with
  | none =>
    let groups ← groups? (partsOf cs)
    if groups.length = 8 then some (.v6 groups) else none
  | some (before, after) =>
    let before ← (partsOf before).mapM group?
    let after ← groups? (partsOf after)
    let known := before.length + after.length
    if known < 8 then some (.v6 (before ++ List.replicate (8 - known) 0 ++ after)) else none

/-- A number of 32 bits that says which of the networks an address is in. -/
def isScope (cs : List Char) : Bool :=
  !cs.isEmpty && cs.all Text.isDigit && Text.valueOfDigits cs < 0x100000000

/-- The address of a peer that is given with its port. -/
def ofPeer? (peer : String) : Option Address :=
  match peer.toList with
  | '[' :: cs =>
    let inner := cs.takeWhile (· ≠ ']')
    match inner.dropWhile (· ≠ '%') with
    | _ :: scope => if isScope scope then v6? (inner.takeWhile (· ≠ '%')) else none
    | [] => v6? inner
  | cs => (bytes? (cs.takeWhile (· ≠ ':'))).map .v4

end Address
end Wagebook
