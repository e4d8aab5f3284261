import Wagebook.Address
import Wagebook.Text.Domain
import Wagebook.Text.Percent

/-!
Hosts in the addresses of databases. The schemes of the web have hosts by name or number; with
others nothing is known of a host but the characters that it cannot hold.
-/

namespace Wagebook.DatabaseUrl

inductive Fault
  /-- There is no scheme. -/
  | relative
  | port
  | ipv4
  | ipv6
  | hostEmpty
  | hostCharacter
  /-- The host is no name, in whatever script. -/
  | hostName
  deriving DecidableEq, Repr

def Fault.message : Fault → String
  | .relative => "relative URL without a base"
  | .port => "invalid port number"
  | .ipv4 => "invalid IPv4 address"
  | .ipv6 => "invalid IPv6 address"
  | .hostEmpty => "empty host"
  | .hostCharacter => "invalid domain character"
  | .hostName => "invalid international domain name"

/-- What went wrong, from the outside in. -/
def Fault.messages (fault : Fault) : List String :=
  ["failed to connect to database", "error with configuration: " ++ fault.message, fault.message]

/-- A number in base 16 after `0x`, in base 8 after another zero, and else in base 10. Nothing after
the mark is zero. -/
def number? (cs : List Char) : Option Nat :=
  let read (base : Nat) (cs : List Char) : Option Nat := do
    let digits ← cs.mapM Text.hexValue?
    if digits.all (· < base) then some (digits.foldl (fun n d => n * base + d) 0) else none
  match cs with
  | [] => none
  | '0' :: 'x' :: cs => read 16 cs
  | '0' :: 'X' :: cs => read 16 cs
  | '0' :: c :: cs => read 8 (c :: cs)
  | cs => read 10 cs

/-- The parts of a name between dots, of which one at the end does not count. -/
def parts (name : List Char) : List (List Char) :=
  match (name.splitOn '.').reverse with
  | [] :: before => before.reverse
  | reversed => reversed.reverse

/-- A name whose last part is a number has to be an address. -/
def isNumeric (name : List Char) : Bool :=
  match (parts name).getLast? with
  | some part => (number? part).isSome || (!part.isEmpty && part.all Text.isDigit)
  | none => false

/-- Up to four numbers, of which the last takes the place of all those that are missing. -/
def isV4 (name : List Char) : Bool :=
  match (parts name).mapM number? with
  | some numbers =>
    match numbers.reverse with
    | [] => false
    | last :: before => before.length < 4 && before.all (· < 256)
        && last < 1 <<< (32 - 8 * before.length)
  | none => false

def checkV6 (inner : List Char) : Except Fault Unit :=
  if inner.getLast? = some ']' ∧ (Address.v6? inner.dropLast).isSome then .ok () else .error .ipv6

def checkNamed : List Char → Except Fault Unit
  | '[' :: inner => checkV6 inner
  | host =>
    match (Text.ofUtf8? (Text.unescape [] host)).bind fun name => Text.Domain.normal? name.toList with
    | none => .error .hostName
    | some [] => .error .hostEmpty
    | some name => if isNumeric name ∧ ¬ isV4 name then .error .ipv4 else .ok ()

def isHostChar (c : Char) : Bool :=
  !("\x00\t\n\r #/:<>?@[\\]^|".contains c)

def checkOpaque : List Char → Except Fault Unit
  | '[' :: inner => checkV6 inner
  | host => if host.all isHostChar then .ok () else .error .hostCharacter

end Wagebook.DatabaseUrl
