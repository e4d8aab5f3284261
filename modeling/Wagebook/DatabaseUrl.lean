import Wagebook.DatabaseUrl.Host

/-!
Addresses of databases. Before a connection is tried, the address has to be one: a scheme, and after
two slashes a host with a port. The schemes of the web need a host, take backslashes for slashes,
and any number of them.
-/

namespace Wagebook.DatabaseUrl

inductive Scheme
  | web
  | file
  | other
  deriving DecidableEq, Repr

def Scheme.ofName (name : List Char) : Scheme :=
  let name := String.ofList (name.map Char.toLower)
  if ["http", "https", "ws", "wss", "ftp"].contains name then .web
  else if name = "file" then .file
  else .other

def isLetter (c : Char) : Bool := ('a' ≤ c && c ≤ 'z') || ('A' ≤ c && c ≤ 'Z')

def isSchemeChar (c : Char) : Bool :=
  isLetter c || Text.isDigit c || c = '+' || c = '-' || c = '.'

/-- Without control characters and blanks around it, and without tabs and line ends in it. -/
def cleaned (cs : List Char) : List Char :=
  let isOuter (c : Char) : Bool := c.toNat ≤ 0x20
  let inner := ((cs.dropWhile isOuter).reverse.dropWhile isOuter).reverse
  inner.filter fun c => c ≠ '\t' ∧ c ≠ '\n' ∧ c ≠ '\r'

/-- The scheme, and what follows it. -/
def splitScheme? (cs : List Char) : Option (Scheme × List Char) :=
  match cs.takeWhile isSchemeChar, cs.dropWhile isSchemeChar with
  | c :: name, ':' :: rest => if isLetter c then some (.ofName (c :: name), rest) else none
  | _, _ => none

/-- A slash, or what counts as one but with schemes that nothing is known of. -/
def isSlash (scheme : Scheme) (c : Char) : Bool := c = '/' || (scheme != .other && c = '\\')

def endsAuthority (scheme : Scheme) (c : Char) : Bool :=
  isSlash scheme c || c = '?' || c = '#'

/-- What stands before the last at-sign, if there is one, and what stands after it. -/
def splitUser (authority : List Char) : Option (List Char) × List Char :=
  match authority.reverse.dropWhile (· ≠ '@') with
  | _ :: before => (some before.reverse, (authority.reverse.takeWhile (· ≠ '@')).reverse)
  | [] => (none, authority)

/-- The host, and what follows it; the colons in brackets belong to the host. -/
def splitHost : Bool → List Char → List Char × List Char
  | _, [] => ([], [])
  | inside, c :: cs =>
    if c = ':' ∧ ¬ inside then ([], c :: cs)
    else
      let inside := if c = '[' then true else if c = ']' then false else inside
      let (host, rest) := splitHost inside cs
      (c :: host, rest)

/-- A port, which a backslash ends like a slash. -/
def checkPort (cs : List Char) : Except Fault Unit :=
  let digits := cs.takeWhile (· ≠ '\\')
  if digits.all Text.isDigit ∧ Text.valueOfDigits digits < 0x10000 then .ok () else .error .port

/-- Whether what follows the slashes begins with a user, a host and a port. -/
def checkAuthority (scheme : Scheme) (cs : List Char) : Except Fault Unit := do
  let authority := cs.takeWhile (!endsAuthority scheme ·)
  let (user, rest) := splitUser authority
  if user = some [] ∧ rest.isEmpty ∧ authority.length < cs.length then throw .hostEmpty
  let (host, rest) := splitHost false rest
  if scheme = .other then checkOpaque host
  else if host.isEmpty then throw .hostEmpty
  else checkNamed host
  match rest with
  | ':' :: port =>
    if host.isEmpty then throw .hostEmpty
    checkPort port
  | _ => if host.isEmpty ∧ ¬ [none, some [], some [':']].contains user then throw .hostEmpty

/-- A file may be on no host, or on a drive with a letter in place of one. -/
def checkFile (cs : List Char) : Except Fault Unit :=
  match cs.takeWhile (!endsAuthority .file ·) with
  | [] => .ok ()
  | [c, mark] =>
    if isLetter c ∧ (mark = ':' ∨ mark = '|') then .ok () else checkNamed [c, mark]
  | host => checkNamed host

/-- Whether a text is an address that a connection can be tried at. -/
def check (url : String) : Except Fault Unit :=
  match splitScheme? (cleaned url.toList) with
  | none => .error .relative
  | some (.web, rest) => checkAuthority .web (rest.dropWhile (isSlash .web))
  | some (.file, a :: b :: rest) =>
    if isSlash .file a ∧ isSlash .file b then checkFile rest else .ok ()
  | some (.other, '/' :: '/' :: rest) => checkAuthority .other rest
  | some _ => .ok ()

end Wagebook.DatabaseUrl
