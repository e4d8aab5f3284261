import Wagebook.Text.Decimal
import Wagebook.Text.Percent

/-!
Request targets: a path with a query, and perhaps the server before them. Slashes at the end of a
path and repeated ones do not count.
-/

namespace Wagebook.Http

structure Target where
  /-- The scheme and the server, when the target names them. -/
  origin : List Char
  /-- Still with its escapes. -/
  path : List Char
  query : Option (List Char)
  deriving DecidableEq, Repr

namespace Target

/-- Keeps one of several slashes in a row. -/
def mergeSlashes : List Char → List Char
  | '/' :: '/' :: cs => mergeSlashes ('/' :: cs)
  | c :: cs => c :: mergeSlashes cs
  | [] => []

def trimSlashes (cs : List Char) : List Char := (cs.reverse.dropWhile (· = '/')).reverse

def normalPath (cs : List Char) : List Char :=
  match mergeSlashes (trimSlashes cs) with
  | [] => ['/']
  | cs => cs

def endsServer (c : Char) : Bool := c = '/' || c = '?' || c = '#'

def splitScheme : List Char → List Char × List Char
  | ':' :: '/' :: '/' :: cs => ([':', '/', '/'], cs)
  | c :: cs =>
    let (scheme, rest) := splitScheme cs
    (c :: scheme, rest)
  | [] => ([], [])

/-- The scheme and the server before a path, and the path. The usual schemes are written in lower
case. -/
def splitOrigin (cs : List Char) : List Char × List Char :=
  if cs.head? = some '/' ∨ cs = ['*'] then ([], cs)
  else
    let (scheme, rest) := splitScheme cs
    let lower := scheme.map Char.toLower
    let isUsual := ["http://".toList, "https://".toList].contains lower
    ((if isUsual then lower else scheme) ++ rest.takeWhile (!endsServer ·),
      rest.dropWhile (!endsServer ·))

/-- A target without its fragment, and with a normal path. A server without a scheme has no path. -/
def read (text : String) : Target :=
  let (origin, cs) := splitOrigin text.toList
  let cs := cs.takeWhile (· ≠ '#')
  let path := cs.takeWhile (· ≠ '?')
  let hasPath := origin.isEmpty || origin.contains '/'
  { origin
    path := if hasPath then normalPath path else path
    query :=
      match cs.dropWhile (· ≠ '?') with
      | _ :: query => some query
      | [] => none }

def text (t : Target) : String :=
  String.ofList (t.origin ++ t.path ++ t.query.elim [] ('?' :: ·))

/-- The bytes that stay escaped in the path that routes see: a percent sign, a slash and a plus. -/
def keptBytes : List UInt8 := [0x25, 0x2F, 0x2B]

def routed (t : Target) : List Char := Text.lossy 0 (Text.unescape keptBytes t.path)

/-- A parameter that a route has taken from a path, as a number of 64 bits. -/
def number? (segment : List Char) : Option Nat :=
  (Text.readNat 0x10000000000000000 (Text.lossy 0 (Text.unescape [] segment))).toOption

end Target
end Wagebook.Http
