import Wagebook.Address
import Wagebook.Compression.Container
import Wagebook.Http.Fault
import Wagebook.Http.MediaType
import Wagebook.Http.Target
import Wagebook.Json.Bytes
import Wagebook.Text.Blank
import Wagebook.Text.Decimal

/-!
Requests as they come in: their headers, their body, and the client that they are said to be from.
-/

namespace Wagebook.Http

structure Request where
  method : String
  target : Target
  headers : List (String × String)
  body : List UInt8
  /-- The other end of the connection, when it is known. -/
  peer : Option Address

/-- What reads the bodies whose packing is known here by name only. Without one, such a body cannot
be read. -/
structure Decoders where
  brotli : List UInt8 → Option (List UInt8) := fun _ => none
  zstd : List UInt8 → Option (List UInt8) := fun _ => none

namespace Request

def lower (s : String) : String := String.ofList (s.toList.map Char.toLower)

/-- The values of the headers of a name, in order. -/
def valuesOf (r : Request) (name : String) : List String :=
  r.headers.filterMap fun (n, value) => if lower n = name then some value else none

/-- Whether a header value is text: visible ASCII, blanks and tabs. -/
def isText (value : String) : Bool :=
  value.toList.all fun c => c = '\t' || (32 ≤ c.toNat && c.toNat < 127)

def header? (r : Request) (name : String) : Option String :=
  match r.valuesOf name with
  | value :: _ => if isText value then some value else none
  | [] => none

/-- A name and a value around the first equals sign. -/
def pair? (cs : List Char) : Option (List Char × List Char) :=
  match cs.dropWhile (· ≠ '=') with
  | _ :: value => some (cs.takeWhile (· ≠ '='), value)
  | [] => none

def unquote (cs : List Char) : List Char :=
  (((Text.trim cs).dropWhile (· = '"')).reverse.dropWhile (· = '"')).reverse

/-- An address without its port and without the brackets around it. -/
def bareAddress (cs : List Char) : List Char :=
  match cs with
  | '[' :: _ =>
    let bracketed := ((Address.splitMark [']', ':'] cs).map (·.1)).getD cs
    ((bracketed.dropWhile (· = '[')).reverse.dropWhile (· = ']')).reverse
  | cs => cs.takeWhile (· ≠ ':')

/-- The client that the first `for` in the forwarding headers names. -/
def forwardedFor? (r : Request) : Option (List Char) :=
  let parts := ((r.valuesOf "forwarded").filter isText).flatMap fun value =>
    (value.toList.splitOn ';').flatMap (·.splitOn ',')
  (parts.filterMap fun part => pair? (Text.trim part)).findSome? fun (name, value) =>
    if (Text.trim name).map Char.toLower = ['f', 'o', 'r'] then some (bareAddress (unquote value))
    else none

/-- The client as a log shows it: the one that a proxy names, else the peer. -/
def client (r : Request) : String :=
  match r.forwardedFor?, r.header? "x-forwarded-for" with
  | some client, _ => String.ofList client
  | none, some list => String.ofList (Text.trim (list.toList.takeWhile (· ≠ ',')))
  | none, none => (r.peer.map fun a => String.ofList a.text).getD "unknown"

/-- The most bytes of a body that are read. -/
def bodyLimit : Nat := 2 * 1024 * 1024

/-- How a body is packed for its way; other names than these say nothing. -/
inductive Coding
  | identity
  | gzip
  | zlib
  | brotli
  | zstd
  deriving DecidableEq, Repr

def Coding.ofName (name : String) : Coding :=
  match lower (String.ofList (Text.trim name.toList)) with
  | "gzip" => .gzip
  | "deflate" => .zlib
  | "br" => .brotli
  | "zstd" => .zstd
  | _ => .identity

def coding (r : Request) : Coding :=
  ((r.header? "content-encoding").map Coding.ofName).getD .identity

/-- The length that a body is said to have as it comes in. -/
def announced? (r : Request) : Option Nat :=
  (r.header? "content-length").bind fun value =>
    (Text.readNat 0x10000000000000000 value.toList).toOption

def unpacked? (r : Request) (decoders : Decoders) : Option (List UInt8) :=
  match r.coding with
  | .identity => some r.body
  | .gzip => Compression.Gzip.decode? bodyLimit r.body
  | .zlib => Compression.Zlib.decode? bodyLimit r.body
  | .brotli => decoders.brotli r.body
  | .zstd => decoders.zstd r.body

/-- The body unpacked, if it can be and is not too long. A packed one must not be said to be too
long before either; a plain one is as long as it is said to be. -/
def content? (r : Request) (decoders : Decoders) : Option (List UInt8) :=
  if r.coding ≠ .identity ∧ bodyLimit < r.announced?.getD 0 then none
  else (r.unpacked? decoders).filter (·.length ≤ bodyLimit)

def json? (r : Request) (decoders : Decoders) (ofJson? : Json → Option α) : Except Fault α :=
  if ((r.header? "content-type").map MediaType.isJson).getD false then
    match ((r.content? decoders).bind Json.ofBytes?).bind ofJson? with
    | some a => .ok a
    | none => .error .malformedBody
  else .error .malformedBody

end Request
end Wagebook.Http
