import Wagebook.Compression.Deflate
import Wagebook.Digest.Checksum

/-!
The two containers of deflated data: a header, the data, and a checksum of what they stand for.
-/

namespace Wagebook.Compression

/-- A number of four bytes, the least one first. -/
def littleEndian (bytes : List UInt8) : UInt32 :=
  bytes.foldr (fun byte n => n * 256 + byte.toUInt32) 0

def bigEndian (bytes : List UInt8) : UInt32 :=
  bytes.foldl (fun n byte => n * 256 + byte.toUInt32) 0

namespace Gzip

/-- What follows a text that ends in a zero. -/
def skipText? (bytes : List UInt8) : Option (List UInt8) :=
  match bytes.dropWhile (· ≠ 0) with
  | _ :: rest => some rest
  | [] => none

/-- What follows a field that tells its own length. -/
def skipField? : List UInt8 → Option (List UInt8)
  | a :: b :: rest =>
    let length := a.toNat + 256 * b.toNat
    if length ≤ rest.length then some (rest.drop length) else none
  | _ => none

/-- What follows the two bytes that guard a header. -/
def skipGuard? (whole : List UInt8) : List UInt8 → Option (List UInt8)
  | a :: b :: rest =>
    let header := whole.take (whole.length - rest.length - 2)
    if Digest.crc32 header &&& 0xFFFF = littleEndian [a, b] then some rest else none
  | _ => none

/-- What follows the header: a mark, the method, flags, six bytes about the file, and what the flags
announce. -/
def skipHeader? (bytes : List UInt8) : Option (List UInt8) := do
  match bytes with
  | 0x1F :: 0x8B :: 8 :: flags :: _ :: _ :: _ :: _ :: _ :: _ :: rest =>
    let announces (flag : UInt8) : Bool := flags &&& flag != 0
    if announces 0xE0 then none
    let rest ← if announces 4 then skipField? rest else some rest
    let rest ← if announces 8 then skipText? rest else some rest
    let rest ← if announces 16 then skipText? rest else some rest
    if announces 2 then skipGuard? bytes rest else some rest
  | _ => none

/-- The bytes in a container; nothing follows it. -/
def decode? (limit : Nat) (bytes : List UInt8) : Option (List UInt8) := do
  let (out, rest) ← Deflate.decode? limit (← skipHeader? bytes)
  let length := UInt32.ofNat out.length
  if rest.length = 8 ∧ littleEndian (rest.take 4) = Digest.crc32 out ∧
      littleEndian (rest.drop 4) = length then some out
  else none

end Gzip

namespace Zlib

/-- The bytes in a container; nothing follows it. -/
def decode? (limit : Nat) (bytes : List UInt8) : Option (List UInt8) := do
  match bytes with
  | method :: flags :: data =>
    let isHeader := (method.toNat * 256 + flags.toNat) % 31 = 0 ∧ method &&& 15 = 8
      ∧ method.toNat < 128 ∧ flags &&& 32 = 0
    if ¬ isHeader then none
    let (out, rest) ← Deflate.decode? limit data
    if rest.length = 4 ∧ bigEndian rest = Digest.adler32 out then some out else none
  | _ => none

end Zlib
end Wagebook.Compression
