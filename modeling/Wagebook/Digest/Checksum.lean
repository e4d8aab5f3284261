/-!
Checksums of bytes, which tell whether data were damaged.
-/

namespace Wagebook.Digest

/-- One step of division by the polynomial of CRC-32, whose bits are in reverse. -/
def crcStep (n : UInt32) : UInt32 :=
  if n &&& 1 = 1 then (n >>> 1) ^^^ 0xEDB88320 else n >>> 1

def crc32 (bytes : List UInt8) : UInt32 :=
  ~~~(bytes.foldl (fun n byte => (List.range 8).foldl (fun n _ => crcStep n) (n ^^^ byte.toUInt32))
    0xFFFFFFFF)

/-- The sum of the bytes, and the sum of the sums so far, modulo the largest prime below 2¹⁶. -/
def adler32 (bytes : List UInt8) : UInt32 :=
  let (low, high) := bytes.foldl
    (fun (low, high) byte =>
      let low := (low + byte.toNat) % 65521
      (low, (high + low) % 65521))
    (1, 0)
  UInt32.ofNat (high * 65536 + low)

end Wagebook.Digest
