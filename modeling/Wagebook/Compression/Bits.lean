/-!
Bits of bytes, each byte's least bit first.
-/

namespace Wagebook.Compression

structure Bits where
  /-- What is left of the byte in hand. -/
  begun : List Bool
  bytes : List UInt8

namespace Bits

def ofBytes (bytes : List UInt8) : Bits := ⟨[], bytes⟩

def bitsOf (byte : UInt8) : List Bool := (List.range 8).map fun i => byte.toNat.testBit i

def next? : Bits → Option (Bool × Bits)
  | ⟨bit :: begun, bytes⟩ => some (bit, ⟨begun, bytes⟩)
  | ⟨[], byte :: bytes⟩ => some (byte.toNat.testBit 0, ⟨(bitsOf byte).drop 1, bytes⟩)
  | ⟨[], []⟩ => none

/-- A number of `width` bits, its least bit first. -/
def number? : Nat → Bits → Option (Nat × Bits)
  | 0, bits => some (0, bits)
  | width + 1, bits => do
    let (bit, bits) ← bits.next?
    let (n, bits) ← number? width bits
    return (2 * n + bit.toNat, bits)

end Bits
end Wagebook.Compression
