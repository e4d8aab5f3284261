/-!
BLAKE2b: a digest of 1 to 64 bytes, without a key.
-/

namespace Wagebook.Digest

namespace Blake2b

def initial : Array UInt64 :=
  #[0x6a09e667f3bcc908, 0xbb67ae8584caa73b, 0x3c6ef372fe94f82b, 0xa54ff53a5f1d36f1,
    0x510e527fade682d1, 0x9b05688c2b3e6c1f, 0x1f83d9abfb41bd6b, 0x5be0cd19137e2179]

/-- The order in which each round takes the words of a block. -/
def orders : List (List Nat) :=
  [[0, 1, 2, 3, 4, 5, 6, 7, 8, 9, 10, 11, 12, 13, 14, 15],
   [14, 10, 4, 8, 9, 15, 13, 6, 1, 12, 0, 2, 11, 7, 5, 3],
   [11, 8, 12, 0, 5, 2, 15, 13, 10, 14, 3, 6, 7, 1, 9, 4],
   [7, 9, 3, 1, 13, 12, 11, 14, 2, 6, 5, 10, 4, 0, 15, 8],
   [9, 0, 5, 7, 2, 4, 10, 15, 14, 1, 11, 12, 6, 8, 3, 13],
   [2, 12, 6, 10, 0, 11, 8, 3, 4, 13, 7, 5, 15, 14, 1, 9],
   [12, 5, 1, 15, 14, 13, 4, 10, 0, 7, 6, 3, 9, 2, 8, 11],
   [13, 11, 7, 14, 12, 1, 3, 9, 5, 0, 15, 4, 8, 6, 2, 10],
   [6, 15, 14, 9, 11, 3, 0, 8, 12, 2, 13, 7, 1, 4, 10, 5],
   [10, 2, 8, 4, 7, 6, 1, 5, 15, 11, 9, 14, 3, 12, 13, 0],
   [0, 1, 2, 3, 4, 5, 6, 7, 8, 9, 10, 11, 12, 13, 14, 15],
   [14, 10, 4, 8, 9, 15, 13, 6, 1, 12, 0, 2, 11, 7, 5, 3]]

/-- The columns of the four by four words, then the diagonals. -/
def quarters : List (Nat × Nat × Nat × Nat) :=
  [(0, 4, 8, 12), (1, 5, 9, 13), (2, 6, 10, 14), (3, 7, 11, 15),
   (0, 5, 10, 15), (1, 6, 11, 12), (2, 7, 8, 13), (3, 4, 9, 14)]

@[inline] def rotr (x : UInt64) (n : UInt64) : UInt64 := (x >>> n) ||| (x <<< (64 - n))

/-- Mixes two words of the block into a quarter of the working words. -/
def mix (v : Array UInt64) (q : Nat × Nat × Nat × Nat) (x y : UInt64) : Array UInt64 :=
  let (i, j, k, l) := q
  let a := v[i]! + v[j]! + x
  let d := rotr (v[l]! ^^^ a) 32
  let c := v[k]! + d
  let b := rotr (v[j]! ^^^ c) 24
  let a := a + b + y
  let d := rotr (d ^^^ a) 16
  let c := c + d
  let b := rotr (b ^^^ c) 63
  (((v.set! i a).set! j b).set! k c).set! l d

def mixAll (block : Array UInt64) :
    List (Nat × Nat × Nat × Nat) → List Nat → Array UInt64 → Array UInt64
  | q :: qs, x :: y :: order, v => mixAll block qs order (mix v q block[x]! block[y]!)
  | _, _, v => v

/-- A word of eight bytes, the least significant first. -/
def word (bytes : List UInt8) : UInt64 :=
  bytes.foldr (fun b n => n * 256 + b.toUInt64) 0

def words (block : List UInt8) : Array UInt64 :=
  ((List.range 16).map fun i => word ((block.drop (8 * i)).take 8)).toArray

/-- Absorbs one block, `count` being the bytes of the message up to its end. -/
def absorb (h : Array UInt64) (block : List UInt8) (count : Nat) (last : Bool) : Array UInt64 :=
  let v := h ++ initial
  let v := v.set! 12 (v[12]! ^^^ UInt64.ofNat count)
  let v := v.set! 13 (v[13]! ^^^ UInt64.ofNat (count >>> 64))
  let v := if last then v.set! 14 (~~~v[14]!) else v
  let v := orders.foldl (fun v order => mixAll (words block) quarters order v) v
  ((List.range 8).map fun i => h[i]! ^^^ v[i]! ^^^ v[i + 8]!).toArray

def blockSize : Nat := 128

/-- Absorbs what is left of a message after `count` bytes; `n` bounds its blocks. -/
def absorbAll : Nat → List UInt8 → Nat → Array UInt64 → Array UInt64
  | 0, message, count, h =>
    let fill := List.replicate (blockSize - message.length) 0
    absorb h (message ++ fill) (count + message.length) true
  | n + 1, message, count, h =>
    absorbAll n (message.drop blockSize) (count + blockSize)
      (absorb h (message.take blockSize) (count + blockSize) false)

def littleEndian (width n : Nat) : List UInt8 :=
  (List.range width).map fun i => UInt8.ofNat (n >>> (8 * i))

def bytes (ws : List UInt64) : List UInt8 := ws.flatMap fun w => littleEndian 8 w.toNat

end Blake2b

def blake2b (size : Nat) (message : List UInt8) : List UInt8 :=
  let h := Blake2b.initial.set! 0 (Blake2b.initial[0]! ^^^ UInt64.ofNat (0x01010000 + size))
  let blocks := (message.length - 1) / Blake2b.blockSize
  (Blake2b.bytes (Blake2b.absorbAll blocks message 0 h).toList).take size

end Wagebook.Digest
