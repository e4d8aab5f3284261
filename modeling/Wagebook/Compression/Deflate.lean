import Wagebook.Compression.Code

/-!
Deflated data: blocks that hold bytes as they are, or symbols in prefix codes. A symbol is a byte,
the end of its block, or the length of a piece that was there before, after which follows how far
back.
-/

namespace Wagebook.Compression.Deflate

/-- Appends a piece that begins `distance` bytes back, and may run into itself. -/
def copy (distance : Nat) : Nat → Array UInt8 → Array UInt8
  | 0, out => out
  | length + 1, out => copy distance length (out.push (out.getD (out.size - distance) 0))

/-- The lengths that symbols from 257 on begin at, and how many bits tell how much is added. -/
def lengths : List (Nat × Nat) :=
  [(3, 0), (4, 0), (5, 0), (6, 0), (7, 0), (8, 0), (9, 0), (10, 0), (11, 1), (13, 1), (15, 1),
    (17, 1), (19, 2), (23, 2), (27, 2), (31, 2), (35, 3), (43, 3), (51, 3), (59, 3), (67, 4),
    (83, 4), (99, 4), (115, 4), (131, 5), (163, 5), (195, 5), (227, 5), (258, 0)]

def distances : List (Nat × Nat) :=
  [(1, 0), (2, 0), (3, 0), (4, 0), (5, 1), (7, 1), (9, 2), (13, 2), (17, 3), (25, 3), (33, 4),
    (49, 4), (65, 5), (97, 5), (129, 6), (193, 6), (257, 7), (385, 7), (513, 8), (769, 8),
    (1025, 9), (1537, 9), (2049, 10), (3073, 10), (4097, 11), (6145, 11), (8193, 12), (12289, 12),
    (16385, 13), (24577, 13)]

/-- A number that is told by its beginning and what is added. -/
def readAmount? (table : List (Nat × Nat)) (i : Nat) (bits : Bits) : Option (Nat × Bits) := do
  let (least, width) ← table[i]?
  let (more, bits) ← bits.number? width
  return (least + more, bits)

/-- The symbol that ends a block. -/
def endSymbol : Nat := 256

/-- Reads symbols up to the end of their block. There must not be more than `limit` bytes. -/
def readSymbols (limit : Nat) (symbolCode distanceCode : Code) :
    Nat → Array UInt8 → Bits → Option (Array UInt8 × Bits)
  | 0, _, _ => none
  | fuel + 1, out, bits => do
    if limit < out.size then none
    let (n, bits) ← symbolCode.read? bits
    if n < endSymbol then
      readSymbols limit symbolCode distanceCode fuel (out.push (UInt8.ofNat n)) bits
    else if n = endSymbol then some (out, bits)
    else
      let (length, bits) ← readAmount? lengths (n - endSymbol - 1) bits
      let (i, bits) ← distanceCode.read? bits
      let (distance, bits) ← readAmount? distances i bits
      if out.size < distance then none
      else readSymbols limit symbolCode distanceCode fuel (copy distance length out) bits

/-- The code of symbols that needs no telling. -/
def fixedSymbols : Option Code :=
  Code.ofLengths? false (List.replicate 144 8 ++ List.replicate 112 9 ++ List.replicate 24 7
    ++ List.replicate 8 8)

def fixedDistances : Option Code := Code.ofLengths? false (List.replicate 32 5)

/-- The order in which the lengths of the code for lengths are told. -/
def lengthOrder : List Nat := [16, 17, 18, 0, 8, 7, 9, 6, 10, 5, 11, 4, 12, 3, 13, 2, 14, 1, 15]

def readTriples? : Nat → Bits → Option (List Nat × Bits)
  | 0, bits => some ([], bits)
  | count + 1, bits => do
    let (n, bits) ← bits.number? 3
    let (rest, bits) ← readTriples? count bits
    return (n :: rest, bits)

/-- Reads `count` lengths of codes, of which the last comes first in `seen`: single ones, repeated
ones, and zeros. -/
def readLengths? (code : Code) (count : Nat) : Nat → List Nat → Bits → Option (List Nat × Bits)
  | 0, _, _ => none
  | fuel + 1, seen, bits =>
    if count < seen.length then none
    else if seen.length = count then some (seen.reverse, bits)
    else do
      let (n, bits) ← code.read? bits
      if n < 16 then readLengths? code count fuel (n :: seen) bits
      else if n = 16 then
        let last ← seen.head?
        let (more, bits) ← bits.number? 2
        readLengths? code count fuel (List.replicate (3 + more) last ++ seen) bits
      else
        let (more, bits) ← bits.number? (if n = 17 then 3 else 7)
        let times := (if n = 17 then 3 else 11) + more
        readLengths? code count fuel (List.replicate times 0 ++ seen) bits

def readCodes? (bits : Bits) : Option (Code × Code × Bits) := do
  let (symbols, bits) ← bits.number? 5
  let (distances, bits) ← bits.number? 5
  let (told, bits) ← bits.number? 4
  let symbols := symbols + 257
  let distances := distances + 1
  if 286 < symbols ∨ 30 < distances then none
  let (triples, bits) ← readTriples? (told + 4) bits
  let told := lengthOrder.zip triples
  let code ← Code.ofLengths? false ((List.range 19).map fun n => (told.lookup n).getD 0)
  let (lengths, bits) ← readLengths? code (symbols + distances) (symbols + distances + 1) [] bits
  return (← Code.ofLengths? true (lengths.take symbols),
    ← Code.ofLengths? true (lengths.drop symbols), bits)

/-- Bytes as they are, after their number and the complement of it. -/
def readStored? (limit : Nat) (out : Array UInt8) (bits : Bits) : Option (Array UInt8 × Bits) :=
  match bits.bytes with
  | a :: b :: c :: d :: bytes =>
    let count := a.toNat + 256 * b.toNat
    let stored := bytes.take count
    if c = ~~~a ∧ d = ~~~b ∧ stored.length = count ∧ out.size + count ≤ limit then
      some (out ++ stored, .ofBytes (bytes.drop count))
    else none
  | _ => none

/-- Reads blocks up to the last one. What is left of its last byte means nothing. -/
def readBlocks? (limit : Nat) : Nat → Array UInt8 → Bits → Option (Array UInt8 × List UInt8)
  | 0, _, _ => none
  | fuel + 1, out, bits => do
    let (isLast, bits) ← bits.next?
    let (kind, bits) ← bits.number? 2
    let (out, bits) ←
      match kind with
      | 0 => readStored? limit out bits
      | 1 => do readSymbols limit (← fixedSymbols) (← fixedDistances) fuel out bits
      | 2 => do
        let (symbols, distances, bits) ← readCodes? bits
        readSymbols limit symbols distances fuel out bits
      | _ => none
    if isLast then some (out, bits.bytes) else readBlocks? limit fuel out bits

/-- The bytes that deflated data stand for, and what follows the data. No block and no symbol takes
less than one bit. There is nothing if there are more than `limit` bytes. -/
def decode? (limit : Nat) (data : List UInt8) : Option (List UInt8 × List UInt8) := do
  let (out, rest) ← readBlocks? limit (8 * data.length + 2) #[] (.ofBytes data)
  if limit < out.size then none else some (out.toList, rest)

end Wagebook.Compression.Deflate
