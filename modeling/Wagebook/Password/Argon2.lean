import Wagebook.Digest.Blake2b

/-!
Argon2: a digest of a password that takes a set amount of memory and of passes over it. Memory is
filled block by block, each from the block before it and one that is picked either by what the
memory holds or by the position alone.
-/

namespace Wagebook.Argon2

inductive Variant
  | d
  | i
  | id
  deriving DecidableEq, Repr

def Variant.code : Variant → Nat
  | .d => 0
  | .i => 1
  | .id => 2

inductive Version
  | v16
  | v19
  deriving DecidableEq, Repr

def Version.number : Version → Nat
  | .v16 => 16
  | .v19 => 19

structure Cost where
  /-- In blocks of 1024 bytes. -/
  memory : Nat := 19456
  passes : Nat := 2
  lanes : Nat := 1
  /-- Data that goes into the digest beside the password. -/
  data : List UInt8 := []
  deriving DecidableEq, Repr

def Cost.Valid (c : Cost) : Prop :=
  8 ≤ c.memory ∧ 8 * c.lanes ≤ c.memory ∧ 1 ≤ c.passes ∧ 1 ≤ c.lanes ∧ c.lanes < 0x1000000

instance (c : Cost) : Decidable c.Valid := by unfold Cost.Valid; infer_instance

abbrev Block := Array UInt64

def blockWords : Nat := 128

def zeroBlock : Block := Array.replicate blockWords 0

def xorBlocks (a b : Block) : Block := Array.zipWith (· ^^^ ·) a b

@[inline] def rotr (x : UInt64) (n : UInt64) : UInt64 := (x >>> n) ||| (x <<< (64 - n))

/-- The sum of two words and twice the product of their lower halves. -/
@[inline] def blend (x y : UInt64) : UInt64 :=
  x + y + 2 * (x &&& 0xffffffff) * (y &&& 0xffffffff)

/-- Mixes four words and hands them on. -/
@[inline] def mix (a b c d : UInt64) (next : UInt64 → UInt64 → UInt64 → UInt64 → α) : α :=
  let a := blend a b
  let d := rotr (d ^^^ a) 32
  let c := blend c d
  let b := rotr (b ^^^ c) 24
  let a := blend a b
  let d := rotr (d ^^^ a) 16
  let c := blend c d
  let b := rotr (b ^^^ c) 63
  next a b c d

/-- Mixes the sixteen words of a block that `place` picks: four by four of them, by columns and by
diagonals. -/
@[inline] def permute (place : Nat → Nat) (v : Block) : Block :=
  mix v[place 0]! v[place 4]! v[place 8]! v[place 12]! fun v0 v4 v8 v12 =>
  mix v[place 1]! v[place 5]! v[place 9]! v[place 13]! fun v1 v5 v9 v13 =>
  mix v[place 2]! v[place 6]! v[place 10]! v[place 14]! fun v2 v6 v10 v14 =>
  mix v[place 3]! v[place 7]! v[place 11]! v[place 15]! fun v3 v7 v11 v15 =>
  mix v0 v5 v10 v15 fun v0 v5 v10 v15 =>
  mix v1 v6 v11 v12 fun v1 v6 v11 v12 =>
  mix v2 v7 v8 v13 fun v2 v7 v8 v13 =>
  mix v3 v4 v9 v14 fun v3 v4 v9 v14 =>
  let v := (((v.set! (place 0) v0).set! (place 1) v1).set! (place 2) v2).set! (place 3) v3
  let v := (((v.set! (place 4) v4).set! (place 5) v5).set! (place 6) v6).set! (place 7) v7
  let v := (((v.set! (place 8) v8).set! (place 9) v9).set! (place 10) v10).set! (place 11) v11
  (((v.set! (place 12) v12).set! (place 13) v13).set! (place 14) v14).set! (place 15) v15

def permuteRow (v : Block) (row : Nat) : Block := permute (fun k => 16 * row + k) v

def permuteColumn (v : Block) (column : Nat) : Block :=
  permute (fun k => 16 * (k / 2) + 2 * column + k % 2) v

def compress (a b : Block) : Block :=
  let r := xorBlocks a b
  let z := (List.range 8).foldl permuteRow r
  xorBlocks r ((List.range 8).foldl permuteColumn z)

def le32 (n : Nat) : List UInt8 := Digest.Blake2b.littleEndian 4 n

/-- The halves of 64-byte digests, each of the one before, `n` of them, and a last digest. -/
def chain : Nat → Nat → List UInt8 → List UInt8
  | 0, size, v => Digest.blake2b size v
  | n + 1, size, v =>
    let v := Digest.blake2b 64 v
    v.take 32 ++ chain n size v

def longDigest (size : Nat) (message : List UInt8) : List UInt8 :=
  let message := le32 size ++ message
  if size ≤ 64 then Digest.blake2b size message
  else
    let halves := (size + 31) / 32 - 2
    chain halves (size - 32 * halves) message

def blockOf (bytes : List UInt8) : Block :=
  (go blockWords bytes).toArray
where
  go : Nat → List UInt8 → List UInt64
    | 0, _ => []
    | n + 1, bytes => Digest.Blake2b.word (bytes.take 8) :: go n (bytes.drop 8)

structure Job where
  variant : Variant
  version : Version
  cost : Cost

namespace Job

/-- A quarter of a lane: what is filled before the lanes see each other. -/
def segmentLength (job : Job) : Nat := job.cost.memory / (4 * job.cost.lanes)

def laneLength (job : Job) : Nat := 4 * job.segmentLength

def blockCount (job : Job) : Nat := job.laneLength * job.cost.lanes

def seed (job : Job) (password salt : List UInt8) (size : Nat) : List UInt8 :=
  let counted (bytes : List UInt8) := le32 bytes.length ++ bytes
  Digest.blake2b 64
    (le32 job.cost.lanes ++ le32 size ++ le32 job.cost.memory ++ le32 job.cost.passes ++
      le32 job.version.number ++ le32 job.variant.code ++ counted password ++ counted salt ++
      counted [] ++ counted job.cost.data)

/-- Where a block is filled. -/
structure Place where
  pass : Nat
  slice : Nat
  lane : Nat
  /-- Within the segment. -/
  index : Nat

def picksByPosition (job : Job) (p : Place) : Bool :=
  match job.variant with
  | .d => false
  | .i => true
  | .id => p.pass = 0 && p.slice < 2

/-- Pseudo-random words that depend on the position only, 128 at a time. -/
def addresses (job : Job) (p : Place) (counter : Nat) : Block :=
  let input := [p.pass, p.lane, p.slice, job.blockCount, job.cost.passes, job.variant.code, counter]
  let block := (input.map UInt64.ofNat).toArray ++ Array.replicate (blockWords - input.length) 0
  compress zeroBlock (compress zeroBlock block)

/-- The block that a random word picks for a position, by its place in the memory. -/
def reference (job : Job) (p : Place) (random : UInt64) : Nat :=
  let low := (random &&& 0xffffffff).toNat
  let high := (random >>> 32).toNat
  let lane := if p.pass = 0 ∧ p.slice = 0 then p.lane else high % job.cost.lanes
  let done := if p.pass = 0 then p.slice * job.segmentLength
    else job.laneLength - job.segmentLength
  let area := if lane = p.lane then done + p.index - 1 else done - (if p.index = 0 then 1 else 0)
  let back := (area * ((low * low) >>> 32)) >>> 32
  let start := if p.pass = 0 ∨ p.slice = 3 then 0 else (p.slice + 1) * job.segmentLength
  lane * job.laneLength + (start + area - 1 - back) % job.laneLength

def fill (job : Job) (p : Place) (random : UInt64) (memory : Array Block) : Array Block :=
  let lane := p.lane * job.laneLength
  let column := p.slice * job.segmentLength + p.index
  let before := lane + (column + job.laneLength - 1) % job.laneLength
  let block := compress memory[before]! memory[job.reference p random]!
  let block := if p.pass = 0 ∨ job.version = .v16 then block
    else xorBlocks block memory[lane + column]!
  memory.set! (lane + column) block

/-- Fills a segment from `index` on, `n` blocks of it. -/
def fillSegment (job : Job) (p : Place) : Nat → Nat → Block → Array Block → Array Block
  | 0, _, _, memory => memory
  | n + 1, index, random, memory =>
    let p := { p with index }
    if job.picksByPosition p then
      let random := if index % blockWords = 0 ∨ random.isEmpty then
        job.addresses p (index / blockWords + 1) else random
      job.fillSegment p n (index + 1) random
        (job.fill p random[index % blockWords]! memory)
    else
      let column := p.slice * job.segmentLength + index
      let before := p.lane * job.laneLength + (column + job.laneLength - 1) % job.laneLength
      job.fillSegment p n (index + 1) random (job.fill p (memory[before]!)[0]! memory)

def fillSlice (job : Job) (memory : Array Block) (step : Nat) : Array Block :=
  let pass := step / 4
  let slice := step % 4
  let first := if step = 0 then 2 else 0
  (List.range job.cost.lanes).foldl
    (fun memory lane =>
      job.fillSegment ⟨pass, slice, lane, first⟩ (job.segmentLength - first) first #[] memory)
    memory

/-- The first two blocks of each lane, and room for the others. -/
def prepare (job : Job) (seed : List UInt8) : Array Block :=
  (List.range job.cost.lanes).foldl
    (fun memory lane =>
      let start (i : Nat) := blockOf (longDigest 1024 (seed ++ le32 i ++ le32 lane))
      let memory := memory.set! (lane * job.laneLength) (start 0)
      memory.set! (lane * job.laneLength + 1) (start 1))
    (Array.replicate job.blockCount zeroBlock)

end Job

/-- The digest of a password under a salt, of `size` bytes. -/
def digest (job : Job) (password salt : List UInt8) (size : Nat) : List UInt8 :=
  let memory := job.prepare (job.seed password salt size)
  let memory := (List.range (4 * job.cost.passes)).foldl job.fillSlice memory
  let last := (List.range job.cost.lanes).foldl
    (fun acc lane => xorBlocks acc memory[(lane + 1) * job.laneLength - 1]!) zeroBlock
  longDigest size (Digest.Blake2b.bytes last.toList)

end Wagebook.Argon2
