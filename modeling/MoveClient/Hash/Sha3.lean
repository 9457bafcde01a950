import MoveClient.Bytes

/-!
The hash function SHA3-256.

The state is 25 lanes of 64 bits, lane `(x, y)` at place `x + 5 * y`. Input is padded to blocks of
136 octets, each block is added to the first 17 lanes, and 24 rounds of the Keccak permutation
follow. The digest is the first four lanes.
-/

namespace MoveClient.Sha3

/-- The state of the permutation. -/
abbrev State := Array UInt64

/-- The number of octets of input that one permutation takes. -/
def blockSize : Nat := 136

/-- What the last step of each round adds to lane `(0, 0)`. -/
def roundConstants : List UInt64 := [
  0x0000000000000001, 0x0000000000008082, 0x800000000000808a, 0x8000000080008000,
  0x000000000000808b, 0x0000000080000001, 0x8000000080008081, 0x8000000000008009,
  0x000000000000008a, 0x0000000000000088, 0x0000000080008009, 0x000000008000000a,
  0x000000008000808b, 0x800000000000008b, 0x8000000000008089, 0x8000000000008003,
  0x8000000000008002, 0x8000000000000080, 0x000000000000800a, 0x800000008000000a,
  0x8000000080008081, 0x8000000000008080, 0x0000000080000001, 0x8000000080008008
]

/-- By how many bits each lane is rotated. -/
def rotations : Array UInt64 := #[
  0, 1, 62, 28, 27, 36, 44, 6, 55, 20, 3, 10, 43, 25, 39, 41, 45, 15, 21, 8, 18, 2, 61, 56, 14
]

/-- A lane turned left by a number of bits below 64. -/
def rotate (lane count : UInt64) : UInt64 :=
  if count = 0 then lane else (lane <<< count) ||| (lane >>> (64 - count))

/-- The lane at `(x, y)`, both counted modulo five. -/
def lane (state : State) (x y : Nat) : UInt64 :=
  state.getD (x % 5 + 5 * (y % 5)) 0

/-- The sum of a column. -/
def column (state : State) (x : Nat) : UInt64 :=
  lane state x 0 ^^^ lane state x 1 ^^^ lane state x 2 ^^^ lane state x 3 ^^^ lane state x 4

/-- Adds to each lane the sums of the two columns beside it. -/
def theta (state : State) : State :=
  let sums : State := Array.ofFn fun x : Fin 5 => column state x
  let sum (x : Nat) : UInt64 := sums.getD (x % 5) 0
  Array.ofFn fun place : Fin 25 =>
    let x := place.val % 5
    lane state x (place.val / 5) ^^^ sum (x + 4) ^^^ rotate (sum (x + 1)) 1

/-- Rotates each lane and moves it to its new place. -/
def rhoPi (state : State) : State :=
  Array.ofFn fun place : Fin 25 =>
    let x := place.val % 5
    let y := place.val / 5
    let column := x + 3 * y
    rotate (lane state column x) (rotations.getD (column % 5 + 5 * x) 0)

/-- Combines each lane with the two after it in its row. -/
def chi (state : State) : State :=
  Array.ofFn fun place : Fin 25 =>
    let x := place.val % 5
    let y := place.val / 5
    lane state x y ^^^ (~~~(lane state (x + 1) y) &&& lane state (x + 2) y)

/-- One round. -/
def round (state : State) (constant : UInt64) : State :=
  let mixed := chi (rhoPi (theta state))
  Array.ofFn fun place : Fin 25 =>
    let value := mixed.getD place.val 0
    if place.val = 0 then value ^^^ constant else value

/-- The Keccak permutation. -/
def permute (state : State) : State :=
  roundConstants.foldl round state

/-- Adds a block to the first lanes and permutes. -/
def absorb (state : State) (block : Bytes) : State :=
  let lanes := ((Bytes.chunks 8 17 block).map fun part => UInt64.ofNat (Bytes.ofLittleEndian part)).toArray
  permute (Array.ofFn fun place : Fin 25 =>
    state.getD place.val 0 ^^^ lanes.getD place.val 0)

/-- Input with the domain bits of SHA3 and padding up to a whole number of blocks. -/
def padded (input : Bytes) : Bytes :=
  let missing := blockSize - input.length % blockSize
  if missing = 1 then input ++ [0x86]
  else input ++ 0x06 :: List.replicate (missing - 2) 0 ++ [0x80]

/-- The first four lanes. -/
def digest (state : State) : Bytes :=
  [0, 1, 2, 3].flatMap fun place => Bytes.littleEndian 8 (state.getD place 0).toNat

/-- The SHA3-256 digest of a byte string. -/
def hash (input : Bytes) : Bytes :=
  let full := padded input
  digest ((Bytes.chunks blockSize (full.length / blockSize) full).foldl absorb (Array.replicate 25 0))

/-- A digest has 32 octets. -/
@[simp] theorem hash_length (input : Bytes) : (hash input).length = 32 := by
  simp [hash, digest]

end MoveClient.Sha3
