import MoveClient.Key.Signers
import MoveClient.Key.Single

/-!
K-of-N sets of Ed25519 keys in the older format.

A key set is spelled by its keys one after the other and one octet for the threshold, a
multi-signature by its signatures and four octets with one bit for each position, the first
position in the topmost bit. Both are written behind their length.
-/

namespace MoveClient

/-- Between 2 and 32 Ed25519 keys, and how many of them have to sign. -/
structure MultiEd25519Key where
  keys : List (Octets 32)
  threshold : Nat
  enough_keys : 2 ≤ keys.length
  few_keys : keys.length ≤ maxSigners
  threshold_pos : 1 ≤ threshold
  threshold_le : threshold ≤ keys.length
deriving DecidableEq, Repr

/-- Signatures of some of the keys. -/
abbrev MultiEd25519Signature := Signers (Octets 64)

namespace MultiEd25519Key

/-- A key set, if the number of keys and the threshold are in range. -/
def make (keys : List (Octets 32)) (threshold : Int) : Except Error MultiEd25519Key :=
  if h : 2 ≤ keys.length ∧ keys.length ≤ maxSigners then
    if t : 1 ≤ threshold ∧ threshold ≤ keys.length then
      .ok ⟨keys, threshold.toNat, h.1, h.2, by omega, by omega⟩
    else .error (.keyFormat (.threshold keys.length))
  else .error (.keyFormat (.keyCount 2))

/-- The octets that spell the key set. -/
def bytes (key : MultiEd25519Key) : Bytes :=
  (key.keys.flatMap fun member => member.bytes) ++ [UInt8.ofNat key.threshold]

/-- The key set that octets spell. -/
def ofBytes (bytes : Bytes) : Except Error MultiEd25519Key :=
  if bytes.length % 32 = 1 then do
    let keys ← (Bytes.chunks 32 (bytes.length / 32) bytes).mapM
      (Octets.expect 32 .ed25519 .publicKey)
    make keys (bytes.getLastD 0).toNat
  else .error (.keyFormat (.multiKeyLength bytes.length))

/-- The printed form: threshold and number of keys. -/
def text (key : MultiEd25519Key) : String :=
  toString key.threshold ++ "-of-" ++ toString key.keys.length ++ " Multi-Ed25519 public key"

/-- Writes the key set. -/
def write (key : MultiEd25519Key) : Emission :=
  .bytes key.bytes

/-- Reads a key set. -/
def read : Reader MultiEd25519Key := do
  let spelled ← Reader.bytes
  match ofBytes spelled with
  | .ok key => pure key
  | .error error => throw error

end MultiEd25519Key

namespace MultiEd25519Signature

/-- A multi-signature from signatures and the positions of their keys, in any order. A repeated
position is noticed before one out of range. -/
def make (entries : List (Int × Octets 64)) : Except Error MultiEd25519Signature :=
  let indices := entries.map Prod.fst
  if indices.Nodup then
    match indices.find? fun index => (Signers.position? index).isNone with
    | some index => .error (.keyFormat (.signerIndex index))
    | none =>
        match Signers.ofEntries? (entries.map fun entry => (entry.1.toNat, entry.2)) with
        | some signers => .ok signers
        | none => .error (.keyFormat .duplicateEd25519Signer)
  else .error (.keyFormat .duplicateEd25519Signer)

/-- A multi-signature from signatures and their keys; each key stands for its first position. -/
def ofKeys (key : MultiEd25519Key) (entries : List (Octets 32 × Octets 64)) :
    Except Error MultiEd25519Signature := do
  let indexed ← entries.mapM fun entry =>
    match key.keys.findIdx? (· == entry.1) with
    | some position => Except.ok (Int.ofNat position, entry.2)
    | none => Except.error Error.notListed
  make indexed

/-- The positions as a number: the first position is the topmost of 32 bits. -/
def bitmap (signature : MultiEd25519Signature) : Nat :=
  signature.positions.foldl (fun bits position => bits ||| 2 ^ (31 - position)) 0

/-- The octets that spell the multi-signature. -/
def bytes (signature : MultiEd25519Signature) : Bytes :=
  (signature.signatures.flatMap fun member => member.bytes) ++ Bytes.bigEndian 4 signature.bitmap

/-- The positions that a number marks. -/
def markedPositions (bits : Nat) : List Nat :=
  (List.range 32).filter fun position => bits.testBit (31 - position)

/-- The multi-signature that octets spell. -/
def ofBytes (bytes : Bytes) : Except Error MultiEd25519Signature :=
  if bytes.length < 4 ∨ (bytes.length - 4) % 64 ≠ 0 then
    .error (.keyFormat .multiSignatureLength)
  else
    let count := (bytes.length - 4) / 64
    let positions := markedPositions (Bytes.ofBigEndian (bytes.drop (64 * count)))
    if positions.length ≠ count then
      .error (.keyFormat (.bitmapCount positions.length count))
    else do
      let signatures ← (Bytes.chunks 64 count bytes).mapM (Octets.expect 64 .ed25519 .signature)
      make ((positions.zip signatures).map fun entry => (Int.ofNat entry.1, entry.2))

/-- Writes the multi-signature. -/
def write (signature : MultiEd25519Signature) : Emission :=
  .bytes signature.bytes

/-- Reads a multi-signature. -/
def read : Reader MultiEd25519Signature := do
  let spelled ← Reader.bytes
  match ofBytes spelled with
  | .ok signature => pure signature
  | .error error => throw error

end MultiEd25519Signature

end MoveClient
