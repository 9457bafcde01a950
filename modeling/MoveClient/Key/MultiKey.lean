import MoveClient.Key.Signers
import MoveClient.Key.Single

/-!
K-of-N sets of keys of any scheme.

A key set is written as the sequence of its wrapped keys and one octet for the threshold, a
multi-signature as the sequence of its wrapped signatures and a bitmap of the positions behind its
length. The bitmap has four octets; a shorter one is read as well.
-/

namespace MoveClient

/-- Between 1 and 32 keys, and how many of them have to sign. -/
structure MultiKey where
  keys : List SingleKey
  threshold : Nat
  enough_keys : 1 ≤ keys.length
  few_keys : keys.length ≤ maxSigners
  threshold_ne_zero : threshold ≠ 0
  threshold_le : threshold ≤ keys.length
deriving DecidableEq, Repr

/-- Signatures of some of the keys. -/
abbrev MultiKeySignature := Signers WrappedSignature

namespace MultiKey

/-- The checks on the number of keys and the threshold. -/
def check (count : Nat) (threshold : Int) : Except Error Unit :=
  if 1 ≤ count ∧ count ≤ maxSigners then
    if 1 ≤ threshold ∧ threshold ≤ count then .ok () else .error (.keyFormat (.threshold count))
  else .error (.keyFormat (.keyCount 1))

/-- A key set, if the number of keys and the threshold are in range. -/
def make (keys : List SingleKey) (threshold : Int) : Except Error MultiKey :=
  if h : 1 ≤ keys.length ∧ keys.length ≤ maxSigners then
    if t : 1 ≤ threshold ∧ threshold ≤ keys.length then
      .ok ⟨keys, threshold.toNat, h.1, h.2, by omega, by omega⟩
    else .error (.keyFormat (.threshold keys.length))
  else .error (.keyFormat (.keyCount 1))

/-- The printed form: threshold and number of keys. -/
def text (key : MultiKey) : String :=
  toString key.threshold ++ "-of-" ++ toString key.keys.length ++ " Multi key"

/-- The first position of a key in the set. -/
def indexOf (key : MultiKey) (member : SingleKey) : Except Error Nat :=
  match key.keys.findIdx? (· == member) with
  | some position => .ok position
  | none => .error .notListed

/-- Writes the key set. -/
def write (key : MultiKey) : Emission :=
  .sequence (key.keys.map SingleKey.writeWrapped) ++ .integer .u8 key.threshold

/-- Reads a key set. -/
def read : Reader MultiKey := do
  let keys ← Reader.sequence SingleKey.readWrapped
  let threshold ← Reader.integer .u8
  match make keys threshold with
  | .ok key => pure key
  | .error error => throw error

end MultiKey

namespace MultiKeySignature

/-- Checks positions in the given order and wraps the signatures by `wrap`; `seen` holds the
positions before. -/
def checkEntries {α : Type} (wrap : α → Except Error WrappedSignature) :
    (seen : List Int) → List (Int × α) → Except Error (List (Nat × WrappedSignature))
  | _, [] => .ok []
  | seen, (index, signature) :: rest =>
      match Signers.position? index with
      | none => .error (.keyFormat (.signerIndex index))
      | some position =>
          if seen.contains index then .error (.keyFormat (.duplicateSigner index))
          else do
            let wrapped ← wrap signature
            let rest ← checkEntries wrap (index :: seen) rest
            .ok ((position, wrapped) :: rest)

/-- A multi-signature from signatures and the positions of their keys, in any order. -/
def make {α : Type} (wrap : α → Except Error WrappedSignature) (entries : List (Int × α)) :
    Except Error MultiKeySignature := do
  let checked ← checkEntries wrap [] entries
  match Signers.ofEntries? checked with
  | some signers => .ok signers
  | none => .error (.keyFormat (.duplicateSigner 0))

/-- Sets the bit of a position in octets, counted from the topmost bit of the first octet. -/
def markPosition (bitmap : Bytes) (position : Nat) : Bytes :=
  bitmap.modify (position / 8) fun octet => octet ||| UInt8.ofNat (2 ^ (7 - position % 8))

/-- The positions as four octets, the first position in the topmost bit of the first octet. -/
def bitmap (signature : MultiKeySignature) : Bytes :=
  signature.positions.foldl markPosition (List.replicate 4 0)

/-- The positions that octets mark. -/
def markedPositions (bitmap : Bytes) : List Nat :=
  (List.range (8 * bitmap.length)).filter fun position =>
    (bitmap.getD (position / 8) 0).toNat.testBit (7 - position % 8)

/-- Writes the multi-signature. -/
def write (signature : MultiKeySignature) : Emission :=
  .sequence (signature.signatures.map WrappedSignature.write) ++ .bytes signature.bitmap

/-- The multi-signature of signatures and the bitmap of their positions. -/
def ofBitmap (signatures : List WrappedSignature) (bitmap : Bytes) :
    Except Error MultiKeySignature :=
  if 4 < bitmap.length then .error (.keyFormat (.bitmapLength bitmap.length))
  else
    let positions := markedPositions bitmap
    if positions.length ≠ signatures.length then
      .error (.keyFormat (.bitmapCount positions.length signatures.length))
    else
      match Signers.ofEntries? (positions.zip signatures) with
      | some signers => .ok signers
      | none => .error (.keyFormat (.duplicateSigner 0))

/-- Reads a multi-signature. -/
def read : Reader MultiKeySignature := do
  let signatures ← Reader.sequence WrappedSignature.read
  let marks ← Reader.bytes
  match ofBitmap signatures marks with
  | .ok signature => pure signature
  | .error error => throw error

end MultiKeySignature

end MoveClient
