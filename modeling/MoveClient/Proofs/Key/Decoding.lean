import MoveClient.Key.MultiEd25519
import MoveClient.Key.MultiKey
import MoveClient.Proofs.Wire.Decoders

/-!
Keys and signatures are read by decoders.

Owns:
- that octets which spell no key, no signature and no set of them are refused with a failure of
  decoding;
- that every kind of key and of signature is read by a decoder.

Does not own: which octets spell a key, see `MoveClient.Proofs.Key.Spelling`.
-/

namespace MoveClient

open Error Reader

/-! ## What octets spell -/

theorem Octets.expect_onlyOfDecoding
    (size : Nat)
    (scheme : KeyScheme)
    (part : KeyPart)
    (spelled : Bytes) :
    OnlyOfDecoding (expect size scheme part spelled) := by
  unfold expect
  split <;> trivial

theorem EcdsaPublicKey.ofBytes_onlyOfDecoding
    (curve : Curve)
    (spelled : Bytes) :
    OnlyOfDecoding (ofBytes curve spelled) := by
  unfold ofBytes
  dsimp only
  split
  · split <;> trivial
  · trivial

theorem EcdsaPrivateKey.ofBytes_onlyOfDecoding
    (curve : Curve)
    (spelled : Bytes) :
    OnlyOfDecoding (ofBytes curve spelled) := by
  unfold ofBytes
  dsimp only
  split
  · split <;> trivial
  · trivial

theorem SingleKey.ofBytes_onlyOfDecoding
    (scheme : KeyScheme)
    (spelled : Bytes) :
    OnlyOfDecoding (ofBytes scheme spelled) := by
  cases scheme with
  | ed25519 => exact (Octets.expect_onlyOfDecoding ..).map _
  | ecdsa curve => exact (EcdsaPublicKey.ofBytes_onlyOfDecoding curve spelled).map _
  | slhDsa => exact (Octets.expect_onlyOfDecoding ..).map _

theorem SingleSignature.ofBytes_onlyOfDecoding
    (scheme : KeyScheme)
    (spelled : Bytes) :
    OnlyOfDecoding (ofBytes scheme spelled) := by
  cases scheme with
  | ed25519 | ecdsa curve | slhDsa => exact (Octets.expect_onlyOfDecoding ..).map _

theorem WrappedSignature.ofSingle_onlyOfDecoding (signature : SingleSignature) :
    OnlyOfDecoding (ofSingle signature) := by
  unfold ofSingle
  split <;> trivial

namespace MultiEd25519Key

theorem make_onlyOfDecoding
    (keys : List (Octets 32))
    (threshold : Int) :
    OnlyOfDecoding (make keys threshold) := by
  unfold make
  split
  · split <;> trivial
  · trivial

theorem ofBytes_onlyOfDecoding (spelled : Bytes) : OnlyOfDecoding (ofBytes spelled) := by
  unfold ofBytes
  split
  · apply (OnlyOfDecoding.mapM (Octets.expect_onlyOfDecoding 32 .ed25519 .publicKey) _).bind
    intro keys
    exact make_onlyOfDecoding keys _
  · trivial

end MultiEd25519Key

namespace MultiEd25519Signature

theorem make_onlyOfDecoding (entries : List (Int × Octets 64)) :
    OnlyOfDecoding (make entries) := by
  unfold make
  dsimp only
  split
  · split
    · trivial
    · split <;> trivial
  · trivial

theorem ofBytes_onlyOfDecoding (spelled : Bytes) : OnlyOfDecoding (ofBytes spelled) := by
  unfold ofBytes
  dsimp only
  split
  · trivial
  · split
    · trivial
    · apply (OnlyOfDecoding.mapM (Octets.expect_onlyOfDecoding 64 .ed25519 .signature) _).bind
      intro signatures
      exact make_onlyOfDecoding _

end MultiEd25519Signature

theorem MultiKey.make_onlyOfDecoding
    (keys : List SingleKey)
    (threshold : Int) :
    OnlyOfDecoding (make keys threshold) := by
  unfold make
  split
  · split <;> trivial
  · trivial

theorem MultiKeySignature.ofBitmap_onlyOfDecoding
    (signatures : List WrappedSignature)
    (bitmap : Bytes) :
    OnlyOfDecoding (ofBitmap signatures bitmap) := by
  unfold ofBitmap
  dsimp only
  split
  · trivial
  · split
    · trivial
    · split <;> trivial

/-! ## Reading -/

namespace SingleKey

theorem read_isDecoder (scheme : KeyScheme) : (read scheme).IsDecoder :=
  bytes_isDecoder.bind_computed (ofBytes_onlyOfDecoding scheme)
    fun spelled => by cases ofBytes scheme spelled <;> rfl

theorem readWrapped_isDecoder : readWrapped.IsDecoder := by
  apply length_isDecoder.bind
  intro variant
  split
  case h_1 | h_2 | h_3 | h_6 => exact read_isDecoder _
  case h_4 | h_5 | h_7 => exact isDecoder_throw trivial

end SingleKey

theorem SingleSignature.read_isDecoder (scheme : KeyScheme) : (read scheme).IsDecoder :=
  bytes_isDecoder.bind_computed (ofBytes_onlyOfDecoding scheme)
    fun spelled => by cases ofBytes scheme spelled <;> rfl

namespace WrappedSignature

theorem readScheme_isDecoder (scheme : KeyScheme) : (readScheme scheme).IsDecoder :=
  (SingleSignature.read_isDecoder scheme).bind_computed ofSingle_onlyOfDecoding
    fun signature => by cases ofSingle signature <;> rfl

theorem read_isDecoder : read.IsDecoder := by
  apply length_isDecoder.bind
  intro variant
  split
  case h_1 | h_2 | h_5 => exact readScheme_isDecoder _
  case h_3 | h_4 | h_6 => exact isDecoder_throw trivial

end WrappedSignature

theorem MultiEd25519Key.read_isDecoder : read.IsDecoder :=
  bytes_isDecoder.bind_computed ofBytes_onlyOfDecoding
    fun spelled => by cases ofBytes spelled <;> rfl

theorem MultiEd25519Signature.read_isDecoder : read.IsDecoder :=
  bytes_isDecoder.bind_computed ofBytes_onlyOfDecoding
    fun spelled => by cases ofBytes spelled <;> rfl

theorem MultiKey.read_isDecoder : read.IsDecoder := by
  apply (sequence_isDecoder SingleKey.readWrapped_isDecoder).bind
  intro keys
  exact (integer_isDecoder .u8).bind_computed (make_onlyOfDecoding keys)
    fun threshold => by cases make keys threshold <;> rfl

theorem MultiKeySignature.read_isDecoder : read.IsDecoder := by
  apply (sequence_isDecoder WrappedSignature.read_isDecoder).bind
  intro signatures
  exact bytes_isDecoder.bind_computed (ofBitmap_onlyOfDecoding signatures)
    fun marks => by cases ofBitmap signatures marks <;> rfl

namespace PrivateKey

/-- A key of a scheme that cannot sign is never read. -/
theorem read_isLocal (scheme : KeyScheme) : (read scheme).IsLocal := by
  apply bytes_isDecoder.isLocal.bind
  intro spelled
  cases ofBytes scheme spelled with
  | ok key => exact (isDecoder_pure key).isLocal
  | error error => exact isLocal_throw error

end PrivateKey

end MoveClient
