import MoveClient.Proofs.Key.Bitmaps
import MoveClient.Proofs.Key.Construction

/-!
Octets that spell keys and signatures.

Owns:
- for key sets and multi-signatures of the older format, that they are read from exactly the
  octets that spell them;
- for multi-signatures of any scheme, which signatures and bitmaps they are put together from;
- that an ECDSA public key is read from its octets and from these without the octet in front, and
  from no others, and every other single key and signature from its octets alone.

Does not own: lengths in front of these octets.
-/

namespace MoveClient

/-! ## Octets of a fixed length -/

namespace Octets

variable {size : Nat} {scheme : KeyScheme} {part : KeyPart}

@[simp] theorem expect_eq_ok_iff
    {bytes : Bytes}
    {octets : Octets size} :
    expect size scheme part bytes = .ok octets ↔ octets.bytes = bytes := by
  unfold expect ofBytes?
  by_cases fits : bytes.length = size
  · simp only [fits, dif_pos]
    constructor
    · rintro ⟨⟩
      rfl
    · rintro rfl
      rfl
  · simp only [fits, dif_neg, not_false_iff]
    constructor
    · rintro ⟨⟩
    · rintro rfl
      exact absurd octets.length_eq fits

theorem length_flatMap (members : List (Octets size)) :
    (members.flatMap Octets.bytes).length = size * members.length := by
  induction members with
  | nil => rfl
  | cons member rest inductionHypothesis =>
      rw [List.flatMap_cons, List.length_append, inductionHypothesis, member.length_eq,
        List.length_cons, Nat.mul_succ, Nat.add_comm]

/-- Parts of one length are cut off the octets exactly if they stand at their beginning. -/
theorem mapM_chunks_eq_ok_iff
    {count : Nat}
    {bytes : Bytes}
    {members : List (Octets size)} :
    (Bytes.chunks size count bytes).mapM (expect size scheme part) = .ok members ↔
      members.length = count ∧ bytes.take (size * count) = members.flatMap Octets.bytes := by
  rw [Error.mapM_eq_ok_iff]
  simp only [expect_eq_ok_iff]
  induction count generalizing bytes members with
  | zero =>
      rw [Bytes.chunks, List.forall₂_nil_left_iff, List.length_eq_zero_iff]
      constructor
      · rintro rfl
        exact ⟨rfl, rfl⟩
      · exact And.left
  | succ count inductionHypothesis =>
      rw [Bytes.chunks, List.forall₂_cons_left_iff]
      simp only [inductionHypothesis]
      constructor
      · rintro ⟨member, others, memberEq, ⟨rfl, othersEq⟩, rfl⟩
        refine ⟨rfl, ?_⟩
        rw [List.flatMap_cons, memberEq, ← othersEq, Nat.mul_succ, Nat.add_comm, List.take_add]
      · rintro ⟨lengths, takeEq⟩
        cases members with
        | nil => cases lengths
        | cons member others =>
            have longEnough : size ≤ bytes.length := by
              have lengthEq := congrArg List.length takeEq
              rw [length_flatMap, List.length_take, lengths, Nat.mul_succ] at lengthEq
              omega
            rw [Nat.mul_succ, Nat.add_comm, List.take_add, List.flatMap_cons] at takeEq
            have headLength : (bytes.take size).length = member.bytes.length := by
              rw [List.length_take, member.length_eq, Nat.min_eq_left longEnough]
            obtain ⟨headEq, tailEq⟩ := List.append_inj takeEq headLength
            exact ⟨member, others, headEq.symm, ⟨Nat.succ.inj lengths, tailEq⟩, rfl⟩

end Octets

/-! ## The older format -/

namespace MultiEd25519Key

theorem length_bytes (key : MultiEd25519Key) : key.bytes.length = 32 * key.keys.length + 1 := by
  rw [bytes, List.length_append, Octets.length_flatMap, List.length_singleton]

theorem toNat_threshold (key : MultiEd25519Key) :
    (UInt8.ofNat key.threshold).toNat = key.threshold := by
  have few : key.keys.length ≤ 32 := key.few_keys
  have reachable := key.threshold_le
  rw [UInt8.toNat_ofNat', Nat.mod_eq_of_lt (by omega)]

/-- A key set is read from the octets that spell it, and from no others. -/
theorem ofBytes_eq_ok_iff
    {bytes : Bytes}
    {key : MultiEd25519Key} :
    ofBytes bytes = .ok key ↔ key.bytes = bytes := by
  unfold ofBytes
  split
  · rename_i lengthMod
    simp only [Error.bind_eq_ok_iff, Octets.mapM_chunks_eq_ok_iff, make_eq_ok_iff]
    constructor
    · rintro ⟨_, ⟨_, takeEq⟩, rfl, thresholdEq⟩
      rcases List.eq_nil_or_concat bytes with rfl | ⟨members, last, rfl⟩
      · cases lengthMod
      · rw [List.concat_eq_append] at *
        rw [List.length_append, List.length_singleton] at lengthMod takeEq
        rw [List.getLastD_concat] at thresholdEq
        have whole : 32 * ((members.length + 1) / 32) = members.length := by omega
        rw [whole, List.take_left] at takeEq
        have lastEq : UInt8.ofNat key.threshold = last := by
          rw [Int.ofNat.inj thresholdEq, UInt8.ofNat_toNat]
        rw [MultiEd25519Key.bytes, ← takeEq, lastEq]
    · rintro rfl
      have count : key.bytes.length / 32 = key.keys.length := by
        rw [length_bytes]
        omega
      rw [count]
      refine ⟨key.keys, ⟨rfl, ?_⟩, rfl, ?_⟩
      · rw [bytes, ← Octets.length_flatMap, List.take_left]
      · rw [bytes, List.getLastD_concat, toNat_threshold]
  · rename_i lengthMod
    constructor
    · rintro ⟨⟩
    · rintro rfl
      rw [length_bytes] at lengthMod
      omega

end MultiEd25519Key

namespace MultiEd25519Signature

theorem length_bytes (signature : MultiEd25519Signature) :
    signature.bytes.length = 64 * signature.entries.length + 4 := by
  rw [bytes, List.length_append, Octets.length_flatMap, Bytes.bigEndian_length,
    Signers.signatures, List.length_map]

theorem take_bytes (signature : MultiEd25519Signature) :
    signature.bytes.take (64 * signature.entries.length) =
      signature.signatures.flatMap Octets.bytes := by
  have lengthEq : signature.signatures.length = signature.entries.length := List.length_map ..
  rw [bytes, ← lengthEq, ← Octets.length_flatMap, List.take_left]

theorem markedPositions_bytes (signature : MultiEd25519Signature) :
    markedPositions (Bytes.ofBigEndian (signature.bytes.drop (64 * signature.entries.length))) =
      signature.positions := by
  have lengthEq : signature.signatures.length = signature.entries.length := List.length_map ..
  rw [bytes, ← lengthEq, ← Octets.length_flatMap, List.drop_left, Bytes.ofBigEndian_bigEndian,
    Nat.mod_eq_of_lt signature.bitmap_lt, markedPositions_bitmap]

/-- A multi-signature is read from the octets that spell it, and from no others. -/
theorem ofBytes_eq_ok_iff
    {bytes : Bytes}
    {signature : MultiEd25519Signature} :
    ofBytes bytes = .ok signature ↔ signature.bytes = bytes := by
  unfold ofBytes
  split
  · rename_i badLength
    constructor
    · rintro ⟨⟩
    · rintro rfl
      rw [length_bytes] at badLength
      omega
  · rename_i goodLength
    obtain ⟨count, lengthEq⟩ : ∃ count, bytes.length = 64 * count + 4 :=
      ⟨(bytes.length - 4) / 64, by omega⟩
    have countEq : (bytes.length - 4) / 64 = count := by omega
    have entries_length (spelled : signature.bytes = bytes) :
        signature.entries.length = count := by
      have := signature.length_bytes
      rw [spelled] at this
      omega
    simp only [countEq]
    by_cases marked : (markedPositions (Bytes.ofBigEndian (bytes.drop (64 * count)))).length = count
    · simp only [marked, ne_eq, not_true, if_false, Error.bind_eq_ok_iff,
        Octets.mapM_chunks_eq_ok_iff, make_eq_ok_iff, Signers.indexed_perm_map_iff]
      have increasing :=
        increasing_markedPositions (Bytes.ofBigEndian (bytes.drop (64 * count)))
      constructor
      · rintro ⟨signatures, ⟨signaturesLength, takeEq⟩, perm⟩
        obtain ⟨positionsEq, rfl⟩ :=
          (Signers.perm_zip_iff increasing (marked.trans signaturesLength.symm)).mp perm
        have dropLength : (bytes.drop (64 * count)).length = 4 := by
          rw [List.length_drop]
          omega
        have small := Bytes.ofBigEndian_lt (bytes.drop (64 * count))
        rw [dropLength] at small
        rw [MultiEd25519Signature.bytes, bitmap_eq_of_positions small positionsEq,
          Bytes.bigEndian_ofBigEndian dropLength, ← takeEq, List.take_append_drop]
      · intro spelled
        have countIs := entries_length spelled
        subst spelled
        subst countIs
        refine ⟨signature.signatures, ⟨List.length_map .., signature.take_bytes⟩, ?_⟩
        rw [markedPositions_bytes, Signers.zip_positions_signatures]
    · simp only [marked, ne_eq, not_false_iff, if_true]
      constructor
      · rintro ⟨⟩
      · intro spelled
        have countIs := entries_length spelled
        subst spelled
        subst countIs
        rw [markedPositions_bytes, Signers.length_positions] at marked
        exact absurd rfl marked

end MultiEd25519Signature

/-! ## Sets of keys of any scheme -/

namespace MultiKeySignature

/-- A multi-signature is put together from its signatures and up to four octets that mark its
positions. -/
theorem ofBitmap_eq_ok_iff
    {signatures : List WrappedSignature}
    {marks : Bytes}
    {signature : MultiKeySignature} :
    ofBitmap signatures marks = .ok signature ↔
      signature.signatures = signatures ∧ marks.length ≤ 4 ∧
        signature.bitmap = marks ++ List.replicate (4 - marks.length) 0 := by
  unfold ofBitmap
  by_cases short : marks.length ≤ 4
  · rw [if_neg (by omega), bitmap_eq_iff short]
    by_cases lengths : (markedPositions marks).length = signatures.length
    · have kept_iff : Signers.ofEntries? ((markedPositions marks).zip signatures) =
          some signature ↔
            signature.positions = markedPositions marks ∧ signature.signatures = signatures := by
        rw [Signers.ofEntries?_eq_some_iff]
        exact Signers.perm_zip_iff (increasing_markedPositions marks) lengths
      simp only [lengths, ne_eq, not_true, if_false]
      constructor
      · intro kept
        split at kept
        · rename_i signers signersEq
          cases kept
          obtain ⟨positionsEq, signaturesEq⟩ := kept_iff.mp signersEq
          exact ⟨signaturesEq, short, positionsEq⟩
        · cases kept
      · rintro ⟨signaturesEq, _, positionsEq⟩
        rw [kept_iff.mpr ⟨positionsEq, signaturesEq⟩]
    · simp only [lengths, ne_eq, not_false_iff, if_true]
      constructor
      · rintro ⟨⟩
      · rintro ⟨rfl, _, positionsEq⟩
        rw [← positionsEq, Signers.length_positions] at lengths
        exact absurd (List.length_map ..).symm lengths
  · rw [if_pos (by omega)]
    constructor
    · rintro ⟨⟩
    · rintro ⟨_, short', _⟩
      exact absurd short' short

end MultiKeySignature

/-! ## Single keys and signatures -/

namespace EcdsaPublicKey

variable {curve : Curve}

/-- Both coordinates, without the octet `4` in front. -/
def coordinates (key : EcdsaPublicKey curve) : Bytes :=
  Bytes.bigEndian 32 key.x ++ Bytes.bigEndian 32 key.y

theorem length_coordinates (key : EcdsaPublicKey curve) : key.coordinates.length = 64 := by
  simp [coordinates]

theorem length_bytes (key : EcdsaPublicKey curve) : key.bytes.length = 65 :=
  congrArg (· + 1) key.length_coordinates

theorem dropMarker_eq_iff
    {bytes coordinates : Bytes}
    (whole : coordinates.length = 64) :
    dropMarker bytes = coordinates ↔ bytes = 4 :: coordinates ∨ bytes = coordinates := by
  unfold dropMarker
  split
  · rename_i rest
    split
    · rename_i restWhole
      constructor
      · rintro rfl
        exact .inl rfl
      · rintro (marked | rfl)
        · exact (List.cons.inj marked).2
        · rw [List.length_cons] at whole
          omega
    · rename_i notWhole
      constructor
      · exact .inr
      · rintro (marked | bare)
        · rw [(List.cons.inj marked).2] at notWhole
          exact absurd whole notWhole
        · exact bare
  · rename_i unmarked
    constructor
    · exact .inr
    · rintro (marked | bare)
      · exact absurd marked (unmarked coordinates)
      · exact bare

theorem coordinates_lt (key : EcdsaPublicKey curve) :
    key.x < 256 ^ (32 : Nat) ∧ key.y < 256 ^ (32 : Nat) := by
  have onCurve := key.on_curve
  have modulusLt : curve.modulus < 256 ^ (32 : Nat) := by
    cases curve <;> decide
  simp only [Curve.contains, Bool.and_eq_true, decide_eq_true_eq] at onCurve
  omega

/-- A public key is read from its octets with the octet `4` in front or without it, and from no
others. -/
theorem ofBytes_eq_ok_iff
    {bytes : Bytes}
    {key : EcdsaPublicKey curve} :
    ofBytes curve bytes = .ok key ↔ bytes = key.bytes ∨ bytes = key.coordinates := by
  show _ ↔ bytes = 4 :: key.coordinates ∨ bytes = key.coordinates
  rw [← dropMarker_eq_iff key.length_coordinates]
  unfold ofBytes
  generalize dropMarker bytes = spelled
  constructor
  · intro read
    simp only at read
    split at read
    · rename_i whole
      split at read
      · cases read
        have firstLength : (spelled.take 32).length = 32 := by
          rw [List.length_take]
          omega
        have secondLength : (spelled.drop 32).length = 32 := by
          rw [List.length_drop]
          omega
        rw [coordinates, Bytes.bigEndian_ofBigEndian firstLength,
          Bytes.bigEndian_ofBigEndian secondLength, List.take_append_drop]
      · cases read
    · cases read
  · rintro rfl
    obtain ⟨xLt, yLt⟩ := key.coordinates_lt
    have firstLength : (Bytes.bigEndian 32 key.x).length = 32 := Bytes.bigEndian_length 32 key.x
    have xEq : Bytes.ofBigEndian (key.coordinates.take 32) = key.x := by
      rw [coordinates, List.take_left' firstLength, Bytes.ofBigEndian_bigEndian,
        Nat.mod_eq_of_lt xLt]
    have yEq : Bytes.ofBigEndian (key.coordinates.drop 32) = key.y := by
      rw [coordinates, List.drop_left' firstLength, Bytes.ofBigEndian_bigEndian,
        Nat.mod_eq_of_lt yLt]
    simp only [key.length_coordinates, if_true, xEq, yEq, key.on_curve, dif_pos]

/-- The octets of a point tell it. -/
theorem bytes_injective : Function.Injective (@bytes curve) := by
  intro key other same
  have read := ofBytes_eq_ok_iff.mpr (Or.inl rfl : key.bytes = key.bytes ∨ _)
  rw [same, ofBytes_eq_ok_iff.mpr (Or.inl rfl)] at read
  exact (Except.ok.inj read).symm

end EcdsaPublicKey

namespace SingleKey

/-- Octets that a key is read from: an ECDSA key also from its coordinates alone. -/
def IsSpelledBy : SingleKey → Bytes → Prop
  | ed25519 key, bytes | slhDsa key, bytes => bytes = key.bytes
  | ecdsa _ key, bytes => bytes = key.bytes ∨ bytes = key.coordinates

theorem ofBytes_eq_ok_iff
    {scheme : KeyScheme}
    {bytes : Bytes}
    {key : SingleKey} :
    ofBytes scheme bytes = .ok key ↔ key.scheme = scheme ∧ key.IsSpelledBy bytes := by
  constructor
  · intro read
    cases scheme with
    | ed25519 | slhDsa =>
        obtain ⟨octets, expected, rfl⟩ := Error.map_eq_ok_iff.mp read
        exact ⟨rfl, (Octets.expect_eq_ok_iff.mp expected).symm⟩
    | ecdsa curve =>
        obtain ⟨point, pointRead, rfl⟩ := Error.map_eq_ok_iff.mp read
        exact ⟨rfl, EcdsaPublicKey.ofBytes_eq_ok_iff.mp pointRead⟩
  · rintro ⟨rfl, spelled⟩
    cases key with
    | ed25519 key | slhDsa key =>
        exact Error.map_eq_ok_iff.mpr ⟨key, Octets.expect_eq_ok_iff.mpr spelled.symm, rfl⟩
    | ecdsa curve key =>
        exact Error.map_eq_ok_iff.mpr ⟨key, EcdsaPublicKey.ofBytes_eq_ok_iff.mpr spelled, rfl⟩

end SingleKey

namespace SingleSignature

theorem ofBytes_eq_ok_iff
    {scheme : KeyScheme}
    {bytes : Bytes}
    {signature : SingleSignature} :
    ofBytes scheme bytes = .ok signature ↔ signature.scheme = scheme ∧ signature.bytes = bytes := by
  constructor
  · intro read
    cases scheme with
    | ed25519 | slhDsa | ecdsa =>
        obtain ⟨octets, expected, rfl⟩ := Error.map_eq_ok_iff.mp read
        exact ⟨rfl, Octets.expect_eq_ok_iff.mp expected⟩
  · rintro ⟨rfl, rfl⟩
    cases signature with
    | ed25519 octets | slhDsa octets | ecdsa _ octets =>
        exact Error.map_eq_ok_iff.mpr ⟨octets, Octets.expect_eq_ok_iff.mpr rfl, rfl⟩

end SingleSignature

end MoveClient
