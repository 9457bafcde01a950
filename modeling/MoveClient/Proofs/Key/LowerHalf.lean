import MoveClient.Key.Generation
import MoveClient.Proofs.Key.Acceptance

/-!
Signatures over curves that differ in the sign of a scalar.

Owns:
- that exactly one of two such signatures has its second number in the lower half, and that
  normalizing gives this one from both;
- that no key accepts both, and that private keys make the one in the lower half.

Does not own: which pairs of numbers are signatures of a message.
-/

namespace MoveClient

namespace EcdsaSignature

/-- Two numbers that can be a signature over a curve of the order. -/
structure InRange (order r s : Nat) : Prop where
  r_pos : 0 < r
  r_lt : r < order
  s_pos : 0 < s
  s_lt : s < order

variable {order r s : Nat} {signature : Octets 64}

/-- The signature that differs in the sign of the second number is in range as well. -/
theorem InRange.twin (inRange : InRange order r s) : InRange order r (order - s) where
  r_pos := inRange.r_pos
  r_lt := inRange.r_lt
  s_pos := Nat.sub_pos_of_lt inRange.s_lt
  s_lt := Nat.sub_lt (Nat.zero_lt_of_lt inRange.s_lt) inRange.s_pos

theorem parts_ofParts_of_inRange
    (bounded : order < 256 ^ (32 : Nat))
    (inRange : InRange order r s) :
    parts (ofParts r s) = (r, s) := by
  rw [parts_ofParts, Nat.mod_eq_of_lt (Nat.lt_trans inRange.r_lt bounded),
    Nat.mod_eq_of_lt (Nat.lt_trans inRange.s_lt bounded)]

theorem isLow_iff : isLow order signature = true ↔ (parts signature).2 ≤ order / 2 :=
  decide_eq_true_iff

theorem isLow_ofParts_iff
    (bounded : order < 256 ^ (32 : Nat))
    (inRange : InRange order r s) :
    isLow order (ofParts r s) = true ↔ s ≤ order / 2 := by
  rw [isLow_iff, parts_ofParts_of_inRange bounded inRange]

/-- A signature in the lower half is left as it is. -/
theorem normalize_of_isLow (low : isLow order signature = true) :
    normalize order signature = signature :=
  if_neg (Nat.not_lt.mpr (isLow_iff.mp low))

/-- A signature in the upper half is replaced by the other one. -/
theorem normalize_ofParts_of_not_isLow
    (bounded : order < 256 ^ (32 : Nat))
    (inRange : InRange order r s)
    (high : ¬isLow order (ofParts r s) = true) :
    normalize order (ofParts r s) = ofParts r (order - s) := by
  rw [isLow_ofParts_iff bounded inRange, Nat.not_le] at high
  rw [normalize, parts_ofParts_of_inRange bounded inRange]
  exact if_pos high

theorem normalize_normalize
    (bounded : order < 256 ^ (32 : Nat))
    (signature : Octets 64) :
    normalize order (normalize order signature) = normalize order signature :=
  normalize_of_isLow (isLow_normalize bounded signature)

/-- Half of an odd order is no number, so one of the two signatures is in the lower half, and the
other one is not. -/
theorem isLow_twin
    (odd : order % 2 = 1)
    (bounded : order < 256 ^ (32 : Nat))
    (inRange : InRange order r s) :
    isLow order (ofParts r (order - s)) = true ↔ ¬isLow order (ofParts r s) = true := by
  rw [isLow_ofParts_iff bounded inRange, isLow_ofParts_iff bounded inRange.twin]
  have below := inRange.s_lt
  omega

/-- Both signatures are normalized to the one in the lower half. -/
theorem normalize_twin
    (odd : order % 2 = 1)
    (bounded : order < 256 ^ (32 : Nat))
    (inRange : InRange order r s) :
    normalize order (ofParts r (order - s)) = normalize order (ofParts r s) := by
  have halves := isLow_twin odd bounded inRange
  by_cases low : isLow order (ofParts r s) = true
  · have back : order - (order - s) = s := Nat.sub_sub_self (Nat.le_of_lt inRange.s_lt)
    have high : ¬isLow order (ofParts r (order - s)) = true := fun twinLow => halves.mp twinLow low
    rw [normalize_of_isLow low, normalize_ofParts_of_not_isLow bounded inRange.twin high, back]
  · rw [normalize_ofParts_of_not_isLow bounded inRange low, normalize_of_isLow (halves.mpr low)]

/-- The one in the lower half is what both signatures are normalized to. -/
theorem normalize_eq_of_isLow
    (odd : order % 2 = 1)
    (bounded : order < 256 ^ (32 : Nat))
    (inRange : InRange order r s)
    (isTwin : signature = ofParts r s ∨ signature = ofParts r (order - s))
    (low : isLow order signature = true) :
    normalize order (ofParts r s) = signature ∧
      normalize order (ofParts r (order - s)) = signature := by
  have same := normalize_twin odd bounded inRange
  rcases isTwin with rfl | rfl
  · exact ⟨normalize_of_isLow low, same.trans (normalize_of_isLow low)⟩
  · exact ⟨same.symm.trans (normalize_of_isLow low), normalize_of_isLow low⟩

/-- Of the two numbers the first is kept, and the second at most changes its sign. -/
theorem parts_normalize
    (bounded : order < 256 ^ (32 : Nat))
    (inRange : InRange order r s) :
    (parts (normalize order (ofParts r s))).1 = r ∧
      ((parts (normalize order (ofParts r s))).2 = s ∨
        (parts (normalize order (ofParts r s))).2 = order - s) := by
  by_cases low : isLow order (ofParts r s) = true
  · rw [normalize_of_isLow low, parts_ofParts_of_inRange bounded inRange]
    exact ⟨rfl, .inl rfl⟩
  · rw [normalize_ofParts_of_not_isLow bounded inRange low,
      parts_ofParts_of_inRange bounded inRange.twin]
    exact ⟨rfl, .inr rfl⟩

end EcdsaSignature

/-! ## Accepting and making signatures -/

theorem Curve.order_odd (curve : Curve) : curve.order % 2 = 1 := by
  cases curve <;> decide

theorem Curve.order_lt (curve : Curve) : curve.order < 256 ^ (32 : Nat) := by
  cases curve <;> decide

variable {suite : Suite} {message : Bytes} {curve : Curve} {signature : Octets 64}

theorem SingleKey.isLow_of_verify
    {key : SingleKey}
    (accepted : key.verify suite message (.ecdsa curve signature) = .ok true) :
    EcdsaSignature.isLow curve.order signature = true := by
  cases key with
  | ed25519 _ => cases accepted
  | slhDsa _ => cases accepted
  | ecdsa keyCurve point =>
      cases keyCurve <;> cases curve
      case secp256k1.secp256k1 | secp256r1.secp256r1 =>
        exact (Bool.and_eq_true_iff.mp (Except.ok.inj accepted)).1
      case secp256k1.secp256r1 | secp256r1.secp256k1 => cases accepted

/-- Whatever a key is and holds, a bare signature over a curve that it accepts is in the lower
half. -/
theorem PublicKey.isLow_of_verify
    {key : PublicKey}
    (accepted : key.verify suite message (.bare (.ecdsa curve signature)) = .ok true) :
    EcdsaSignature.isLow curve.order signature = true := by
  cases key with
  | bare key => exact SingleKey.isLow_of_verify accepted
  | wrapped key => exact SingleKey.isLow_of_verify accepted
  | multiEd25519 _ => cases accepted
  | multiKey _ => cases accepted

theorem PrivateKey.isLow_of_sign
    {key : PrivateKey}
    (signed : key.sign suite message = .ecdsa curve signature) :
    EcdsaSignature.isLow curve.order signature = true := by
  cases key with
  | ed25519 seed => cases signed
  | ecdsa _ secret =>
      cases signed
      exact EcdsaSignature.isLow_normalize (Curve.order_lt _) _

/-- Signatures over curves are not malleable. Of the two signatures that differ in the sign of the
second number exactly one is in the lower half of an odd order. Normalizing gives this one from
both, and leaves it as it is. No key accepts both, and what private keys make is in the lower
half. -/
theorem EcdsaSignature.one_of_twins :
    (∀ order r s : Nat, order % 2 = 1 → order < 2 ^ (256 : Nat) → InRange order r s →
      parts (ofParts r s) = (r, s) ∧
      (parts (normalize order (ofParts r s))).1 = r ∧
      ((parts (normalize order (ofParts r s))).2 = s ∨
        (parts (normalize order (ofParts r s))).2 = order - s) ∧
      isLow order (normalize order (ofParts r s)) = true ∧
      normalize order (normalize order (ofParts r s)) = normalize order (ofParts r s) ∧
      (isLow order (ofParts r (order - s)) = true ↔ ¬isLow order (ofParts r s) = true) ∧
      ∀ signature, signature = ofParts r s ∨ signature = ofParts r (order - s) →
        isLow order signature = true →
        normalize order (ofParts r s) = signature ∧
          normalize order (ofParts r (order - s)) = signature) ∧
    (∀ (suite : Suite) (key : PublicKey) (message : Bytes) (curve : Curve) (r s : Nat),
      InRange curve.order r s →
      ¬(key.verify suite message (.bare (.ecdsa curve (ofParts r s))) = .ok true ∧
        key.verify suite message (.bare (.ecdsa curve (ofParts r (curve.order - s)))) =
          .ok true)) ∧
    ∀ (suite : Suite) (curve : Curve) (secret : EcdsaPrivateKey curve) (message : Bytes),
      ∃ signature, (PrivateKey.ecdsa curve secret).sign suite message = .ecdsa curve signature ∧
        isLow curve.order signature = true := by
  refine ⟨?_, ?_, ?_⟩
  · intro order r s odd small inRange
    have bounded : order < 256 ^ (32 : Nat) := small
    obtain ⟨first, second⟩ := parts_normalize bounded inRange
    exact ⟨parts_ofParts_of_inRange bounded inRange, first, second, isLow_normalize bounded _,
      normalize_normalize bounded _, isLow_twin odd bounded inRange,
      fun _ => normalize_eq_of_isLow odd bounded inRange⟩
  · rintro suite key message curve r s inRange ⟨accepted, twinAccepted⟩
    have halves := isLow_twin curve.order_odd curve.order_lt inRange
    exact halves.mp (PublicKey.isLow_of_verify twinAccepted) (PublicKey.isLow_of_verify accepted)
  · intro suite curve secret message
    have made : (PrivateKey.ecdsa curve secret).sign suite message = .ecdsa curve _ := rfl
    exact ⟨_, made, PrivateKey.isLow_of_sign made⟩

/-- A private key over secp256r1. -/
def secp256r1Signer : PrivateKey :=
  .ecdsa .secp256r1 (.ofNumber .secp256r1 7)

theorem EcdsaSignature.one_of_twins_middle :
    (isLow 13 (ofParts 1 6) = true ∧ normalize 13 (ofParts 1 7) = ofParts 1 6) ∧
      ¬((PublicKey.bare (secp256r1Signer.publicKey .standard)).verify .standard [1]
            (.bare (.ecdsa .secp256r1 (ofParts 1 (Curve.secp256r1.order / 2)))) = .ok true ∧
        (PublicKey.bare (secp256r1Signer.publicKey .standard)).verify .standard [1]
            (.bare (.ecdsa .secp256r1
              (ofParts 1 (Curve.secp256r1.order - Curve.secp256r1.order / 2)))) = .ok true) ∧
      ∃ signature, secp256r1Signer.sign .standard [1] = .ecdsa .secp256r1 signature ∧
        isLow Curve.secp256r1.order signature = true := by
  have low : isLow 13 (ofParts 1 6) = true := by decide
  obtain ⟨numbers, accepted, made⟩ := one_of_twins
  obtain ⟨-, -, -, -, -, -, lowest⟩ := numbers 13 1 6 (by decide) (by decide)
    ⟨by decide, by decide, by decide, by decide⟩
  refine ⟨⟨low, (lowest _ (.inl rfl) low).2⟩, ?_, made .standard .secp256r1 _ _⟩
  exact accepted .standard _ [1] .secp256r1 1 _ ⟨by decide, by decide, by decide, by decide⟩

end MoveClient
