import Mathlib.Data.List.Zip
import MoveClient.Key.Generation
import MoveClient.Proofs.Key.Construction
import MoveClient.Proofs.Transaction.Authenticators
import MoveClient.Proofs.Transaction.Verification

/-!
Simulated proofs.

Owns:
- `Emission.SameLength`, and that the length of a signature's wire form is settled by its scheme;
- which signatures a simulation makes, and which keys it refuses;
- that a simulated proof has the form and the length of the proofs that it stands for.

Does not own: what a node does with a simulated transaction.
-/

namespace MoveClient

/-! ## Wire forms of one length -/

namespace Emission

/-- Both emissions are complete, and put out equally many octets. -/
def SameLength (left right : Emission) : Prop :=
  ∃ octets others,
    left.result = .ok octets ∧ right.result = .ok others ∧ octets.length = others.length

variable {left right leftNext rightNext : Emission}

theorem IsComplete.sameLength_self (complete : left.IsComplete) : left.SameLength left := by
  obtain ⟨octets, emitted⟩ := complete
  exact ⟨octets, octets, result_eq_ok_iff.mpr emitted, result_eq_ok_iff.mpr emitted, rfl⟩

theorem SameLength.append
    (firsts : left.SameLength right)
    (seconds : leftNext.SameLength rightNext) :
    (left ++ leftNext).SameLength (right ++ rightNext) := by
  obtain ⟨first, firstOther, firstEmitted, firstOtherEmitted, firstLengths⟩ := firsts
  obtain ⟨second, secondOther, secondEmitted, secondOtherEmitted, secondLengths⟩ := seconds
  simp only [result_eq_ok_iff] at firstEmitted firstOtherEmitted secondEmitted secondOtherEmitted
  refine ⟨first ++ second, firstOther ++ secondOther, ?_, ?_, ?_⟩
  · exact result_eq_ok_iff.mpr
      (append_eq_complete_iff.mpr ⟨first, second, firstEmitted, secondEmitted, rfl⟩)
  · exact result_eq_ok_iff.mpr
      (append_eq_complete_iff.mpr ⟨_, _, firstOtherEmitted, secondOtherEmitted, rfl⟩)
  · rw [List.length_append, List.length_append, firstLengths, secondLengths]

/-- Byte strings of one length stand behind the same length. -/
theorem sameLength_bytes
    {octets others : Bytes}
    (bounded : octets.length ≤ maxLength)
    (lengths : octets.length = others.length) :
    (bytes octets).SameLength (bytes others) := by
  have counted : (length octets.length).IsComplete := isComplete_length_iff.mpr bounded
  have joined : (complete octets).SameLength (complete others) := ⟨_, _, rfl, rfl, lengths⟩
  rw [bytes, bytes, ← lengths]
  exact counted.sameLength_self.append joined

theorem sameLength_concat
    {lefts rights : List Emission}
    (items : List.Forall₂ SameLength lefts rights) :
    (concat lefts).SameLength (concat rights) := by
  induction items with
  | nil => exact ⟨[], [], rfl, rfl, rfl⟩
  | cons item _ inductionHypothesis => exact item.append inductionHypothesis

/-- Sequences of items whose lengths agree stand behind the same count. -/
theorem sameLength_sequence
    {lefts rights : List Emission}
    (few : lefts.length ≤ maxLength)
    (items : List.Forall₂ SameLength lefts rights) :
    (sequence lefts).SameLength (sequence rights) := by
  have counted : (length lefts.length).IsComplete := isComplete_length_iff.mpr few
  have joined := counted.sameLength_self.append (sameLength_concat items)
  unfold SameLength at joined ⊢
  simp only [result_eq_ok_iff, sequence_eq_complete_iff] at joined ⊢
  rwa [← items.length_eq]

end Emission

theorem SingleSignature.sameLength_write
    {left right : SingleSignature}
    (sameScheme : left.scheme = right.scheme) :
    left.write.SameLength right.write := by
  have lengths : left.bytes.length = right.bytes.length ∧ left.bytes.length ≤ maxLength := by
    cases left <;> cases right <;> cases sameScheme <;>
      simp only [bytes, Octets.length_eq, true_and] <;> decide
  exact Emission.sameLength_bytes lengths.2 lengths.1

theorem WrappedSignature.sameLength_write
    {left right : WrappedSignature}
    (sameScheme : left.inner.scheme = right.inner.scheme) :
    left.write.SameLength right.write := by
  have sameVariant : left.variant = right.variant := by
    cases left <;> cases right <;> cases sameScheme <;> rfl
  have counted := (Emission.isComplete_append_iff.mp left.isComplete_write).1
  rw [WrappedSignature.write, WrappedSignature.write, ← sameVariant]
  exact counted.sameLength_self.append (SingleSignature.sameLength_write sameScheme)

/-- The length of a multi-signature of the older format is settled by the number of signatures. -/
theorem MultiEd25519Signature.sameLength_write
    {left right : MultiEd25519Signature}
    (counts : left.entries.length = right.entries.length) :
    (write left).SameLength (write right) := by
  apply Emission.sameLength_bytes
  · exact Emission.isComplete_bytes_iff.mp (isComplete_write left)
  · rw [length_bytes, length_bytes, counts]

/-- The length of a multi-signature of the newer format is settled by the schemes. -/
theorem MultiKeySignature.sameLength_write
    {left right : MultiKeySignature}
    (schemes : left.signatures.map (·.inner.scheme) = right.signatures.map (·.inner.scheme)) :
    (write left).SameLength (write right) := by
  have items : List.Forall₂ Emission.SameLength (left.signatures.map WrappedSignature.write)
      (right.signatures.map WrappedSignature.write) := by
    rw [List.forall₂_map_left_iff, List.forall₂_map_right_iff]
    rw [← List.forall₂_eq_eq_eq, List.forall₂_map_left_iff, List.forall₂_map_right_iff] at schemes
    exact schemes.imp fun _ _ sameScheme => WrappedSignature.sameLength_write sameScheme
  have few : (left.signatures.map WrappedSignature.write).length ≤ maxLength := by
    rw [List.length_map]
    exact left.length_signatures_le
  have bitmaps : (Emission.bytes left.bitmap).SameLength (Emission.bytes right.bitmap) :=
    Emission.sameLength_bytes (by rw [length_bitmap]; decide)
      (by rw [length_bitmap, length_bitmap])
  exact (Emission.sameLength_sequence few items).append bitmaps

/-! ## Signatures at the first positions -/

namespace Signers

variable {σ : Type}

/-- Signatures of the first keys, in their order. -/
def ofFirst (signatures : List σ) (few : signatures.length ≤ maxSigners) : Signers σ where
  entries := (List.range signatures.length).zip signatures
  increasing := by
    rw [← List.pairwise_map, List.map_fst_zip (by simp)]
    exact List.pairwise_lt_range
  bounded entry member := by
    have position := List.mem_range.mp (List.of_mem_zip member).1
    omega

variable {signatures : List σ} {few : signatures.length ≤ maxSigners}

@[simp] theorem positions_ofFirst :
    (ofFirst signatures few).positions = List.range signatures.length :=
  List.map_fst_zip (by simp)

@[simp] theorem signatures_ofFirst : (ofFirst signatures few).signatures = signatures :=
  List.map_snd_zip (by simp)

/-- Signatures given with their own places are the signatures of the first keys. -/
theorem indexed_ofFirst (few : signatures.length ≤ maxSigners) :
    (ofFirst signatures few).indexed =
      signatures.zipIdx.map fun entry => (Int.ofNat entry.2, entry.1) := by
  rw [List.zipIdx_eq_zip_range', ← List.zip_swap, ← List.range_eq_range', List.map_map]
  rfl

end Signers

/-! ## Signatures that are made up -/

namespace SingleKey

theorem simulated_eq_ok_iff
    {key : SingleKey}
    {signature : WrappedSignature} :
    key.simulated = .ok signature ↔ signature.inner = .zero key.scheme := by
  rcases key with _ | ⟨_ | _, _⟩ | _ <;> rcases signature with _ | _ | _ <;>
    simp [simulated, WrappedSignature.inner, SingleSignature.zero, scheme, eq_comm]

theorem simulated_eq_error_iff
    {key : SingleKey}
    {error : Error} :
    key.simulated = .error error ↔
      key.scheme = .ecdsa .secp256r1 ∧ error = .unsupported (.simulation "PublicKey") := by
  rcases key with _ | ⟨_ | _, _⟩ | _ <;> simp [simulated, scheme, eq_comm]

end SingleKey

@[simp] theorem SingleSignature.scheme_zero (scheme : KeyScheme) :
    (zero scheme).scheme = scheme := by
  cases scheme <;> rfl

/-- All octets of the signature that stands for one of a scheme are zero. -/
theorem SingleSignature.bytes_zero
    (scheme : KeyScheme)
    {octet : UInt8}
    (member : octet ∈ (zero scheme).bytes) :
    octet = 0 := by
  cases scheme <;> exact List.eq_of_mem_replicate member

/-! ## Proofs that differ in the signatures alone -/

namespace AccountAuthenticator

/-- Two proofs differ in the signatures alone: kind, key and length on the wire are the same. -/
structure SameShape (simulated proof : AccountAuthenticator) : Prop where
  variant : simulated.variant = proof.variant
  publicKey : simulated.publicKey? = proof.publicKey?
  length : simulated.write.SameLength proof.write

/-- Equal octets for the kind and for the key, then signatures of one length. -/
theorem sameLength_write
    {variant : Nat}
    {key left right : Emission}
    (small : variant ≤ maxLength)
    (keyComplete : key.IsComplete)
    (signatures : left.SameLength right) :
    (Emission.length variant ++ (key ++ left)).SameLength
      (Emission.length variant ++ (key ++ right)) := by
  have variantComplete : (Emission.length variant).IsComplete :=
    Emission.isComplete_length_iff.mpr small
  exact variantComplete.sameLength_self.append (keyComplete.sameLength_self.append signatures)

theorem sameShape_ed25519
    (key : Octets 32)
    (left right : Octets 64) :
    (ed25519 key left).SameShape (ed25519 key right) where
  variant := rfl
  publicKey := rfl
  length :=
    have signatures : (SingleSignature.ed25519 left).write.SameLength
        (SingleSignature.ed25519 right).write := SingleSignature.sameLength_write rfl
    sameLength_write (by simp [variant, maxLength]) (key.isComplete_bytes (by decide)) signatures

theorem sameShape_multiEd25519
    (key : MultiEd25519Key)
    {left right : MultiEd25519Signature}
    (counts : left.entries.length = right.entries.length) :
    (multiEd25519 key left).SameShape (multiEd25519 key right) where
  variant := rfl
  publicKey := rfl
  length := sameLength_write (by simp [variant, maxLength]) key.isComplete_write
    (MultiEd25519Signature.sameLength_write counts)

theorem sameShape_singleKey
    (key : SingleKey)
    {left right : WrappedSignature}
    (sameScheme : left.inner.scheme = right.inner.scheme) :
    (singleKey key left).SameShape (singleKey key right) where
  variant := rfl
  publicKey := rfl
  length := sameLength_write (by simp [variant, maxLength]) key.writeWrapped_carries.isComplete
    (WrappedSignature.sameLength_write sameScheme)

theorem sameShape_multiKey
    (key : MultiKey)
    {left right : MultiKeySignature}
    (schemes : left.signatures.map (·.inner.scheme) = right.signatures.map (·.inner.scheme)) :
    (multiKey key left).SameShape (multiKey key right) where
  variant := rfl
  publicKey := rfl
  length := sameLength_write (by simp [variant, maxLength]) key.write_carries.isComplete
    (MultiKeySignature.sameLength_write schemes)

end AccountAuthenticator

/-- The signatures in a proof, in the order of the positions of their keys. -/
def AccountAuthenticator.memberSignatures : AccountAuthenticator → List SingleSignature
  | ed25519 _ signature => [.ed25519 signature]
  | multiEd25519 _ signature => signature.signatures.map .ed25519
  | singleKey _ signature => [signature.inner]
  | multiKey _ signature => signature.signatures.map WrappedSignature.inner
  | absent => []

/-- The members that have signed are the first ones, as many as have to sign, each with a signature
of its scheme. -/
def MultiKey.SignedByFirst (key : MultiKey) (signature : MultiKeySignature) : Prop :=
  signature.positions = List.range key.threshold ∧
    ∀ entry ∈ signature.entries, ∃ member,
      key.keys[entry.1]? = some member ∧ entry.2.inner.scheme = member.scheme

theorem MultiKey.SignedByFirst.schemes
    {key : MultiKey}
    {signature : MultiKeySignature}
    (signed : key.SignedByFirst signature) :
    signature.signatures.map (·.inner.scheme) =
      (key.keys.take key.threshold).map SingleKey.scheme := by
  obtain ⟨positions, members⟩ := signed
  have reachable := key.threshold_le
  have counts : signature.entries.length = key.threshold := by
    rw [← Signers.length_positions, positions, List.length_range]
  apply List.ext_getElem
  · simp only [Signers.signatures, List.length_map, List.length_take]
    omega
  · intro place inside _
    rw [Signers.signatures, List.map_map, List.length_map] at inside
    obtain ⟨member, memberAt, sameScheme⟩ :=
      members signature.entries[place] (List.getElem_mem inside)
    have position : signature.entries[place].1 = place := by
      have placed : signature.positions[place]? = some place := by
        rw [positions, List.getElem?_range (by omega)]
      simpa [Signers.positions, inside] using placed
    rw [position] at memberAt
    obtain ⟨_, rfl⟩ := List.getElem?_eq_some_iff.mp memberAt
    simpa [Signers.signatures] using sameScheme

namespace PublicKey

/-- The keys that sign in a simulation, in the order of their positions. -/
def simulating : PublicKey → List SingleKey
  | bare key | wrapped key => [key]
  | multiEd25519 key => (key.keys.take key.threshold).map .ed25519
  | multiKey key => key.keys.take key.threshold

theorem simulate_multiEd25519 (key : MultiEd25519Key) :
    ∃ few : (List.replicate key.threshold (Octets.zero 64)).length ≤ maxSigners,
      (multiEd25519 key).simulate = .ok (.multiEd25519 key (.ofFirst _ few)) := by
  have few : (List.replicate key.threshold (Octets.zero 64)).length ≤ maxSigners := by
    rw [List.length_replicate]
    exact Nat.le_trans key.threshold_le key.few_keys
  refine ⟨few, ?_⟩
  have entriesEq : (Signers.ofFirst _ few).indexed =
      (List.range key.threshold).map fun position => (Int.ofNat position, Octets.zero 64) := by
    apply List.ext_getElem <;> simp [Signers.indexed, Signers.ofFirst]
  have made := MultiEd25519Signature.make_eq_ok_iff.mpr (List.Perm.of_eq entriesEq)
  simp only [simulate, made]
  rfl

theorem simulate_multiKey_of_ok
    {key : MultiKey}
    {signatures : List WrappedSignature}
    (made : (key.keys.take key.threshold).mapM SingleKey.simulated = .ok signatures) :
    ∃ few, (multiKey key).simulate = .ok (.multiKey key (.ofFirst signatures few)) := by
  have few : signatures.length ≤ maxSigners := by
    rw [← (Error.mapM_eq_ok_iff.mp made).length_eq, List.length_take]
    exact Nat.le_trans (Nat.min_le_right ..) key.few_keys
  have kept := MultiKeySignature.make_ok_eq_ok_iff.mpr
    (List.Perm.of_eq (Signers.indexed_ofFirst few))
  refine ⟨few, ?_⟩
  simp only [simulate, made, Error.ok_bind, kept]

theorem simulate_multiKey_of_error
    {key : MultiKey}
    {error : Error}
    (failed : (key.keys.take key.threshold).mapM SingleKey.simulated = .error error) :
    (multiKey key).simulate = .error error := by
  simp only [simulate, failed]
  rfl

/-- Signatures that stand for those of keys are zero signatures of their schemes. -/
theorem mapM_simulated_eq_ok_iff
    {members : List SingleKey}
    {signatures : List WrappedSignature} :
    members.mapM SingleKey.simulated = .ok signatures ↔
      signatures.map WrappedSignature.inner = members.map fun member => .zero member.scheme := by
  rw [Error.mapM_eq_ok_iff, eq_comm, ← List.forall₂_eq_eq_eq, List.forall₂_map_left_iff,
    List.forall₂_map_right_iff]
  simp only [SingleKey.simulated_eq_ok_iff]
  exact iff_of_eq (congrArg (List.Forall₂ · members signatures)
    (funext₂ fun _ _ => propext eq_comm))

/-- All keys have signatures that stand for theirs, unless one of them is over secp256r1. -/
theorem mapM_simulated_eq_error_iff
    {members : List SingleKey}
    {error : Error} :
    members.mapM SingleKey.simulated = .error error ↔
      (∃ member ∈ members, member.scheme = .ecdsa .secp256r1) ∧
        error = .unsupported (.simulation "PublicKey") := by
  constructor
  · intro failed
    obtain ⟨before, member, after, rfl, _, refused⟩ := Error.mapM_eq_error_iff.mp failed
    obtain ⟨scheme, cause⟩ := SingleKey.simulated_eq_error_iff.mp refused
    exact ⟨⟨member, by simp, scheme⟩, cause⟩
  · rintro ⟨⟨member, isMember, refused⟩, rfl⟩
    cases simulated : members.mapM SingleKey.simulated with
    | error cause =>
        obtain ⟨_, _, _, _, _, failed⟩ := Error.mapM_eq_error_iff.mp simulated
        rw [(SingleKey.simulated_eq_error_iff.mp failed).2]
    | ok signatures =>
        have listed : SingleSignature.zero member.scheme ∈
            signatures.map WrappedSignature.inner := by
          rw [mapM_simulated_eq_ok_iff.mp simulated]
          exact List.mem_map_of_mem isMember
        obtain ⟨signature, _, sameSignature⟩ := List.mem_map.mp listed
        rw [refused] at sameSignature
        cases signature <;> cases sameSignature

/-- Every key that signs in a simulation gets a zero signature of its scheme. -/
theorem memberSignatures_of_simulate
    {key : PublicKey}
    {proof : AccountAuthenticator}
    (made : key.simulate = .ok proof) :
    proof.memberSignatures = key.simulating.map fun member => .zero member.scheme := by
  cases key with
  | bare key | wrapped key =>
      rcases key with _ | ⟨_ | _, _⟩ | _ <;> cases made <;> rfl
  | multiEd25519 key =>
      obtain ⟨few, simulated⟩ := simulate_multiEd25519 key
      cases simulated.symm.trans made
      have signing : key.threshold = (key.keys.take key.threshold).length :=
        (List.length_take_of_le key.threshold_le).symm
      rw [AccountAuthenticator.memberSignatures, Signers.signatures_ofFirst, simulating,
        List.map_map, List.map_replicate]
      nth_rewrite 1 [signing]
      exact List.map_const'.symm
  | multiKey key =>
      cases signed : (key.keys.take key.threshold).mapM SingleKey.simulated with
      | error error => cases (simulate_multiKey_of_error signed).symm.trans made
      | ok signatures =>
          obtain ⟨few, simulated⟩ := simulate_multiKey_of_ok signed
          cases simulated.symm.trans made
          rw [AccountAuthenticator.memberSignatures, Signers.signatures_ofFirst]
          exact mapM_simulated_eq_ok_iff.mp signed

/-- A simulation fails exactly if a key that signs in it is one over secp256r1. -/
theorem simulate_eq_error_iff
    {key : PublicKey}
    {error : Error} :
    key.simulate = .error error ↔
      (∃ member ∈ key.simulating, member.scheme = .ecdsa .secp256r1) ∧
        error = .unsupported (.simulation "PublicKey") := by
  cases key with
  | bare key | wrapped key =>
      rcases key with _ | ⟨_ | _, _⟩ | _ <;>
        simp [simulate, SingleKey.simulated, simulating, SingleKey.scheme, eq_comm, bind,
          Except.bind]
  | multiEd25519 key =>
      obtain ⟨few, simulated⟩ := simulate_multiEd25519 key
      apply iff_of_false (by rw [simulated]; nofun)
      rintro ⟨⟨member, isMember, refused⟩, _⟩
      obtain ⟨_, _, rfl⟩ := List.mem_map.mp isMember
      cases refused
  | multiKey key =>
      rw [simulating, ← mapM_simulated_eq_error_iff]
      cases signed : (key.keys.take key.threshold).mapM SingleKey.simulated with
      | error cause => simp only [simulate_multiKey_of_error signed, Except.error.injEq]
      | ok signatures =>
          obtain ⟨few, simulated⟩ := simulate_multiKey_of_ok signed
          exact iff_of_false (by rw [simulated]; nofun) nofun

/-- What stands for the proof of a single key has the shape of every proof by its private key. -/
theorem exists_simulate_of_signsTransactions
    (suite : Suite)
    {key : PrivateKey}
    (signs : key.SignsTransactions) :
    ∃ simulated, (bare (key.publicKey suite)).simulate = .ok simulated ∧
      ∀ message, ∃ proof, key.prove suite message = .ok proof ∧ simulated.SameShape proof := by
  cases key with
  | ed25519 seed =>
      exact ⟨_, rfl, fun message => ⟨_, rfl, AccountAuthenticator.sameShape_ed25519 ..⟩⟩
  | ecdsa curve secret =>
      rcases signs with signs | signs <;> cases signs
      have sameScheme (left right : Octets 64) : (WrappedSignature.secp256k1 left).inner.scheme =
          (WrappedSignature.secp256k1 right).inner.scheme := rfl
      exact ⟨_, rfl, fun message =>
        ⟨_, rfl, AccountAuthenticator.sameShape_singleKey _ (sameScheme ..)⟩⟩

theorem exists_simulate_multiEd25519 (key : MultiEd25519Key) :
    ∃ simulated, (multiEd25519 key).simulate = .ok simulated ∧
      ∀ signature : MultiEd25519Signature, signature.entries.length = key.threshold →
        simulated.SameShape (.multiEd25519 key signature) := by
  obtain ⟨few, made⟩ := simulate_multiEd25519 key
  refine ⟨_, made, fun signature counts => AccountAuthenticator.sameShape_multiEd25519 key ?_⟩
  rw [counts, ← Signers.length_positions, Signers.positions_ofFirst, List.length_range,
    List.length_replicate]

theorem exists_simulate_multiKey
    {key : MultiKey}
    (simulable : ∀ member ∈ key.keys.take key.threshold, member.scheme ≠ .ecdsa .secp256r1) :
    ∃ simulated, (multiKey key).simulate = .ok (.multiKey key simulated) ∧
      ∀ signature, key.SignedByFirst signature →
        AccountAuthenticator.SameShape (.multiKey key simulated) (.multiKey key signature) ∧
          simulated.bitmap = signature.bitmap := by
  cases signed : (key.keys.take key.threshold).mapM SingleKey.simulated with
  | error error =>
      obtain ⟨⟨member, isMember, refused⟩, _⟩ := mapM_simulated_eq_error_iff.mp signed
      exact absurd refused (simulable member isMember)
  | ok signatures =>
      obtain ⟨few, made⟩ := simulate_multiKey_of_ok signed
      have zeros := mapM_simulated_eq_ok_iff.mp signed
      refine ⟨_, made, fun signature signing =>
        ⟨AccountAuthenticator.sameShape_multiKey key ?_, ?_⟩⟩
      · have schemes := congrArg (List.map SingleSignature.scheme) zeros
        rw [Signers.signatures_ofFirst, signing.schemes]
        simpa only [List.map_map, Function.comp_def, SingleSignature.scheme_zero] using schemes
      · have count : signatures.length = key.threshold := by
          rw [← List.length_map WrappedSignature.inner, zeros, List.length_map,
            List.length_take_of_le key.threshold_le]
        rw [MultiKeySignature.bitmap, MultiKeySignature.bitmap, signing.1,
          Signers.positions_ofFirst, count]

end PublicKey

/-- No signature over secp256r1 can be wrapped, so no transaction is signed by a key over it. -/
theorem Signable.sign_secp256r1
    (suite : Suite)
    (signable : Signable)
    {message : Bytes}
    (secret : EcdsaPrivateKey .secp256r1)
    (signed : signable.signingMessage = .ok message) :
    signable.sign suite (.ecdsa .secp256r1 secret) =
      .error (.unsupported .bareSecp256r1Signature) := by
  rw [sign, signed]
  rfl

namespace PublicKey

/-- A simulation stands for signing. For a key that signs transactions it gives the kind, the key
and the length of what signing gives, whatever is signed. For a set of keys it does so for proofs by
as many keys as have to sign; in a set of mixed schemes these are the first ones. All of its
signatures are zero. It fails exactly for keys over secp256r1, which cannot sign either. -/
theorem simulation_has_shape_of_signing (suite : Suite) :
    (∀ (key : PrivateKey) (signable : Signable), key.SignsTransactions →
      ∃ simulated, (bare (key.publicKey suite)).simulate = .ok simulated ∧
        ∀ message, signable.signingMessage = .ok message →
          ∃ proof, signable.sign suite key = .ok proof ∧ simulated.SameShape proof) ∧
    (∀ key : MultiEd25519Key,
      ∃ simulated, (multiEd25519 key).simulate = .ok simulated ∧
        ∀ signature : MultiEd25519Signature, signature.entries.length = key.threshold →
          simulated.SameShape (.multiEd25519 key signature)) ∧
    (∀ key : MultiKey,
      (∀ member ∈ key.keys.take key.threshold, member.scheme ≠ .ecdsa .secp256r1) →
      ∃ simulated, (multiKey key).simulate = .ok (.multiKey key simulated) ∧
        ∀ signature, key.SignedByFirst signature →
          AccountAuthenticator.SameShape (.multiKey key simulated) (.multiKey key signature) ∧
            simulated.bitmap = signature.bitmap) ∧
    (∀ (key : PublicKey) (proof : AccountAuthenticator), key.simulate = .ok proof →
      proof.memberSignatures.map SingleSignature.scheme = key.simulating.map SingleKey.scheme ∧
        ∀ signature ∈ proof.memberSignatures, ∀ octet ∈ signature.bytes, octet = 0) ∧
    (∀ (key : PublicKey) (error : Error), key.simulate = .error error ↔
      (∃ member ∈ key.simulating, member.scheme = .ecdsa .secp256r1) ∧
        error = .unsupported (.simulation "PublicKey")) ∧
    (∀ signature : SingleSignature, signature.scheme = .ecdsa .secp256r1 →
      WrappedSignature.ofSingle signature = .error (.unsupported .bareSecp256r1Signature)) ∧
    ∀ (signable : Signable) (message : Bytes) (secret : EcdsaPrivateKey .secp256r1),
      signable.signingMessage = .ok message →
      signable.sign suite (.ecdsa .secp256r1 secret) =
        .error (.unsupported .bareSecp256r1Signature) := by
  refine ⟨?single, exists_simulate_multiEd25519, fun _ => exists_simulate_multiKey, ?zero,
    fun _ _ => simulate_eq_error_iff, ?unwrapped, ?unsigned⟩
  case single =>
    intro key signable signs
    obtain ⟨simulated, made, shaped⟩ := exists_simulate_of_signsTransactions suite signs
    refine ⟨simulated, made, fun message signed => ?_⟩
    obtain ⟨proof, proved, sameShape⟩ := shaped message
    refine ⟨proof, ?_, sameShape⟩
    rw [Signable.sign, signed]
    exact proved
  case zero =>
    intro key proof made
    rw [memberSignatures_of_simulate made, List.map_map]
    refine ⟨List.map_congr_left fun member _ => SingleSignature.scheme_zero member.scheme, ?_⟩
    intro signature listed octet member
    obtain ⟨_, _, rfl⟩ := List.mem_map.mp listed
    exact SingleSignature.bytes_zero _ member
  case unwrapped =>
    intro signature scheme
    rcases signature with _ | ⟨_ | _, _⟩ | _ <;> cases scheme
    rfl
  case unsigned =>
    intro signable message secret signed
    exact signable.sign_secp256r1 suite secret signed

def secp256k1Signer : PrivateKey :=
  .ecdsa .secp256k1 (.ofNumber .secp256k1 7)

/-- One of two keys has to sign. -/
def ed25519Pair : MultiEd25519Key :=
  ⟨[.zero 32, .zero 32], 1, by decide, by decide, by decide, by decide⟩

/-- A signature by the second key of `ed25519Pair`. -/
def secondOfPair : MultiEd25519Signature :=
  ⟨[(1, ⟨List.replicate 64 7, rfl⟩)], by decide, by decide⟩

/-- Two of three keys have to sign, the last of them over secp256r1. -/
def mixedKeys : MultiKey :=
  ⟨[.ed25519 (.zero 32), .slhDsa (.zero 32), .ecdsa .secp256r1 (.generator .secp256r1)], 2,
    by decide, by decide, Nat.succ_ne_zero _, by decide⟩

/-- Signatures by the first two of `mixedKeys`. -/
def mixedSignature : MultiKeySignature :=
  .ofFirst
    [.ed25519 ⟨List.replicate 64 7, rfl⟩, .slhDsa ⟨List.replicate 7856 9, List.length_replicate⟩]
    (by decide)

theorem signedByFirst_mixedSignature : mixedKeys.SignedByFirst mixedSignature := by
  refine ⟨rfl, ?_⟩
  intro entry member
  rcases List.mem_cons.mp member with rfl | member
  · exact ⟨_, rfl, rfl⟩
  · cases List.mem_singleton.mp member
    exact ⟨_, rfl, rfl⟩

theorem simulation_has_shape_of_signing_mixedKeys :
    (∃ simulated proof,
      (bare (PrivateKey.publicKey .standard secp256k1Signer)).simulate = .ok simulated ∧
        (Signable.scriptCall (.address .one)).sign .standard secp256k1Signer = .ok proof ∧
          simulated.SameShape proof) ∧
    (∃ simulated, (multiEd25519 ed25519Pair).simulate = .ok simulated ∧
      simulated.SameShape (.multiEd25519 ed25519Pair secondOfPair)) ∧
    (∃ simulated, (multiKey mixedKeys).simulate = .ok (.multiKey mixedKeys simulated) ∧
      AccountAuthenticator.SameShape (.multiKey mixedKeys simulated)
          (.multiKey mixedKeys mixedSignature) ∧
        simulated.bitmap = mixedSignature.bitmap ∧
          ∀ signature ∈ simulated.signatures, ∀ octet ∈ signature.inner.bytes, octet = 0) ∧
    (bare (.ecdsa .secp256r1 (.generator .secp256r1))).simulate =
      .error (.unsupported (.simulation "PublicKey")) := by
  obtain ⟨single, pair, multi, zeros, refused, -⟩ := simulation_has_shape_of_signing .standard
  have signable : ∃ message, (Signable.scriptCall (.address .one)).signingMessage = .ok message :=
    ⟨_, Signable.signingMessage_eq_ok_iff.mpr ⟨_, rfl, rfl⟩⟩
  refine ⟨?_, ?_, ?_, ?_⟩
  · obtain ⟨message, signed⟩ := signable
    obtain ⟨simulated, made, shaped⟩ :=
      single secp256k1Signer (.scriptCall (.address .one)) (.inr rfl)
    obtain ⟨proof, proved, sameShape⟩ := shaped message signed
    exact ⟨simulated, proof, made, proved, sameShape⟩
  · obtain ⟨simulated, made, shaped⟩ := pair ed25519Pair
    exact ⟨simulated, made, shaped secondOfPair rfl⟩
  · obtain ⟨simulated, made, shaped⟩ := multi mixedKeys (by decide)
    obtain ⟨sameShape, bitmaps⟩ := shaped mixedSignature signedByFirst_mixedSignature
    refine ⟨simulated, made, sameShape, bitmaps, ?_⟩
    intro signature listed
    exact (zeros _ _ made).2 _ (List.mem_map_of_mem listed)
  · exact (refused _ _).mpr ⟨⟨_, List.mem_singleton.mpr rfl, rfl⟩, rfl⟩

end PublicKey

end MoveClient
