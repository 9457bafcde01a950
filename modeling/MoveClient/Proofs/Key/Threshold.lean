import Mathlib.Data.Finset.Card
import MoveClient.Key.Suite
import MoveClient.Proofs.Key.Spelling

/-!
What the verdict of a set of keys is worth.

Owns:
- `Signers.DecidesThreshold`, which says of a verdict on some members' signatures when it accepts,
  and how many different members stand behind it;
- that the verdicts of both kinds of key sets are of this kind, whatever the members accept.

Does not own: which entries a multi-signature is made of, see `MoveClient.Proofs.Key.Construction`
and `MoveClient.Proofs.Key.Spelling`.
-/

namespace MoveClient

namespace Signers

variable {κ σ : Type} {accepts : κ → σ → Except Error Bool} {keys : List κ} {threshold : Nat}

/-- A verdict of a set of keys on the signatures of some of its members. -/
structure DecidesThreshold
    (accepts : κ → σ → Except Error Bool)
    (keys : List κ)
    (threshold : Nat)
    (signers : Signers σ)
    (verdict : Except Error Bool) : Prop where
  /-- There is a verdict if every member gives one. -/
  answers :
    (∀ key signature, ∃ accepted, accepts key signature = .ok accepted) →
      ∃ accepted, verdict = .ok accepted
  /-- It accepts exactly if there are enough entries, each at the position of a key, and that key
  accepts the signature. -/
  accepted_iff :
    verdict = .ok true ↔
      threshold ≤ signers.entries.length ∧
        ∀ entry ∈ signers.entries, ∃ inside : entry.1 < keys.length,
          accepts keys[entry.1] entry.2 = .ok true
  increasing : signers.positions.Pairwise (· < ·)
  /-- If it accepts, enough different members signed. -/
  members_signed :
    verdict = .ok true →
      ∃ members : Finset Nat, threshold ≤ members.card ∧
        ∀ position ∈ members, ∃ (inside : position < keys.length) (signature : σ),
          (position, signature) ∈ signers.entries ∧ accepts keys[position] signature = .ok true
  threshold_pos : 1 ≤ threshold
  threshold_le : threshold ≤ keys.length

/-- The positions of some signatures, all of them different, are as many members. -/
theorem exists_members
    {signers : Signers σ}
    (enough : threshold ≤ signers.entries.length)
    (accepted : ∀ entry ∈ signers.entries, ∃ inside : entry.1 < keys.length,
      accepts keys[entry.1] entry.2 = .ok true) :
    ∃ members : Finset Nat, threshold ≤ members.card ∧
      ∀ position ∈ members, ∃ (inside : position < keys.length) (signature : σ),
        (position, signature) ∈ signers.entries ∧ accepts keys[position] signature = .ok true := by
  refine ⟨signers.positions.toFinset, ?_, ?_⟩
  · rw [List.toFinset_card_of_nodup signers.nodup_positions, length_positions]
    exact enough
  · intro position member
    obtain ⟨entry, entryMember, rfl⟩ := List.mem_map.mp (List.mem_toFinset.mp member)
    obtain ⟨inside, entryAccepted⟩ := accepted entry entryMember
    exact ⟨inside, entry.2, entryMember, entryAccepted⟩

theorem decidesThreshold
    (signers : Signers σ)
    (thresholdPos : 1 ≤ threshold)
    (thresholdLe : threshold ≤ keys.length) :
    signers.DecidesThreshold accepts keys threshold
      (acceptsThreshold accepts keys threshold signers.entries) := by
  have accepted_iff :
      acceptsThreshold accepts keys threshold signers.entries = .ok true ↔
        threshold ≤ signers.entries.length ∧
          ∀ entry ∈ signers.entries, ∃ inside : entry.1 < keys.length,
            accepts keys[entry.1] entry.2 = .ok true := by
    rw [acceptsThreshold_eq_ok_true_iff]
    constructor
    · rintro ⟨enough, accepted⟩
      refine ⟨enough, ?_⟩
      intro entry member
      obtain ⟨key, found, keyAccepts⟩ := accepted entry member
      obtain ⟨inside, rfl⟩ := List.getElem?_eq_some_iff.mp found
      exact ⟨inside, keyAccepts⟩
    · rintro ⟨enough, accepted⟩
      refine ⟨enough, ?_⟩
      intro entry member
      obtain ⟨inside, keyAccepts⟩ := accepted entry member
      exact ⟨_, List.getElem?_eq_getElem inside, keyAccepts⟩
  exact
    { answers := fun answers => exists_acceptsThreshold answers threshold signers.entries
      accepted_iff
      increasing := signers.increasing_positions
      members_signed := by
        intro accepted
        obtain ⟨enough, allAccepted⟩ := accepted_iff.mp accepted
        exact exists_members enough allAccepted
      threshold_pos := thresholdPos
      threshold_le := thresholdLe }

end Signers

/-- No set of keys is satisfied by fewer members than its threshold. For every set of either kind
and every multi-signature, whatever the members accept and for the schemes of a suite, the verdict
accepts exactly if there are enough entries and each is accepted by the key at its position; the
members that signed then are different ones. Sets of keys and multi-signatures, made from
positions or from keys or read from octets, hold what they are made from and nothing else. -/
theorem keySets_need_threshold :
    (∀ (accepts : SingleKey → WrappedSignature → Except Error Bool) (key : MultiKey)
      (signature : MultiKeySignature),
      signature.DecidesThreshold accepts key.keys key.threshold
        (acceptsThreshold accepts key.keys key.threshold signature.entries)) ∧
    (∀ (accepts : Octets 32 → Octets 64 → Except Error Bool) (key : MultiEd25519Key)
      (signature : MultiEd25519Signature),
      signature.DecidesThreshold accepts key.keys key.threshold
        (acceptsThreshold accepts key.keys key.threshold signature.entries)) ∧
    (∀ (suite : Suite) (message : Bytes) (key : MultiKey) (signature : MultiKeySignature),
      signature.DecidesThreshold
        (fun member inner => member.verify suite message inner.inner) key.keys key.threshold
        (key.verify suite message signature)) ∧
    (∀ (suite : Suite) (message : Bytes) (key : MultiEd25519Key)
      (signature : MultiEd25519Signature),
      signature.DecidesThreshold
        (fun member inner => .ok (suite.ed25519Verify member message inner)) key.keys
        key.threshold (key.verify suite message signature)) ∧
    (∀ (keys : List SingleKey) (threshold : Int) (key : MultiKey),
      MultiKey.make keys threshold = .ok key ↔
        key.keys = keys ∧ (key.threshold : Int) = threshold) ∧
    (∀ (keys : List (Octets 32)) (threshold : Int) (key : MultiEd25519Key),
      MultiEd25519Key.make keys threshold = .ok key ↔
        key.keys = keys ∧ (key.threshold : Int) = threshold) ∧
    (∀ (entries : List (Int × WrappedSignature)) (signature : MultiKeySignature),
      MultiKeySignature.make Except.ok entries = .ok signature ↔
        signature.indexed.Perm entries) ∧
    (∀ (entries : List (Int × Octets 64)) (signature : MultiEd25519Signature),
      MultiEd25519Signature.make entries = .ok signature ↔ signature.indexed.Perm entries) ∧
    (∀ (key : MultiKey) (entries : List (PublicKey × Signature)) (signature : MultiKeySignature),
      MultiKeySignature.ofKeys key entries = .ok signature ↔
        ∃ kept,
          List.Forall₂ (KeepsKey PublicKey.single Signature.toWrapped key.keys) entries kept ∧
            signature.entries.Perm kept) ∧
    (∀ (key : MultiEd25519Key) (entries : List (PublicKey × Signature))
      (signature : MultiEd25519Signature),
      MultiEd25519Signature.ofPublicKeys key entries = .ok signature ↔
        ∃ kept,
          List.Forall₂ (KeepsKey PublicKey.toEd25519 Signature.toEd25519 key.keys) entries kept ∧
            signature.entries.Perm kept) ∧
    (∀ (bytes : Bytes) (key : MultiEd25519Key),
      MultiEd25519Key.ofBytes bytes = .ok key ↔ key.bytes = bytes) ∧
    (∀ (bytes : Bytes) (signature : MultiEd25519Signature),
      MultiEd25519Signature.ofBytes bytes = .ok signature ↔ signature.bytes = bytes) ∧
    (∀ (signatures : List WrappedSignature) (marks : Bytes) (signature : MultiKeySignature),
      MultiKeySignature.ofBitmap signatures marks = .ok signature ↔
        signature.signatures = signatures ∧ marks.length ≤ 4 ∧
          signature.bitmap = marks ++ List.replicate (4 - marks.length) 0) := by
  refine ⟨?_, ?_, ?_, ?_, ?_, ?_, ?_, ?_, ?_, ?_, ?_, ?_, ?_⟩
  · intro accepts key signature
    exact signature.decidesThreshold (Nat.pos_of_ne_zero key.threshold_ne_zero) key.threshold_le
  · intro accepts key signature
    exact signature.decidesThreshold key.threshold_pos key.threshold_le
  · intro suite message key signature
    exact signature.decidesThreshold (Nat.pos_of_ne_zero key.threshold_ne_zero) key.threshold_le
  · intro suite message key signature
    exact signature.decidesThreshold key.threshold_pos key.threshold_le
  · exact fun _ _ _ => MultiKey.make_eq_ok_iff
  · exact fun _ _ _ => MultiEd25519Key.make_eq_ok_iff
  · exact fun _ _ => MultiKeySignature.make_ok_eq_ok_iff
  · exact fun _ _ => MultiEd25519Signature.make_eq_ok_iff
  · exact fun _ _ _ => MultiKeySignature.ofKeys_eq_ok_iff
  · exact fun _ _ _ => MultiEd25519Signature.ofPublicKeys_eq_ok_iff
  · exact fun _ _ => MultiEd25519Key.ofBytes_eq_ok_iff
  · exact fun _ _ => MultiEd25519Signature.ofBytes_eq_ok_iff
  · exact fun _ _ _ => MultiKeySignature.ofBitmap_eq_ok_iff

end MoveClient
