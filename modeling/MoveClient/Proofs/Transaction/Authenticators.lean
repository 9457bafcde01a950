import MoveClient.Proofs.Key.WireForm
import MoveClient.Proofs.Transaction.Reading
import MoveClient.Transaction.Signed

/-!
The wire forms of proofs.

Owns:
- the parts of an account's proof, of the secondary signers and of a transaction's proofs;
- that these parts are what is written for them, and what they are read from;
- that only too many secondary signers cannot be written.

Does not own: the transaction that the proofs are for.
-/

namespace MoveClient

variable {input rest : Bytes}

/-! ## The proof of one account -/

namespace AccountAuthenticator

/-- The parts of key and signature. -/
def memberParts : AccountAuthenticator → List WirePart
  | ed25519 key signature =>
      [.plain (Emission.bytes key.bytes).octets, .plain (Emission.bytes signature.bytes).octets]
  | multiEd25519 key signature => [.plain key.write.octets, .plain signature.write.octets]
  | singleKey key signature => key.wrappedParts ++ [.plain signature.write.octets]
  | multiKey key signature => key.parts ++ signature.parts
  | absent => []

/-- The number of the kind, key and signature. -/
def parts (proof : AccountAuthenticator) : List WirePart :=
  .plain (Emission.length proof.variant).octets :: proof.memberParts

theorem isComplete_variant (proof : AccountAuthenticator) :
    (Emission.length proof.variant).IsComplete := by
  have small : proof.variant ≤ 4 := by
    cases proof <;> simp [variant]
  exact Emission.isComplete_length_iff.mpr (Nat.le_trans small (by decide))

theorem writeParts_carries (proof : AccountAuthenticator) :
    proof.writeParts.Carries proof.memberParts := by
  cases proof with
  | ed25519 key signature =>
      exact (key.isComplete_bytes (by decide)).carries.append
        (signature.isComplete_bytes (by decide)).carries
  | multiEd25519 key signature =>
      exact key.isComplete_write.carries.append
        (MultiEd25519Signature.isComplete_write signature).carries
  | singleKey key signature =>
      exact key.writeWrapped_carries.append signature.isComplete_write.carries
  | multiKey key signature =>
      exact key.write_carries.append (MultiKeySignature.write_carries signature)
  | absent => rfl

theorem write_carries (proof : AccountAuthenticator) : proof.write.Carries proof.parts :=
  proof.isComplete_variant.carries.append proof.writeParts_carries

theorem readOctets_eq_ok_iff
    {size : Nat}
    {part : KeyPart}
    {octets : Octets size} :
    readOctets size part input = .ok octets rest ↔
      (Emission.bytes octets.bytes).Spells input rest := by
  have read_iff : readOctets size part input = .ok octets rest ↔
      ∃ spelled, Octets.expect size .ed25519 part spelled = .ok octets ∧
        (Emission.bytes spelled).Spells input rest :=
    Reader.parsed_eq_ok_iff fun spelled _ => by
      cases Octets.expect size .ed25519 part spelled <;> simp
  rw [read_iff]
  simp only [Octets.expect_eq_ok_iff, exists_eq_left']

theorem readEd25519_eq_ok_iff {both : Octets 32 × Octets 64} :
    readEd25519 input = .ok both rest ↔
      WirePart.Found (ed25519 both.1 both.2).memberParts input rest := by
  obtain ⟨key, signature⟩ := both
  rw [readEd25519, Reader.both_eq_ok_iff, memberParts, WirePart.found_cons_iff]
  simp only [readOctets_eq_ok_iff, Prod.mk.injEq, (key.isComplete_bytes (by decide)).found_iff,
    (signature.isComplete_bytes (by decide)).found_iff]
  constructor
  · rintro ⟨_, _, ⟨rfl, rfl⟩, spelled⟩
    exact spelled
  · intro spelled
    exact ⟨key, signature, ⟨rfl, rfl⟩, spelled⟩

theorem readMultiEd25519_eq_ok_iff {both : MultiEd25519Key × MultiEd25519Signature} :
    readMultiEd25519 input = .ok both rest ↔
      WirePart.Found (multiEd25519 both.1 both.2).memberParts input rest := by
  obtain ⟨key, signature⟩ := both
  rw [readMultiEd25519, Reader.both_eq_ok_iff, memberParts, WirePart.found_cons_iff]
  simp only [MultiEd25519Key.read_eq_ok_iff, MultiEd25519Signature.read_eq_ok_iff, Prod.mk.injEq,
    key.isComplete_write.found_iff,
    (MultiEd25519Signature.isComplete_write signature).found_iff]
  constructor
  · rintro ⟨_, _, ⟨rfl, rfl⟩, spelled⟩
    exact spelled
  · intro spelled
    exact ⟨key, signature, ⟨rfl, rfl⟩, spelled⟩

theorem readSingleKey_eq_ok_iff
    {key : SingleKey}
    {signature : WrappedSignature} :
    (∃ middle, SingleKey.readWrapped input = .ok key middle ∧
      WrappedSignature.read middle = .ok signature rest) ↔
      WirePart.Found (singleKey key signature).memberParts input rest := by
  simp only [memberParts, WirePart.found_append_iff, SingleKey.readWrapped_eq_ok_iff,
    WrappedSignature.read_eq_ok_iff, signature.isComplete_write.found_iff]

theorem readMultiKey_eq_ok_iff
    {key : MultiKey}
    {signature : MultiKeySignature} :
    (∃ middle, MultiKey.read input = .ok key middle ∧
      MultiKeySignature.read middle = .ok signature rest) ↔
      WirePart.Found (multiKey key signature).memberParts input rest := by
  simp only [memberParts, WirePart.found_append_iff, MultiKey.read_eq_ok_iff,
    MultiKeySignature.read_eq_ok_iff]

/-- A proof is read from its parts, and from no other octets. -/
theorem read_eq_ok_iff {proof : AccountAuthenticator} :
    read input = .ok proof rest ↔ WirePart.Found proof.parts input rest := by
  rw [read, parts, WirePart.found_cons_iff]
  simp only [Reader.bind_eq_ok_iff, Reader.length_eq_ok_iff, proof.isComplete_variant.found_iff]
  constructor
  · rintro ⟨variant, middle, counted, read⟩
    split at read
    case h_1 =>
      obtain ⟨both, bothRead, rfl⟩ := Reader.map_eq_ok_iff.mp read
      exact ⟨middle, counted, readEd25519_eq_ok_iff.mp bothRead⟩
    case h_2 =>
      obtain ⟨both, bothRead, rfl⟩ := Reader.map_eq_ok_iff.mp read
      exact ⟨middle, counted, readMultiEd25519_eq_ok_iff.mp bothRead⟩
    case h_3 =>
      obtain ⟨key, signature, rfl, bothRead⟩ := Reader.both_eq_ok_iff.mp read
      exact ⟨middle, counted, readSingleKey_eq_ok_iff.mp bothRead⟩
    case h_4 =>
      obtain ⟨key, signature, rfl, bothRead⟩ := Reader.both_eq_ok_iff.mp read
      exact ⟨middle, counted, readMultiKey_eq_ok_iff.mp bothRead⟩
    case h_5 =>
      obtain ⟨rfl, rfl⟩ := Reader.pure_eq_ok_iff.mp read
      exact ⟨middle, counted, WirePart.found_nil_iff.mpr rfl⟩
    case h_6 => exact absurd read Reader.throw_ne_ok
  · rintro ⟨middle, counted, found⟩
    refine ⟨proof.variant, middle, counted, ?_⟩
    cases proof with
    | ed25519 key signature =>
        exact Reader.map_eq_ok_iff.mpr
          ⟨(key, signature), readEd25519_eq_ok_iff.mpr found, rfl⟩
    | multiEd25519 key signature =>
        exact Reader.map_eq_ok_iff.mpr
          ⟨(key, signature), readMultiEd25519_eq_ok_iff.mpr found, rfl⟩
    | singleKey key signature =>
        exact Reader.both_eq_ok_iff.mpr
          ⟨key, signature, rfl, readSingleKey_eq_ok_iff.mpr found⟩
    | multiKey key signature =>
        exact Reader.both_eq_ok_iff.mpr
          ⟨key, signature, rfl, readMultiKey_eq_ok_iff.mpr found⟩
    | absent => exact Reader.pure_eq_ok_iff.mpr ⟨rfl, WirePart.found_nil_iff.mp found⟩

end AccountAuthenticator

/-! ## The proofs of a transaction -/

namespace Authenticator

/-- The secondary signers with their proofs. -/
def secondary : Authenticator → List (Address × AccountAuthenticator)
  | multiAgent _ secondary | feePayer _ secondary _ => secondary
  | _ => []

/-- The parts of secondary signers: first their addresses, then their proofs. -/
def secondaryParts (secondary : List (Address × AccountAuthenticator)) : List WirePart :=
  (.plain (Emission.length secondary.length).octets ::
      (secondary.map Prod.fst).flatMap fun address => [.plain address.write.octets]) ++
    (.plain (Emission.length secondary.length).octets ::
      (secondary.map Prod.snd).flatMap AccountAuthenticator.parts)

/-- The parts of the proofs. -/
def memberParts : Authenticator → List WirePart
  | ed25519 key signature => (AccountAuthenticator.ed25519 key signature).memberParts
  | multiEd25519 key signature => (AccountAuthenticator.multiEd25519 key signature).memberParts
  | multiAgent proof secondary => proof.parts ++ secondaryParts secondary
  | feePayer proof secondary payer =>
      proof.parts ++ secondaryParts secondary ++ [.plain payer.1.write.octets] ++ payer.2.parts
  | singleSender proof => proof.parts

/-- The number of the kind and the proofs. -/
def parts (authenticator : Authenticator) : List WirePart :=
  .plain (Emission.length authenticator.variant).octets :: authenticator.memberParts

theorem isComplete_variant (authenticator : Authenticator) :
    (Emission.length authenticator.variant).IsComplete := by
  have small : authenticator.variant ≤ 4 := by
    cases authenticator <;> simp [variant]
  exact Emission.isComplete_length_iff.mpr (Nat.le_trans small (by decide))

theorem writeSecondary_carries
    {secondary : List (Address × AccountAuthenticator)}
    (few : secondary.length ≤ maxLength) :
    (writeSecondary secondary).Carries (secondaryParts secondary) := by
  have addressesCarry :
      (Emission.sequence ((secondary.map Prod.fst).map Address.write)).Carries _ :=
    Emission.carries_sequence (by rwa [List.length_map]) fun address _ =>
      (Address.isComplete_write address).carries
  have proofsCarry :
      (Emission.sequence ((secondary.map Prod.snd).map AccountAuthenticator.write)).Carries _ :=
    Emission.carries_sequence (by rwa [List.length_map]) fun proof _ => proof.write_carries
  rw [List.map_map, List.length_map] at addressesCarry proofsCarry
  exact addressesCarry.append proofsCarry

theorem length_le_of_isComplete_writeSecondary
    {secondary : List (Address × AccountAuthenticator)}
    (complete : (writeSecondary secondary).IsComplete) :
    secondary.length ≤ maxLength := by
  have counted := (Emission.isComplete_sequence_iff.mp
    (Emission.isComplete_append_iff.mp complete).1).1
  rwa [List.length_map] at counted

theorem address_read_eq_ok_iff_found {address : Address} :
    Address.read input = .ok address rest ↔
      WirePart.Found [.plain address.write.octets] input rest :=
  Address.read_eq_ok_iff.trans (Address.isComplete_write address).found_iff.symm

theorem readSecondary_eq_ok_iff {secondary : List (Address × AccountAuthenticator)} :
    readSecondary input = .ok secondary rest ↔
      secondary.length ≤ maxLength ∧ WirePart.Found (secondaryParts secondary) input rest := by
  unfold readSecondary
  simp only [Reader.bind_eq_ok_iff,
    Reader.sequence_eq_ok_iff_found fun _ _ _ => address_read_eq_ok_iff_found,
    Reader.sequence_eq_ok_iff_found fun _ _ _ => AccountAuthenticator.read_eq_ok_iff]
  constructor
  · rintro ⟨addresses, middle, ⟨few, addressesFound⟩, proofs, end_, ⟨_, proofsFound⟩, joined⟩
    split at joined
    · rename_i lengths
      obtain ⟨rfl, rfl⟩ := Reader.pure_eq_ok_iff.mp joined
      have count : (addresses.zip proofs).length = addresses.length :=
        List.length_zip.trans (by omega)
      rw [secondaryParts, List.map_fst_zip (Nat.le_of_eq lengths),
        List.map_snd_zip (Nat.le_of_eq lengths.symm), count, WirePart.found_append_iff]
      exact ⟨few, middle, addressesFound, lengths ▸ proofsFound⟩
    · exact absurd joined Reader.throw_ne_ok
  · rintro ⟨few, found⟩
    obtain ⟨middle, addressesFound, proofsFound⟩ := WirePart.found_append_iff.mp found
    refine ⟨secondary.map Prod.fst, middle, ⟨?_, ?_⟩, secondary.map Prod.snd, rest, ⟨?_, ?_⟩, ?_⟩
    · rwa [List.length_map]
    · rwa [List.length_map]
    · rwa [List.length_map]
    · rwa [List.length_map]
    · rw [if_pos (by rw [List.length_map, List.length_map])]
      exact Reader.pure_eq_ok_iff.mpr ⟨(List.zip_of_prod rfl rfl).symm, rfl⟩

theorem writeParts_carries
    {authenticator : Authenticator}
    (few : authenticator.secondary.length ≤ maxLength) :
    authenticator.writeParts.Carries authenticator.memberParts := by
  cases authenticator with
  | ed25519 key signature =>
      exact (AccountAuthenticator.ed25519 key signature).writeParts_carries
  | multiEd25519 key signature =>
      exact (AccountAuthenticator.multiEd25519 key signature).writeParts_carries
  | multiAgent proof secondary => exact proof.write_carries.append (writeSecondary_carries few)
  | feePayer proof secondary payer =>
      exact ((proof.write_carries.append (writeSecondary_carries few)).append
        (Address.isComplete_write payer.1).carries).append payer.2.write_carries
  | singleSender proof => exact proof.write_carries

theorem write_carries
    {authenticator : Authenticator}
    (few : authenticator.secondary.length ≤ maxLength) :
    authenticator.write.Carries authenticator.parts :=
  authenticator.isComplete_variant.carries.append (writeParts_carries few)

/-- Proofs can be written unless the secondary signers are too many to be counted. -/
theorem isComplete_write_iff {authenticator : Authenticator} :
    authenticator.write.IsComplete ↔ authenticator.secondary.length ≤ maxLength := by
  constructor
  · intro complete
    have partsComplete := (Emission.isComplete_append_iff.mp complete).2
    cases authenticator with
    | ed25519 | multiEd25519 | singleSender => exact Nat.zero_le maxLength
    | multiAgent proof secondary =>
        exact length_le_of_isComplete_writeSecondary
          (Emission.isComplete_append_iff.mp partsComplete).2
    | feePayer proof secondary payer =>
        have beforePayer := (Emission.isComplete_append_iff.mp
          (Emission.isComplete_append_iff.mp partsComplete).1).1
        exact length_le_of_isComplete_writeSecondary
          (Emission.isComplete_append_iff.mp beforePayer).2
  · intro few
    exact (write_carries few).isComplete

theorem readMultiAgent_eq_ok_iff
    {proof : AccountAuthenticator}
    {secondary : List (Address × AccountAuthenticator)} :
    (∃ middle, AccountAuthenticator.read input = .ok proof middle ∧
      readSecondary middle = .ok secondary rest) ↔
      secondary.length ≤ maxLength ∧
        WirePart.Found (multiAgent proof secondary).memberParts input rest := by
  simp only [memberParts, WirePart.found_append_iff, AccountAuthenticator.read_eq_ok_iff,
    readSecondary_eq_ok_iff]
  constructor
  · rintro ⟨middle, proofFound, few, found⟩
    exact ⟨few, middle, proofFound, found⟩
  · rintro ⟨few, middle, proofFound, found⟩
    exact ⟨middle, proofFound, few, found⟩

theorem readFeePayer_eq_ok_iff
    {proof : AccountAuthenticator}
    {secondary : List (Address × AccountAuthenticator)}
    {payer : Address × AccountAuthenticator} :
    (∃ afterProof afterSecondary afterAddress,
      AccountAuthenticator.read input = .ok proof afterProof ∧
        readSecondary afterProof = .ok secondary afterSecondary ∧
        Address.read afterSecondary = .ok payer.1 afterAddress ∧
        AccountAuthenticator.read afterAddress = .ok payer.2 rest) ↔
      secondary.length ≤ maxLength ∧
        WirePart.Found (feePayer proof secondary payer).memberParts input rest := by
  simp only [memberParts, WirePart.found_append_iff, AccountAuthenticator.read_eq_ok_iff,
    readSecondary_eq_ok_iff, address_read_eq_ok_iff_found]
  constructor
  · rintro ⟨afterProof, afterSecondary, afterAddress, proofFound, ⟨few, found⟩, addressFound,
      payerFound⟩
    exact ⟨few, afterAddress, ⟨afterSecondary, ⟨afterProof, proofFound, found⟩, addressFound⟩,
      payerFound⟩
  · rintro ⟨few, afterAddress, ⟨afterSecondary, ⟨afterProof, proofFound, found⟩, addressFound⟩,
      payerFound⟩
    exact ⟨afterProof, afterSecondary, afterAddress, proofFound, ⟨few, found⟩, addressFound,
      payerFound⟩

/-- Proofs are read from their parts, and from no other octets. -/
theorem read_eq_ok_iff {authenticator : Authenticator} :
    read input = .ok authenticator rest ↔
      authenticator.secondary.length ≤ maxLength ∧
        WirePart.Found authenticator.parts input rest := by
  rw [read, parts, WirePart.found_cons_iff]
  simp only [Reader.bind_eq_ok_iff, Reader.length_eq_ok_iff,
    authenticator.isComplete_variant.found_iff]
  constructor
  · rintro ⟨variant, middle, counted, read⟩
    split at read
    case h_1 =>
      obtain ⟨both, bothRead, rfl⟩ := Reader.map_eq_ok_iff.mp read
      exact ⟨Nat.zero_le _, middle, counted,
        AccountAuthenticator.readEd25519_eq_ok_iff.mp bothRead⟩
    case h_2 =>
      obtain ⟨both, bothRead, rfl⟩ := Reader.map_eq_ok_iff.mp read
      exact ⟨Nat.zero_le _, middle, counted,
        AccountAuthenticator.readMultiEd25519_eq_ok_iff.mp bothRead⟩
    case h_3 =>
      obtain ⟨proof, secondary, rfl, bothRead⟩ := Reader.both_eq_ok_iff.mp read
      obtain ⟨few, found⟩ := readMultiAgent_eq_ok_iff.mp bothRead
      exact ⟨few, middle, counted, found⟩
    case h_4 =>
      simp only [Reader.bind_eq_ok_iff, Reader.pure_eq_ok_iff] at read
      obtain ⟨proof, afterProof, proofRead, secondary, afterSecondary, secondaryRead, address,
        afterAddress, addressRead, payerProof, end_, payerRead, rfl, rfl⟩ := read
      obtain ⟨few, found⟩ : secondary.length ≤ maxLength ∧
          WirePart.Found (feePayer proof secondary (address, payerProof)).memberParts middle end_ :=
        readFeePayer_eq_ok_iff.mp
          ⟨afterProof, afterSecondary, afterAddress, proofRead, secondaryRead, addressRead,
            payerRead⟩
      exact ⟨few, middle, counted, found⟩
    case h_5 =>
      obtain ⟨proof, proofRead, rfl⟩ := Reader.map_eq_ok_iff.mp read
      exact ⟨Nat.zero_le _, middle, counted, AccountAuthenticator.read_eq_ok_iff.mp proofRead⟩
    case h_6 => exact absurd read Reader.throw_ne_ok
  · rintro ⟨few, middle, counted, found⟩
    refine ⟨authenticator.variant, middle, counted, ?_⟩
    cases authenticator with
    | ed25519 key signature =>
        exact Reader.map_eq_ok_iff.mpr
          ⟨(key, signature), AccountAuthenticator.readEd25519_eq_ok_iff.mpr found, rfl⟩
    | multiEd25519 key signature =>
        exact Reader.map_eq_ok_iff.mpr
          ⟨(key, signature), AccountAuthenticator.readMultiEd25519_eq_ok_iff.mpr found, rfl⟩
    | multiAgent proof secondary =>
        exact Reader.both_eq_ok_iff.mpr
          ⟨proof, secondary, rfl, readMultiAgent_eq_ok_iff.mpr ⟨few, found⟩⟩
    | feePayer proof secondary payer =>
        obtain ⟨afterProof, afterSecondary, afterAddress, proofRead, secondaryRead, addressRead,
          payerRead⟩ := readFeePayer_eq_ok_iff.mpr ⟨few, found⟩
        show (do
          let proof ← AccountAuthenticator.read
          let secondary ← readSecondary
          let payerAddress ← Address.read
          let payerProof ← AccountAuthenticator.read
          pure (feePayer proof secondary (payerAddress, payerProof))) middle = _
        simp only [Reader.bind_eq_ok_iff, Reader.pure_eq_ok_iff]
        exact ⟨proof, afterProof, proofRead, secondary, afterSecondary, secondaryRead, payer.1,
          afterAddress, addressRead, payer.2, rest, payerRead, rfl, rfl⟩
    | singleSender proof =>
        exact Reader.map_eq_ok_iff.mpr
          ⟨proof, AccountAuthenticator.read_eq_ok_iff.mpr found, rfl⟩

end Authenticator

end MoveClient
