import MoveClient.Proofs.Key.Spelling
import MoveClient.Proofs.Wire.Parts

/-!
The wire forms of keys and signatures.

Owns:
- the parts of each kind of key and of signature;
- that these parts are what is written for it, and what it is read from.

Does not own: the octets that spell a key behind their length, see `MoveClient.Proofs.Key.Spelling`.
-/

namespace MoveClient

variable {input rest : Bytes}

/-! ## Octets behind their length -/

/-- Few octets stand behind one octet with their number. -/
theorem Emission.bytes_of_length_lt
    {octets : Bytes}
    (short : octets.length < 128) :
    bytes octets = .complete (UInt8.ofNat octets.length :: octets) := by
  have bounded : octets.length ≤ maxLength := Nat.le_trans (Nat.le_of_lt short) (by decide)
  unfold bytes length lengthOctets
  rw [if_pos bounded]
  simp only [maxLengthOctets, short, if_true]
  rfl

theorem Octets.isComplete_bytes
    {size : Nat}
    (octets : Octets size)
    (bounded : size ≤ maxLength) :
    (Emission.bytes octets.bytes).IsComplete := by
  rw [Emission.isComplete_bytes_iff, octets.length_eq]
  exact bounded

namespace Reader

variable {α : Type}

/-- A value that is spelled by octets behind their length. -/
theorem parsed_eq_ok_iff
    {parse : Bytes → Except Error α}
    {next : Bytes → Reader α}
    {value : α}
    (law : ∀ spelled middle,
      next spelled middle = .ok value rest ↔ parse spelled = .ok value ∧ middle = rest) :
    (Reader.bytes >>= next) input = .ok value rest ↔
      ∃ spelled, parse spelled = .ok value ∧ (Emission.bytes spelled).Spells input rest := by
  simp only [bind_eq_ok_iff, bytes_eq_ok_iff, law]
  constructor
  · rintro ⟨spelled, middle, found, parsed, rfl⟩
    exact ⟨spelled, parsed, found⟩
  · rintro ⟨spelled, parsed, found⟩
    exact ⟨spelled, rest, found, parsed, rfl⟩

end Reader

/-! ## Single keys -/

namespace SingleKey

/-- The part of the wire form that spells the key. -/
def part : SingleKey → WirePart
  | ed25519 key => .plain (Emission.bytes key.bytes).octets
  | ecdsa _ key => .point key.coordinates
  | slhDsa key => .plain (Emission.bytes key.bytes).octets

theorem bytes_ecdsa
    {curve : Curve}
    (key : EcdsaPublicKey curve) :
    Emission.bytes key.bytes = .complete (65 :: 4 :: key.coordinates) := by
  have lengthEq := key.length_bytes
  rw [Emission.bytes_of_length_lt (by omega), lengthEq]
  rfl

theorem bytes_coordinates
    {curve : Curve}
    (key : EcdsaPublicKey curve) :
    Emission.bytes key.coordinates = .complete (64 :: key.coordinates) := by
  rw [Emission.bytes_of_length_lt (by rw [key.length_coordinates]; decide),
    key.length_coordinates]
  rfl

theorem write_carries (key : SingleKey) : key.write.Carries [key.part] := by
  cases key with
  | ed25519 key | slhDsa key => exact (key.isComplete_bytes (by decide)).carries
  | ecdsa curve key => exact Emission.carries_singleton_iff.mpr (bytes_ecdsa key)

theorem read_eq_ok_iff
    {scheme : KeyScheme}
    {key : SingleKey} :
    read scheme input = .ok key rest ↔
      key.scheme = scheme ∧ WirePart.Found [key.part] input rest := by
  have read_iff : read scheme input = .ok key rest ↔
      ∃ spelled, ofBytes scheme spelled = .ok key ∧ (Emission.bytes spelled).Spells input rest :=
    Reader.parsed_eq_ok_iff fun spelled _ => by cases ofBytes scheme spelled <;> simp
  rw [read_iff]
  simp only [ofBytes_eq_ok_iff, and_assoc, exists_and_left]
  apply and_congr_right
  intro _
  cases key with
  | ed25519 key | slhDsa key =>
      simp only [IsSpelledBy, exists_eq_left, part]
      exact (key.isComplete_bytes (by decide)).found_iff.symm
  | ecdsa curve key =>
      rw [part, WirePart.found_singleton_iff]
      constructor
      · rintro ⟨_, rfl | rfl, spelled⟩
        · rw [bytes_ecdsa, Emission.spells_complete_iff] at spelled
          exact ⟨_, .written (.point key.coordinates), spelled⟩
        · rw [bytes_coordinates, Emission.spells_complete_iff] at spelled
          exact ⟨_, .unmarked key.coordinates, spelled⟩
      · rintro ⟨_, written | unmarked, spelled⟩
        · refine ⟨key.bytes, .inl rfl, ?_⟩
          rw [bytes_ecdsa, Emission.spells_complete_iff]
          exact spelled
        · refine ⟨key.coordinates, .inr rfl, ?_⟩
          rw [bytes_coordinates, Emission.spells_complete_iff]
          exact spelled

/-- The parts of the key behind the number of its scheme. -/
def wrappedParts (key : SingleKey) : List WirePart :=
  [.plain (Emission.length key.variant).octets, key.part]

theorem isComplete_variant (key : SingleKey) : (Emission.length key.variant).IsComplete := by
  have small : key.variant ≤ 5 := by
    rcases key with _ | ⟨_ | _, _⟩ | _ <;> simp [variant]
  exact Emission.isComplete_length_iff.mpr (Nat.le_trans small (by decide))

theorem writeWrapped_carries (key : SingleKey) : key.writeWrapped.Carries key.wrappedParts :=
  key.isComplete_variant.carries.append key.write_carries

theorem readWrapped_eq_ok_iff {key : SingleKey} :
    readWrapped input = .ok key rest ↔ WirePart.Found key.wrappedParts input rest := by
  rw [readWrapped, wrappedParts, WirePart.found_cons_iff]
  simp only [Reader.bind_eq_ok_iff, Reader.length_eq_ok_iff, key.isComplete_variant.found_iff]
  constructor
  · rintro ⟨variant, middle, counted, read⟩
    split at read
    case h_1 | h_2 | h_3 | h_6 =>
      obtain ⟨schemeEq, found⟩ := read_eq_ok_iff.mp read
      cases key <;> cases schemeEq
      exact ⟨middle, counted, found⟩
    case h_4 | h_5 | h_7 => exact absurd read Reader.throw_ne_ok
  · rintro ⟨middle, counted, found⟩
    refine ⟨key.variant, middle, counted, ?_⟩
    have read := read_eq_ok_iff.mpr ⟨rfl, found⟩
    rcases key with _ | ⟨_ | _, _⟩ | _ <;> exact read

end SingleKey

/-! ## Single signatures -/

namespace SingleSignature

theorem isComplete_write (signature : SingleSignature) : signature.write.IsComplete := by
  cases signature with
  | ed25519 octets | ecdsa _ octets | slhDsa octets => exact octets.isComplete_bytes (by decide)

theorem read_eq_ok_iff
    {scheme : KeyScheme}
    {signature : SingleSignature} :
    read scheme input = .ok signature rest ↔
      signature.scheme = scheme ∧ signature.write.Spells input rest := by
  have read_iff : read scheme input = .ok signature rest ↔
      ∃ spelled, ofBytes scheme spelled = .ok signature ∧
        (Emission.bytes spelled).Spells input rest :=
    Reader.parsed_eq_ok_iff fun spelled _ => by cases ofBytes scheme spelled <;> simp
  rw [read_iff]
  simp only [ofBytes_eq_ok_iff, and_assoc, exists_and_left, exists_eq_left']
  rfl

end SingleSignature

namespace WrappedSignature

theorem isComplete_write (signature : WrappedSignature) : signature.write.IsComplete := by
  have small : signature.variant ≤ 4 := by
    cases signature <;> simp [variant]
  have variantComplete : (Emission.length signature.variant).IsComplete :=
    Emission.isComplete_length_iff.mpr (Nat.le_trans small (by decide))
  exact Emission.isComplete_append_iff.mpr ⟨variantComplete, signature.inner.isComplete_write⟩

theorem ofSingle_eq_ok_iff
    {single : SingleSignature}
    {signature : WrappedSignature} :
    ofSingle single = .ok signature ↔ single = signature.inner := by
  constructor
  · rcases single with _ | ⟨_ | _, _⟩ | _ <;> rintro ⟨⟩ <;> rfl
  · rintro rfl
    cases signature <;> rfl

theorem readScheme_eq_ok_iff
    {scheme : KeyScheme}
    {signature : WrappedSignature} :
    readScheme scheme input = .ok signature rest ↔
      signature.inner.scheme = scheme ∧ signature.inner.write.Spells input rest := by
  unfold readScheme
  simp only [Reader.bind_eq_ok_iff, SingleSignature.read_eq_ok_iff]
  constructor
  · rintro ⟨single, middle, ⟨schemeEq, spelled⟩, wrapped⟩
    cases wrappedEq : ofSingle single with
    | error error =>
        rw [wrappedEq] at wrapped
        exact absurd wrapped Reader.throw_ne_ok
    | ok result =>
        rw [wrappedEq] at wrapped
        obtain ⟨rfl, rfl⟩ := Reader.pure_eq_ok_iff.mp wrapped
        rw [ofSingle_eq_ok_iff.mp wrappedEq] at schemeEq spelled
        exact ⟨schemeEq, spelled⟩
  · rintro ⟨schemeEq, spelled⟩
    refine ⟨signature.inner, rest, ⟨schemeEq, spelled⟩, ?_⟩
    rw [ofSingle_eq_ok_iff.mpr rfl]
    exact Reader.pure_eq_ok_iff.mpr ⟨rfl, rfl⟩

theorem read_eq_ok_iff {signature : WrappedSignature} :
    read input = .ok signature rest ↔ signature.write.Spells input rest := by
  rw [read, write, Emission.spells_append_iff]
  simp only [Reader.bind_eq_ok_iff, Reader.length_eq_ok_iff]
  constructor
  · rintro ⟨variant, middle, counted, read⟩
    split at read
    case h_1 | h_2 | h_5 =>
      obtain ⟨schemeEq, spelled⟩ := readScheme_eq_ok_iff.mp read
      cases signature <;> cases schemeEq
      exact ⟨middle, counted, spelled⟩
    case h_3 | h_4 | h_6 => exact absurd read Reader.throw_ne_ok
  · rintro ⟨middle, counted, spelled⟩
    refine ⟨signature.variant, middle, counted, ?_⟩
    have read := readScheme_eq_ok_iff.mpr ⟨rfl, spelled⟩
    cases signature <;> exact read

end WrappedSignature

/-! ## Sets of keys of the older format -/

namespace MultiEd25519Key

theorem isComplete_write (key : MultiEd25519Key) : key.write.IsComplete := by
  have few : key.keys.length ≤ 32 := key.few_keys
  have bounded : key.bytes.length ≤ 32 * 32 + 1 := by
    rw [length_bytes]
    omega
  exact Emission.isComplete_bytes_iff.mpr (Nat.le_trans bounded (by decide))

theorem read_eq_ok_iff {key : MultiEd25519Key} :
    read input = .ok key rest ↔ key.write.Spells input rest := by
  have read_iff : read input = .ok key rest ↔
      ∃ spelled, ofBytes spelled = .ok key ∧ (Emission.bytes spelled).Spells input rest :=
    Reader.parsed_eq_ok_iff fun spelled _ => by cases ofBytes spelled <;> simp
  rw [read_iff]
  simp only [ofBytes_eq_ok_iff, exists_eq_left']
  rfl

end MultiEd25519Key

namespace Signers

variable {σ : Type}

/-- There are no more entries than positions. -/
theorem length_entries_le (signers : Signers σ) : signers.entries.length ≤ maxSigners := by
  have inside : signers.positions ⊆ List.range maxSigners := by
    intro position member
    exact List.mem_range.mpr (lt_of_mem_positions member)
  have := signers.nodup_positions.length_le_of_subset inside
  rwa [length_positions, List.length_range] at this

end Signers

namespace MultiEd25519Signature

theorem isComplete_write (signature : MultiEd25519Signature) :
    (write signature).IsComplete := by
  have few : signature.entries.length ≤ 32 := signature.length_entries_le
  have bounded : signature.bytes.length ≤ 64 * 32 + 4 := by
    rw [length_bytes]
    omega
  exact Emission.isComplete_bytes_iff.mpr (Nat.le_trans bounded (by decide))

theorem read_eq_ok_iff {signature : MultiEd25519Signature} :
    read input = .ok signature rest ↔ (write signature).Spells input rest := by
  have read_iff : read input = .ok signature rest ↔
      ∃ spelled, ofBytes spelled = .ok signature ∧
        (Emission.bytes spelled).Spells input rest :=
    Reader.parsed_eq_ok_iff fun spelled _ => by cases ofBytes spelled <;> simp
  rw [read_iff]
  simp only [ofBytes_eq_ok_iff, exists_eq_left']
  rfl

end MultiEd25519Signature

/-! ## Sets of keys of any scheme -/

namespace MultiKey

/-- The count, each key with the number of its scheme, and the threshold. -/
def parts (key : MultiKey) : List WirePart :=
  .plain (Emission.length key.keys.length).octets :: key.keys.flatMap SingleKey.wrappedParts ++
    [.plain (Emission.integer .u8 key.threshold).octets]

theorem isComplete_threshold (key : MultiKey) :
    (Emission.integer .u8 key.threshold).IsComplete := by
  have few : key.keys.length ≤ 32 := key.few_keys
  have reachable := key.threshold_le
  apply Emission.isComplete_integer_iff.mpr
  show (0 : Int) ≤ key.threshold ∧ (key.threshold : Int) < (256 : Nat)
  omega

theorem length_keys_le (key : MultiKey) : key.keys.length ≤ maxLength :=
  Nat.le_trans key.few_keys (by decide)

theorem write_carries (key : MultiKey) : key.write.Carries key.parts :=
  (Emission.carries_sequence key.length_keys_le fun member _ => member.writeWrapped_carries).append
    key.isComplete_threshold.carries

theorem read_eq_ok_iff {key : MultiKey} :
    read input = .ok key rest ↔ WirePart.Found key.parts input rest := by
  unfold read parts
  simp only [Reader.bind_eq_ok_iff, WirePart.found_append_iff, key.isComplete_threshold.found_iff,
    Reader.sequence_eq_ok_iff_found fun _ _ _ => SingleKey.readWrapped_eq_ok_iff,
    Reader.integer_eq_ok_iff]
  constructor
  · rintro ⟨keys, middle, ⟨_, keysFound⟩, threshold, end_, thresholdSpelled, made⟩
    cases makeEq : make keys threshold with
    | error error =>
        rw [makeEq] at made
        exact absurd made Reader.throw_ne_ok
    | ok result =>
        rw [makeEq] at made
        obtain ⟨rfl, rfl⟩ := Reader.pure_eq_ok_iff.mp made
        obtain ⟨rfl, rfl⟩ := make_eq_ok_iff.mp makeEq
        exact ⟨middle, keysFound, thresholdSpelled⟩
  · rintro ⟨middle, keysFound, thresholdSpelled⟩
    refine ⟨key.keys, middle, ⟨key.length_keys_le, keysFound⟩, key.threshold, rest,
      thresholdSpelled, ?_⟩
    rw [make_eq_ok_iff.mpr ⟨rfl, rfl⟩]
    exact Reader.pure_eq_ok_iff.mpr ⟨rfl, rfl⟩

end MultiKey

/-! ## Signatures of sets of keys of any scheme -/

namespace MultiKeySignature

/-- The count, each signature with the number of its scheme, and the marks of their positions. -/
def parts (signature : MultiKeySignature) : List WirePart :=
  .plain (Emission.length signature.signatures.length).octets ::
    signature.signatures.flatMap (fun member => [.plain member.write.octets]) ++
    [.marks signature.bitmap]

/-- Marks are found where up to four octets stand behind their length, and the others are zero. -/
theorem found_marks_iff
    {bitmap : Bytes}
    (whole : bitmap.length = 4) :
    WirePart.Found [.marks bitmap] input rest ↔
      ∃ given : Bytes,
        (given.length ≤ 4 ∧ bitmap = given ++ List.replicate (4 - given.length) 0) ∧
          (Emission.bytes given).Spells input rest := by
  rw [WirePart.found_singleton_iff]
  constructor
  · rintro ⟨_, tolerated, rfl⟩
    cases tolerated with
    | written =>
        refine ⟨bitmap, ⟨Nat.le_of_eq whole, by simp [whole]⟩, ?_⟩
        rw [Emission.bytes_of_length_lt (by omega), Emission.spells_complete_iff, whole]
        rfl
    | short given missing lengths =>
        have missingEq : 4 - given.length = missing := by omega
        refine ⟨given, ⟨by omega, by rw [missingEq]⟩, ?_⟩
        rw [Emission.bytes_of_length_lt (by omega), Emission.spells_complete_iff]
  · rintro ⟨given, ⟨short, rfl⟩, spelled⟩
    rw [Emission.bytes_of_length_lt (by omega), Emission.spells_complete_iff] at spelled
    exact ⟨_, .short given (4 - given.length) (by omega), spelled⟩

theorem length_signatures_le (signature : MultiKeySignature) :
    signature.signatures.length ≤ maxLength := by
  have few := signature.length_entries_le
  rw [Signers.signatures, List.length_map]
  exact Nat.le_trans few (by decide)

theorem write_carries (signature : MultiKeySignature) :
    (write signature).Carries signature.parts := by
  have lengthEq := signature.length_bitmap
  have marksCarry : (Emission.bytes signature.bitmap).Carries [.marks signature.bitmap] := by
    rw [Emission.carries_singleton_iff, Emission.bytes_of_length_lt (by omega), lengthEq]
    rfl
  exact (Emission.carries_sequence signature.length_signatures_le fun member _ =>
    member.isComplete_write.carries).append marksCarry

theorem read_eq_ok_iff {signature : MultiKeySignature} :
    read input = .ok signature rest ↔ WirePart.Found signature.parts input rest := by
  unfold read parts
  simp only [Reader.bind_eq_ok_iff, WirePart.found_append_iff, Reader.bytes_eq_ok_iff,
    Reader.sequence_eq_ok_iff_found fun _ _ _ =>
      WrappedSignature.read_eq_ok_iff.trans (WrappedSignature.isComplete_write _).found_iff.symm,
    found_marks_iff signature.length_bitmap]
  constructor
  · rintro ⟨signatures, middle, ⟨_, signaturesFound⟩, given, _, givenSpelled, joined⟩
    cases joinedEq : ofBitmap signatures given with
    | error error =>
        rw [joinedEq] at joined
        exact absurd joined Reader.throw_ne_ok
    | ok result =>
        rw [joinedEq] at joined
        obtain ⟨rfl, rfl⟩ := Reader.pure_eq_ok_iff.mp joined
        obtain ⟨rfl, marked⟩ := ofBitmap_eq_ok_iff.mp joinedEq
        exact ⟨middle, signaturesFound, given, marked, givenSpelled⟩
  · rintro ⟨middle, signaturesFound, given, marked, givenSpelled⟩
    refine ⟨signature.signatures, middle, ⟨signature.length_signatures_le, signaturesFound⟩,
      given, rest, givenSpelled, ?_⟩
    rw [ofBitmap_eq_ok_iff.mpr ⟨rfl, marked⟩]
    exact Reader.pure_eq_ok_iff.mpr ⟨rfl, rfl⟩

end MultiKeySignature

end MoveClient
