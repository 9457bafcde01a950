import MoveClient.Proofs.Key.Preimages

/-!
Public keys with one wire form.

Owns:
- `PublicKey.front` and `PublicKey.tail`, the number in front of the wire form of a key and what
  follows it;
- `PublicKey.Shares`, the keys that have one wire form because it does not name their schemes;
- that no other two keys have one wire form.

Does not own: how the wire forms of keys are read.
-/

namespace MoveClient

/-! ## Keys of one signer -/

/-- No point is spelled by as few octets as the keys of the other schemes. -/
theorem EcdsaPublicKey.bytes_ne_octets
    {curve : Curve}
    (key : EcdsaPublicKey curve)
    (spelled : Octets 32) :
    key.bytes ≠ spelled.bytes := by
  intro same
  have lengths := congrArg List.length same
  rw [key.length_bytes, spelled.length_eq] at lengths
  omega

namespace SingleKey

theorem length_bytes (key : SingleKey) : key.bytes.length = 32 ∨ key.bytes.length = 65 := by
  cases key with
  | ed25519 octets | slhDsa octets => exact .inl octets.length_eq
  | ecdsa curve key => exact .inr key.length_bytes

theorem variant_le (key : SingleKey) : key.variant ≤ 5 := by
  rcases key with _ | ⟨_ | _, _⟩ | _ <;> simp [variant]

theorem write_eq_complete (key : SingleKey) :
    key.write = .complete (UInt8.ofNat key.bytes.length :: key.bytes) := by
  apply Emission.bytes_of_length_lt
  have lengths := key.length_bytes
  omega

theorem length_octets_write (key : SingleKey) :
    key.write.octets.length = 33 ∨ key.write.octets.length = 66 := by
  have lengths := key.length_bytes
  rw [write_eq_complete]
  simp only [Emission.octets, List.length_cons]
  omega

theorem writeWrapped_eq_complete (key : SingleKey) :
    key.writeWrapped = .complete ((Emission.length key.variant).octets ++ key.write.octets) := by
  obtain ⟨octets, counted⟩ := key.isComplete_variant
  rw [writeWrapped, counted, write_eq_complete]
  rfl

theorem length_octets_writeWrapped (key : SingleKey) :
    key.writeWrapped.octets.length = 34 ∨ key.writeWrapped.octets.length = 67 := by
  have lengths := key.length_octets_write
  have front : (Emission.length key.variant).octets.length = 1 := by
    rcases key with _ | ⟨_ | _, _⟩ | _ <;> rfl
  have octetsEq : key.writeWrapped.octets =
      (Emission.length key.variant).octets ++ key.write.octets := by
    rw [writeWrapped_eq_complete]
    rfl
  rw [octetsEq, List.length_append, front]
  omega

end SingleKey

/-! ## Public keys -/

namespace PublicKey

variable {key other : PublicKey}

/-- The number that the wire form of a key begins with. -/
def front : PublicKey → Nat
  | bare key => key.bytes.length
  | wrapped key => key.variant
  | multiEd25519 set => set.bytes.length
  | multiKey set => set.keys.length

/-- What follows the number. -/
def tail : PublicKey → Bytes
  | bare key => key.bytes
  | wrapped key => key.write.octets
  | multiEd25519 set => set.bytes
  | multiKey set =>
      (set.keys.flatMap fun member => member.writeWrapped.octets) ++
        (Emission.integer .u8 set.threshold).octets

theorem front_le (key : PublicKey) : key.front ≤ maxLength := by
  cases key with
  | bare single =>
      have lengths := single.length_bytes
      simp only [front, maxLength]
      omega
  | wrapped single =>
      have small := single.variant_le
      simp only [front, maxLength]
      omega
  | multiEd25519 set =>
      have few : set.keys.length ≤ 32 := set.few_keys
      have lengthEq := set.length_bytes
      simp only [front, maxLength]
      omega
  | multiKey set => exact set.length_keys_le

theorem write_eq_complete (key : PublicKey) :
    key.write = .complete ((Emission.length key.front).octets ++ key.tail) := by
  have bounded := key.front_le
  cases key with
  | bare single => exact Emission.bytes_eq_complete bounded
  | wrapped single => exact single.writeWrapped_eq_complete
  | multiEd25519 set => exact Emission.bytes_eq_complete bounded
  | multiKey set =>
      have members := Emission.carries_sequence set.length_keys_le fun member _ =>
        member.writeWrapped_carries.isComplete.carries
      have carries := members.append set.isComplete_threshold.carries
      refine carries.trans (congrArg Emission.complete ?_)
      simp [front, tail, WirePart.octets, List.flatMap_assoc]

/-- The wire form tells the number in front and what follows it. -/
theorem write_eq_iff_front :
    key.write = other.write ↔ key.front = other.front ∧ key.tail = other.tail := by
  rw [write_eq_complete, write_eq_complete, Emission.complete.injEq]
  apply Iff.intro
  · intro same
    exact Emission.length_append_injective key.front_le other.front_le same
  · intro same
    rw [same.1, same.2]

/-! ## Keys of different kinds -/

/-- Keys that are written as a byte string alone: bare keys, and sets in the older format. -/
def IsPlain : PublicKey → Prop
  | bare _ | multiEd25519 _ => True
  | wrapped _ | multiKey _ => False

/-- The number in front of a byte string is its length, and no key is spelled by fewer than 32
octets. -/
theorem IsPlain.length_tail
    (plain : key.IsPlain) :
    key.tail.length = key.front ∧ 32 ≤ key.front := by
  cases key with
  | bare single =>
      have lengths := single.length_bytes
      refine ⟨rfl, ?_⟩
      simp only [front]
      omega
  | multiEd25519 set =>
      have enough := set.enough_keys
      have lengthEq := set.length_bytes
      refine ⟨rfl, ?_⟩
      simp only [front]
      omega
  | wrapped | multiKey => exact plain.elim

/-- A wrapped key has one octet more than a multiple of 33. -/
theorem length_flatMap_writeWrapped_mod (members : List SingleKey) :
    (members.flatMap fun member => member.writeWrapped.octets).length % 33 =
      members.length % 33 := by
  induction members with
  | nil => rfl
  | cons member members inductionHypothesis =>
      have lengths := member.length_octets_writeWrapped
      simp only [List.flatMap_cons, List.length_append, List.length_cons]
      omega

/-- The threshold takes one more octet than the members. -/
theorem length_tail_multiKey_mod (set : MultiKey) :
    (multiKey set).tail.length % 33 = (set.keys.length + 1) % 33 := by
  have members := length_flatMap_writeWrapped_mod set.keys
  obtain ⟨octets, written⟩ := set.isComplete_threshold
  have threshold : octets.length = 1 := Emission.length_of_integer_eq_complete written
  have tailLength : (multiKey set).tail.length =
      (set.keys.flatMap fun member => member.writeWrapped.octets).length + 1 := by
    rw [tail, List.length_append, written]
    exact congrArg _ threshold
  omega

theorem not_write_eq_of_isPlain_of_wrapped
    {single : SingleKey}
    (plain : key.IsPlain) :
    key.write ≠ (wrapped single).write := by
  intro same
  obtain ⟨frontEq, _⟩ := write_eq_iff_front.mp same
  have small := single.variant_le
  have lengths := plain.length_tail
  rw [frontEq] at lengths
  simp only [front] at lengths
  omega

theorem not_write_eq_of_isPlain_of_multiKey
    {set : MultiKey}
    (plain : key.IsPlain) :
    key.write ≠ (multiKey set).write := by
  intro same
  obtain ⟨frontEq, tailEq⟩ := write_eq_iff_front.mp same
  have lengths := plain.length_tail
  have remainder := length_tail_multiKey_mod set
  rw [frontEq, tailEq] at lengths
  simp only [front] at lengths
  omega

theorem not_write_eq_of_wrapped_of_multiKey
    {single : SingleKey}
    {set : MultiKey} :
    (wrapped single).write ≠ (multiKey set).write := by
  intro same
  obtain ⟨frontEq, tailEq⟩ := write_eq_iff_front.mp same
  have small := single.variant_le
  have lengths := single.length_octets_write
  have remainder := length_tail_multiKey_mod set
  rw [← tailEq] at remainder
  simp only [front, tail] at frontEq remainder
  omega

/-! ## Keys with one wire form -/

/-- The wire form of both keys is the same, since it names the scheme of neither. -/
inductive Shares : PublicKey → PublicKey → Prop where
  | octets (spelled : Octets 32) : Shares (bare (.ed25519 spelled)) (bare (.slhDsa spelled))
  | point
      (key : EcdsaPublicKey .secp256k1)
      (other : EcdsaPublicKey .secp256r1)
      (same : key.bytes = other.bytes) :
      Shares (bare (.ecdsa .secp256k1 key)) (bare (.ecdsa .secp256r1 other))
  | members
      {curve : Curve}
      (key : EcdsaPublicKey curve)
      (set : MultiEd25519Key)
      (same : key.bytes = set.bytes) :
      Shares (bare (.ecdsa curve key)) (multiEd25519 set)

/-- Equal keys, or keys of two kinds with one wire form. -/
def Alike (key other : PublicKey) : Prop :=
  key = other ∨ Shares key other ∨ Shares other key

theorem Alike.symm
    (alike : Alike key other) :
    Alike other key :=
  alike.imp Eq.symm Or.symm

theorem Shares.write_eq
    (shares : Shares key other) :
    key.write = other.write := by
  cases shares with
  | octets spelled => rfl
  | point key other same => exact congrArg Emission.bytes same
  | members key set same => exact congrArg Emission.bytes same

theorem alike_of_bytes_ecdsa
    {curve otherCurve : Curve}
    {key : EcdsaPublicKey curve}
    {point : EcdsaPublicKey otherCurve}
    (same : key.bytes = point.bytes) :
    Alike (bare (.ecdsa curve key)) (bare (.ecdsa otherCurve point)) := by
  cases curve with
  | secp256k1 =>
      cases otherCurve with
      | secp256k1 => exact .inl (by rw [EcdsaPublicKey.bytes_injective same])
      | secp256r1 => exact .inr (.inl (.point key point same))
  | secp256r1 =>
      cases otherCurve with
      | secp256k1 => exact .inr (.inr (.point point key same.symm))
      | secp256r1 => exact .inl (by rw [EcdsaPublicKey.bytes_injective same])

theorem alike_of_bytes_bare
    {single another : SingleKey}
    (same : single.bytes = another.bytes) :
    Alike (bare single) (bare another) := by
  cases single with
  | ed25519 spelled =>
      cases another with
      | ed25519 others => exact .inl (by rw [Octets.bytes_injective same])
      | ecdsa curve point => exact absurd same.symm (point.bytes_ne_octets spelled)
      | slhDsa others =>
          rw [Octets.bytes_injective same]
          exact .inr (.inl (.octets others))
  | ecdsa curve key =>
      cases another with
      | ed25519 others => exact absurd same (key.bytes_ne_octets others)
      | ecdsa otherCurve point => exact alike_of_bytes_ecdsa same
      | slhDsa others => exact absurd same (key.bytes_ne_octets others)
  | slhDsa spelled =>
      cases another with
      | ed25519 others =>
          rw [Octets.bytes_injective same]
          exact .inr (.inr (.octets others))
      | ecdsa curve point => exact absurd same.symm (point.bytes_ne_octets spelled)
      | slhDsa others => exact .inl (by rw [Octets.bytes_injective same])

/-- A set in the older format is spelled like no key of 32 octets. -/
theorem alike_of_bytes_multiEd25519
    {single : SingleKey}
    {set : MultiEd25519Key}
    (same : single.bytes = set.bytes) :
    Alike (bare single) (multiEd25519 set) := by
  have longer (spelled : Octets 32) : spelled.bytes ≠ set.bytes := by
    intro sameOctets
    have lengths := congrArg List.length sameOctets
    have enough := set.enough_keys
    rw [spelled.length_eq, set.length_bytes] at lengths
    omega
  cases single with
  | ed25519 spelled => exact absurd same (longer spelled)
  | ecdsa curve key => exact .inr (.inl (.members key set same))
  | slhDsa spelled => exact absurd same (longer spelled)

theorem alike_of_isPlain
    (plain : key.IsPlain)
    (otherPlain : other.IsPlain)
    (same : key.tail = other.tail) :
    Alike key other := by
  cases key with
  | bare single =>
      cases other with
      | bare another => exact alike_of_bytes_bare same
      | multiEd25519 set => exact alike_of_bytes_multiEd25519 same
      | wrapped | multiKey => exact otherPlain.elim
  | multiEd25519 set =>
      cases other with
      | bare another => exact (alike_of_bytes_multiEd25519 same.symm).symm
      | multiEd25519 others => exact .inl (by rw [MultiEd25519Key.bytes_injective same])
      | wrapped | multiKey => exact otherPlain.elim
  | wrapped | multiKey => exact plain.elim

theorem alike_of_write_eq_of_isPlain
    (plain : key.IsPlain)
    (same : key.write = other.write) :
    Alike key other := by
  have tailEq := (write_eq_iff_front.mp same).2
  cases other with
  | bare single => exact alike_of_isPlain plain trivial tailEq
  | multiEd25519 set => exact alike_of_isPlain plain trivial tailEq
  | wrapped single => exact absurd same (not_write_eq_of_isPlain_of_wrapped plain)
  | multiKey set => exact absurd same (not_write_eq_of_isPlain_of_multiKey plain)

/-- The wire form tells the key, up to the keys that share it. -/
theorem write_eq_iff : key.write = other.write ↔ Alike key other := by
  apply Iff.intro
  · intro same
    by_cases plain : key.IsPlain
    · exact alike_of_write_eq_of_isPlain plain same
    by_cases otherPlain : other.IsPlain
    · exact (alike_of_write_eq_of_isPlain otherPlain same.symm).symm
    have octetsEq := congrArg Emission.octets same
    cases key with
    | bare | multiEd25519 => exact absurd trivial plain
    | wrapped single =>
        cases other with
        | bare | multiEd25519 => exact absurd trivial otherPlain
        | wrapped another => exact .inl (by rw [SingleKey.octets_writeWrapped_injective octetsEq])
        | multiKey set => exact absurd same not_write_eq_of_wrapped_of_multiKey
    | multiKey set =>
        cases other with
        | bare | multiEd25519 => exact absurd trivial otherPlain
        | wrapped single => exact absurd same.symm not_write_eq_of_wrapped_of_multiKey
        | multiKey others => exact .inl (by rw [MultiKey.octets_write_injective octetsEq])
  · intro alike
    rcases alike with rfl | shares | shares
    · rfl
    · exact shares.write_eq
    · exact shares.write_eq.symm

end PublicKey

end MoveClient
