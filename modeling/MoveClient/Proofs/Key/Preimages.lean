import MoveClient.Key.Authentication
import MoveClient.Proofs.Key.WireForm
import MoveClient.Proofs.Wire.Lengths
import MoveClient.Proofs.Wire.Value

/-!
What authentication keys and derived addresses are digests of.

Owns:
- that the octets of a key of each kind, and those of a source, tell what they are the octets of;
- `PublicKey.counted`, the key that a key counts as, and `Origin`, all that a digest is derived from;
- that two origins have the same preimage only if they count as the same.

Does not own: the digest itself; nothing is said about collisions of it.
-/

namespace MoveClient

/-! ## Octets that tell what they spell -/

theorem Octets.bytes_injective {size : Nat} : Function.Injective (@Octets.bytes size) := by
  intro octets others same
  cases octets
  cases others
  cases same
  rfl

theorem Address.bytes_injective : Function.Injective Address.bytes := by
  intro address other same
  cases address
  cases other
  cases same
  rfl

/-- The 32 octets of an address in front tell where what follows begins. -/
theorem Address.append_injective
    {address other : Address}
    {rest otherRest : Bytes}
    (same : address.bytes ++ rest = other.bytes ++ otherRest) :
    address = other ∧ rest = otherRest := by
  have sameLength := address.length_eq.trans other.length_eq.symm
  obtain ⟨sameBytes, sameRest⟩ := List.append_inj same sameLength
  exact ⟨bytes_injective sameBytes, sameRest⟩

/-- What is read back from its own octets is told by them. -/
theorem Reader.injective_of_found
    {α : Type}
    {write : α → Emission}
    {read : Reader α}
    {parts : α → List WirePart}
    (carries : ∀ value, (write value).Carries (parts value))
    (law : ∀ input value rest, read input = .ok value rest ↔ WirePart.Found (parts value) input rest) :
    Function.Injective fun value => (write value).octets := by
  have readsBack (value : α) : read ((write value).octets ++ []) = .ok value [] := by
    rw [law, carries value]
    exact WirePart.found_written (parts value) []
  intro value other (same : (write value).octets = (write other).octets)
  have readValue := readsBack value
  rw [same, readsBack other] at readValue
  cases readValue
  rfl

theorem SingleKey.octets_writeWrapped_injective :
    Function.Injective fun key : SingleKey => key.writeWrapped.octets :=
  Reader.injective_of_found SingleKey.writeWrapped_carries fun _ _ _ =>
    SingleKey.readWrapped_eq_ok_iff

theorem MultiKey.octets_write_injective :
    Function.Injective fun key : MultiKey => key.write.octets :=
  Reader.injective_of_found MultiKey.write_carries fun _ _ _ => MultiKey.read_eq_ok_iff

theorem MultiEd25519Key.bytes_injective : Function.Injective MultiEd25519Key.bytes := by
  intro key other same
  have read := MultiEd25519Key.ofBytes_eq_ok_iff.mpr same
  rw [MultiEd25519Key.ofBytes_eq_ok_iff.mpr rfl] at read
  exact (Except.ok.inj read).symm

/-- An integer that is written tells itself. -/
theorem Emission.integer_injective
    {type : IntegerType}
    {number other : Int}
    {octets : Bytes}
    (written : (integer type number).result = .ok octets)
    (otherWritten : (integer type other).result = .ok octets) :
    number = other := by
  have spelled : (integer type number).Spells octets [] :=
    ⟨octets, result_eq_ok_iff.mp written, octets.append_nil.symm⟩
  have otherSpelled : (integer type other).Spells octets [] :=
    ⟨octets, result_eq_ok_iff.mp otherWritten, octets.append_nil.symm⟩
  have read := Reader.integer_eq_ok_iff.mpr spelled
  rw [Reader.integer_eq_ok_iff.mpr otherSpelled] at read
  cases read
  rfl

/-! ## Schemes -/

theorem DerivationScheme.octet_injective : Function.Injective DerivationScheme.octet := by
  intro scheme other same
  cases scheme <;> cases other <;> first | rfl | cases same

/-- The last octet is that of the scheme, and the others are the source. -/
theorem Address.derivationPreimage_eq_iff
    {scheme other : DerivationScheme}
    {source otherSource : Bytes} :
    derivationPreimage scheme source = derivationPreimage other otherSource ↔
      scheme = other ∧ source = otherSource := by
  constructor
  · intro same
    obtain ⟨sameSource, sameOctet⟩ := List.append_inj' same rfl
    exact ⟨DerivationScheme.octet_injective (List.head_eq_of_cons_eq sameOctet), sameSource⟩
  · intro same
    rw [same.1, same.2]

/-! ## Public keys -/

namespace PublicKey

variable {key other : PublicKey}

/-- The key that a key counts as: a bare key of another scheme than Ed25519 counts as wrapped. -/
def counted : PublicKey → PublicKey
  | bare (.ed25519 key) => bare (.ed25519 key)
  | bare key => wrapped key
  | key => key

theorem derivationScheme_counted (key : PublicKey) :
    key.counted.derivationScheme = key.derivationScheme := by
  cases key with
  | bare single => cases single <;> rfl
  | _ => rfl

theorem authenticationBytes_counted (key : PublicKey) :
    key.counted.authenticationBytes = key.authenticationBytes := by
  cases key with
  | bare single => cases single <;> rfl
  | _ => rfl

/-- The schemes of keys. -/
theorem derivationScheme_mem (key : PublicKey) :
    key.derivationScheme ∈
      [DerivationScheme.ed25519, .multiEd25519, .singleKey, .multiKey] := by
  cases key with
  | bare single => cases single <;> simp [derivationScheme]
  | _ => simp [derivationScheme]

theorem of_derivationScheme_ed25519
    (schemeEq : key.derivationScheme = .ed25519) :
    ∃ octets, key = bare (.ed25519 octets) := by
  cases key with
  | bare single =>
      cases single with
      | ed25519 octets => exact ⟨octets, rfl⟩
      | ecdsa | slhDsa => cases schemeEq
  | _ => cases schemeEq

theorem of_derivationScheme_singleKey
    (schemeEq : key.derivationScheme = .singleKey) :
    ∃ single, key.counted = wrapped single ∧
      key.authenticationBytes = single.writeWrapped.octets := by
  cases key with
  | bare single =>
      cases single with
      | ed25519 octets => cases schemeEq
      | ecdsa | slhDsa => exact ⟨_, rfl, rfl⟩
  | wrapped single => exact ⟨single, rfl, rfl⟩
  | _ => cases schemeEq

theorem of_derivationScheme_multiEd25519
    (schemeEq : key.derivationScheme = .multiEd25519) :
    ∃ set, key = multiEd25519 set := by
  cases key with
  | multiEd25519 set => exact ⟨set, rfl⟩
  | bare single => cases single <;> cases schemeEq
  | _ => cases schemeEq

theorem of_derivationScheme_multiKey
    (schemeEq : key.derivationScheme = .multiKey) :
    ∃ set, key = multiKey set := by
  cases key with
  | multiKey set => exact ⟨set, rfl⟩
  | bare single => cases single <;> cases schemeEq
  | _ => cases schemeEq

/-- Among the keys of a scheme the octets tell the key. -/
theorem counted_eq_of_authenticationBytes
    (sameScheme : key.derivationScheme = other.derivationScheme)
    (sameBytes : key.authenticationBytes = other.authenticationBytes) :
    key.counted = other.counted := by
  have keyScheme := key.derivationScheme_mem
  simp only [List.mem_cons, List.not_mem_nil, or_false] at keyScheme
  obtain schemeEq | schemeEq | schemeEq | schemeEq := keyScheme
  · obtain ⟨octets, keyEq⟩ := of_derivationScheme_ed25519 schemeEq
    obtain ⟨others, otherEq⟩ := of_derivationScheme_ed25519 (sameScheme.symm.trans schemeEq)
    subst keyEq otherEq
    rw [Octets.bytes_injective sameBytes]
  · obtain ⟨set, keyEq⟩ := of_derivationScheme_multiEd25519 schemeEq
    obtain ⟨others, otherEq⟩ := of_derivationScheme_multiEd25519 (sameScheme.symm.trans schemeEq)
    subst keyEq otherEq
    rw [MultiEd25519Key.bytes_injective sameBytes]
  · obtain ⟨single, countedEq, bytesEq⟩ := of_derivationScheme_singleKey schemeEq
    obtain ⟨others, otherEq, otherBytesEq⟩ :=
      of_derivationScheme_singleKey (sameScheme.symm.trans schemeEq)
    rw [bytesEq, otherBytesEq] at sameBytes
    rw [countedEq, otherEq, SingleKey.octets_writeWrapped_injective sameBytes]
  · obtain ⟨set, keyEq⟩ := of_derivationScheme_multiKey schemeEq
    obtain ⟨others, otherEq⟩ := of_derivationScheme_multiKey (sameScheme.symm.trans schemeEq)
    subst keyEq otherEq
    rw [MultiKey.octets_write_injective sameBytes]

end PublicKey

/-! ## Origins -/

/-- What an authentication key or an address is derived from. -/
inductive Origin where
  | publicKey (key : PublicKey)
  | resourceAccount (creator : Address) (seed : Bytes)
  | namedObject (creator : Address) (seed : Bytes)
  | guidObject (creator : Address) (creationNumber : Value)
  | objectFromObject (creator source : Address)

namespace Origin

/-- The way of deriving. -/
def scheme : Origin → DerivationScheme
  | publicKey key => key.derivationScheme
  | resourceAccount _ _ => .resourceAccount
  | namedObject _ _ => .objectFromSeed
  | guidObject _ _ => .objectFromGuid
  | objectFromObject _ _ => .objectFromObject

/-- The octets in front of that of the scheme. -/
def source : Origin → Except Error Bytes
  | publicKey key => .ok key.authenticationBytes
  | resourceAccount creator seed => .ok (Address.resourceSource creator seed)
  | namedObject creator seed => .ok (Address.namedObjectSource creator seed)
  | guidObject creator creationNumber => Address.guidSource creator creationNumber
  | objectFromObject creator source => .ok (Address.objectSource creator source)

/-- What is hashed. -/
def preimage (origin : Origin) : Except Error Bytes :=
  Address.derivationPreimage origin.scheme <$> origin.source

/-- The address that is derived; for a key, it has the octets of the authentication key. -/
def address : Origin → Except Error Address
  | publicKey key => .ok (Address.ofPublicKey key)
  | resourceAccount creator seed => .ok (Address.resourceAccount creator seed)
  | namedObject creator seed => .ok (Address.namedObject creator seed)
  | guidObject creator creationNumber => Address.guidObject creator creationNumber
  | objectFromObject creator source => .ok (Address.objectFromObject creator source)

/-- The origin that an origin counts as: keys count as they do, anything else as itself. -/
def counted : Origin → Origin
  | publicKey key => publicKey key.counted
  | origin => origin

/-- A creation number fits 64 bits. -/
def Fits : Origin → Prop
  | guidObject _ creationNumber => creationNumber.IsIntegerOf .u64
  | _ => True

variable {origin other : Origin} {octets : Bytes}

/-- The address is the digest of the preimage. -/
theorem address_eq_hash (origin : Origin) :
    Address.bytes <$> origin.address = Sha3.hash <$> origin.preimage := by
  cases origin with
  | guidObject creator creationNumber =>
      rw [address, Address.guidObject, preimage, source]
      cases Address.guidSource creator creationNumber <;> rfl
  | _ => rfl

theorem guidSource_eq_ok_iff
    {creator : Address}
    {creationNumber : Value} :
    Address.guidSource creator creationNumber = .ok octets ↔
      ∃ number written, creationNumber = .int number ∧
        (Emission.integer .u64 number).result = .ok written ∧
          written ++ creator.bytes = octets := by
  unfold Address.guidSource
  simp only [Error.bind_eq_ok_iff, Except.ok.injEq]
  cases creationNumber <;> simp [Value.writeInteger, Emission.fail, Emission.result]

/-- The octets of the creator are the last 32, and those of the number are in front of them. -/
theorem guidSource_injective
    {creator otherCreator : Address}
    {creationNumber otherNumber : Value}
    (sourceEq : Address.guidSource creator creationNumber = .ok octets)
    (otherSourceEq : Address.guidSource otherCreator otherNumber = .ok octets) :
    creator = otherCreator ∧ creationNumber = otherNumber := by
  obtain ⟨number, written, numberEq, numberWritten, octetsEq⟩ := guidSource_eq_ok_iff.mp sourceEq
  obtain ⟨other, otherOctets, otherEq, otherWritten, otherOctetsEq⟩ :=
    guidSource_eq_ok_iff.mp otherSourceEq
  subst numberEq otherEq
  have sameLength := creator.length_eq.trans otherCreator.length_eq.symm
  obtain ⟨sameWritten, sameBytes⟩ :=
    List.append_inj' (octetsEq.trans otherOctetsEq.symm) sameLength
  subst sameWritten
  exact ⟨Address.bytes_injective sameBytes,
    congrArg Value.int (Emission.integer_injective numberWritten otherWritten)⟩

theorem exists_source_iff : (∃ octets, origin.source = .ok octets) ↔ origin.Fits := by
  cases origin with
  | guidObject creator creationNumber =>
      rw [source, Fits, ← Value.isComplete_writeInteger_iff]
      simp only [guidSource_eq_ok_iff, Emission.result_eq_ok_iff]
      cases creationNumber <;> simp [Value.writeInteger, Emission.IsComplete, Emission.fail]
  | _ => exact iff_of_true ⟨_, rfl⟩ trivial

theorem scheme_counted (origin : Origin) : origin.counted.scheme = origin.scheme := by
  cases origin with
  | publicKey key => exact key.derivationScheme_counted
  | _ => rfl

theorem source_counted (origin : Origin) : origin.counted.source = origin.source := by
  cases origin with
  | publicKey key => exact congrArg Except.ok key.authenticationBytes_counted
  | _ => rfl

/-- Whatever is derived from something else than a key has no scheme of a key. -/
theorem scheme_ne_of_key
    (notKey : ∀ own, origin ≠ publicKey own)
    (key : PublicKey) :
    origin.scheme ≠ key.derivationScheme := by
  intro sameScheme
  have isKeyScheme := key.derivationScheme_mem
  rw [← sameScheme] at isKeyScheme
  cases origin with
  | publicKey own => exact notKey own rfl
  | _ => exact absurd isKeyScheme (by simp [scheme])

/-- Among the origins of a scheme the source tells the origin: what comes in front of the 32 octets
of an address, or after them, is the rest of it. -/
theorem counted_eq_of_source
    (sameScheme : origin.scheme = other.scheme)
    (sourceEq : origin.source = .ok octets)
    (otherSourceEq : other.source = .ok octets) :
    origin.counted = other.counted := by
  cases origin with
  | publicKey key =>
      cases other with
      | publicKey otherKey =>
          have sameBytes := Except.ok.inj (sourceEq.trans otherSourceEq.symm)
          exact congrArg publicKey (PublicKey.counted_eq_of_authenticationBytes sameScheme sameBytes)
      | _ => exact absurd sameScheme.symm (scheme_ne_of_key (by simp) key)
  | resourceAccount creator seed =>
      cases other with
      | publicKey key => exact absurd sameScheme (scheme_ne_of_key (by simp) key)
      | resourceAccount otherCreator otherSeed =>
          have same := Except.ok.inj (sourceEq.trans otherSourceEq.symm)
          obtain ⟨sameCreator, sameSeed⟩ := Address.append_injective same
          rw [sameCreator, sameSeed]
      | _ => cases sameScheme
  | namedObject creator seed =>
      cases other with
      | publicKey key => exact absurd sameScheme (scheme_ne_of_key (by simp) key)
      | namedObject otherCreator otherSeed =>
          have same := Except.ok.inj (sourceEq.trans otherSourceEq.symm)
          obtain ⟨sameCreator, sameSeed⟩ := Address.append_injective same
          rw [sameCreator, sameSeed]
      | _ => cases sameScheme
  | guidObject creator creationNumber =>
      cases other with
      | publicKey key => exact absurd sameScheme (scheme_ne_of_key (by simp) key)
      | guidObject otherCreator otherNumber =>
          obtain ⟨sameCreator, sameNumber⟩ := guidSource_injective sourceEq otherSourceEq
          rw [sameCreator, sameNumber]
      | _ => cases sameScheme
  | objectFromObject creator source =>
      cases other with
      | publicKey key => exact absurd sameScheme (scheme_ne_of_key (by simp) key)
      | objectFromObject otherCreator otherSource =>
          have same := Except.ok.inj (sourceEq.trans otherSourceEq.symm)
          obtain ⟨sameCreator, sameSource⟩ := Address.append_injective same
          rw [sameCreator, Address.bytes_injective sameSource]
      | _ => cases sameScheme

theorem preimage_eq_ok_iff :
    origin.preimage = .ok octets ↔
      ∃ source, origin.source = .ok source ∧
        Address.derivationPreimage origin.scheme source = octets :=
  Error.map_eq_ok_iff

theorem exists_preimage_iff : (∃ octets, origin.preimage = .ok octets) ↔ origin.Fits := by
  simp only [preimage_eq_ok_iff, ← exists_source_iff]
  constructor
  · intro found
    obtain ⟨_, source, sourceEq, _⟩ := found
    exact ⟨source, sourceEq⟩
  · intro found
    obtain ⟨source, sourceEq⟩ := found
    exact ⟨_, source, sourceEq, rfl⟩

theorem preimage_counted (origin : Origin) : origin.counted.preimage = origin.preimage := by
  rw [preimage, scheme_counted, source_counted, preimage]

/-- What is hashed tells the scheme, and the origin up to what it counts as. -/
theorem scheme_and_counted_eq_of_preimage
    (preimageEq : origin.preimage = .ok octets)
    (otherPreimageEq : other.preimage = .ok octets) :
    origin.scheme = other.scheme ∧ origin.counted = other.counted := by
  obtain ⟨source, sourceEq, octetsEq⟩ := preimage_eq_ok_iff.mp preimageEq
  obtain ⟨otherSource, otherSourceEq, otherOctetsEq⟩ := preimage_eq_ok_iff.mp otherPreimageEq
  obtain ⟨sameScheme, sameSource⟩ :=
    Address.derivationPreimage_eq_iff.mp (octetsEq.trans otherOctetsEq.symm)
  subst sameSource
  exact ⟨sameScheme, counted_eq_of_source sameScheme sourceEq otherSourceEq⟩

/-- Authentication keys and derived addresses are digests of their preimages. Two origins have the
same preimage exactly if they count as the same origin, and origins of two schemes never have.

All origins have a preimage but those with a creation number that does not fit 64 bits. -/
theorem preimage_determines (origin other : Origin) :
    Address.bytes <$> origin.address = Sha3.hash <$> origin.preimage ∧
      ((∃ octets, origin.preimage = .ok octets) ↔ origin.Fits) ∧
      ((∃ octets, origin.preimage = .ok octets ∧ other.preimage = .ok octets) ↔
        origin.Fits ∧ origin.counted = other.counted) ∧
      (origin.scheme ≠ other.scheme →
        ¬ ∃ octets, origin.preimage = .ok octets ∧ other.preimage = .ok octets) := by
  refine ⟨origin.address_eq_hash, exists_preimage_iff, ?_, ?_⟩
  · constructor
    · intro shared
      obtain ⟨octets, preimageEq, otherPreimageEq⟩ := shared
      have same := scheme_and_counted_eq_of_preimage preimageEq otherPreimageEq
      exact ⟨exists_preimage_iff.mp ⟨octets, preimageEq⟩, same.2⟩
    · intro same
      obtain ⟨fits, sameCounted⟩ := same
      obtain ⟨octets, preimageEq⟩ := exists_preimage_iff.mpr fits
      refine ⟨octets, preimageEq, ?_⟩
      rw [← preimage_counted, ← sameCounted, preimage_counted, preimageEq]
  · intro differ shared
    obtain ⟨octets, preimageEq, otherPreimageEq⟩ := shared
    exact differ (scheme_and_counted_eq_of_preimage preimageEq otherPreimageEq).1

end Origin

end MoveClient
