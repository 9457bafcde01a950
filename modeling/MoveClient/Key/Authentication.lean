import MoveClient.Address
import MoveClient.Hash.Sha3
import MoveClient.Key.Public
import MoveClient.Value.Layout

/-!
Authentication keys and derived addresses.

An authentication key is the digest of the octets of a public key and an octet for the scheme. A
bare key of another scheme than Ed25519 counts as wrapped. Addresses of objects and resource
accounts are digests of what they are derived from and an octet for the way of deriving; an
account starts with its authentication key as address.
-/

namespace MoveClient

/-- The digest that an account's signatures are checked against. -/
structure AuthenticationKey where
  octets : Octets 32
deriving DecidableEq, Repr

/-- The ways of deriving an authentication key or an address. -/
inductive DerivationScheme where
  | ed25519
  | multiEd25519
  | singleKey
  | multiKey
  | objectFromObject
  | objectFromGuid
  | objectFromSeed
  | resourceAccount
deriving DecidableEq, Repr

/-- The octet behind what is hashed. -/
def DerivationScheme.octet : DerivationScheme → UInt8
  | ed25519 => 0
  | multiEd25519 => 1
  | singleKey => 2
  | multiKey => 3
  | objectFromObject => 0xfc
  | objectFromGuid => 0xfd
  | objectFromSeed => 0xfe
  | resourceAccount => 0xff

namespace PublicKey

/-- The way in which the authentication key of a public key is derived. -/
def derivationScheme : PublicKey → DerivationScheme
  | bare (.ed25519 _) => .ed25519
  | bare _ | wrapped _ => .singleKey
  | multiEd25519 _ => .multiEd25519
  | multiKey _ => .multiKey

/-- The octets of the key in its authentication key: a bare key of another scheme than Ed25519
counts as wrapped. -/
def authenticationBytes : PublicKey → Bytes
  | bare (.ed25519 key) => key.bytes
  | bare key | wrapped key => (wrapped key).bytes
  | key => key.bytes

/-- What is hashed for the authentication key. -/
def authenticationPreimage (key : PublicKey) : Bytes :=
  key.authenticationBytes ++ [key.derivationScheme.octet]

end PublicKey

namespace AuthenticationKey

/-- The key with the given octets. -/
def ofBytes (bytes : Bytes) : Except Error AuthenticationKey :=
  match Octets.ofBytes? 32 bytes with
  | some octets => .ok ⟨octets⟩
  | none => .error (.range .authenticationKeyLength)

/-- The digest of a byte string as a key. -/
def ofDigest (input : Bytes) : AuthenticationKey :=
  ⟨⟨Sha3.hash input, by simp⟩⟩

/-- The authentication key of a public key. -/
def ofPublicKey (key : PublicKey) : AuthenticationKey :=
  ofDigest key.authenticationPreimage

/-- The address that an account with this key starts with. -/
def address (key : AuthenticationKey) : Address :=
  ⟨key.octets.bytes, key.octets.length_eq⟩

/-- The printed form. -/
def text (key : AuthenticationKey) : String :=
  "0x" ++ key.octets.bytes.hex

/-- Writes the 32 octets. -/
def write (key : AuthenticationKey) : Emission :=
  .complete key.octets.bytes

/-- Reads 32 octets. -/
def read : Reader AuthenticationKey := do
  let octets ← Reader.octets 32
  match ofBytes octets with
  | .ok key => pure key
  | .error error => throw error

end AuthenticationKey

namespace Address

/-- The address of the given octets. -/
def ofBytes (bytes : Bytes) : Except Error Address :=
  match ofBytes? bytes with
  | some address => .ok address
  | none => .error (.range (.addressLength bytes.length))

/-- The address of an account that has only ever had the given key. -/
def ofPublicKey (key : PublicKey) : Address :=
  (AuthenticationKey.ofPublicKey key).address

/-- What is hashed for a derived address. -/
def derivationPreimage (scheme : DerivationScheme) (source : Bytes) : Bytes :=
  source ++ [scheme.octet]

/-- The address derived from a source in the given way. -/
def derived (scheme : DerivationScheme) (source : Bytes) : Address :=
  ⟨Sha3.hash (derivationPreimage scheme source), by simp⟩

/-- What the address of a resource account is derived from. -/
def resourceSource (creator : Address) (seed : Bytes) : Bytes :=
  creator.bytes ++ seed

/-- What the address of a named object is derived from. -/
def namedObjectSource (creator : Address) (seed : Bytes) : Bytes :=
  creator.bytes ++ seed

/-- What the address of an object with a creation number is derived from; the number has to fit
64 bits. -/
def guidSource (creator : Address) (creationNumber : Value) : Except Error Bytes := do
  let number ← (creationNumber.writeInteger (.fixed .u64)).result
  .ok (number ++ creator.bytes)

/-- What the address of an object derived from another is derived from. -/
def objectSource (creator source : Address) : Bytes :=
  creator.bytes ++ source.bytes

/-- The address of a resource account. -/
def resourceAccount (creator : Address) (seed : Bytes) : Address :=
  derived .resourceAccount (resourceSource creator seed)

/-- The address of a named object. -/
def namedObject (creator : Address) (seed : Bytes) : Address :=
  derived .objectFromSeed (namedObjectSource creator seed)

/-- The address of an object created under a creation number. -/
def guidObject (creator : Address) (creationNumber : Value) : Except Error Address :=
  (guidSource creator creationNumber).map (derived .objectFromGuid)

/-- The address of an object derived from another. -/
def objectFromObject (creator source : Address) : Address :=
  derived .objectFromObject (objectSource creator source)

/-- The seed of a token: the names of its collection and itself with two colons between. -/
def tokenSeed (collection token : String) : Bytes :=
  Emission.textOctets collection ++ Emission.textOctets "::" ++ Emission.textOctets token

/-- The address of a named token. -/
def namedToken (creator : Address) (collection token : String) : Address :=
  namedObject creator (tokenSeed collection token)

/-- The address of a named collection. -/
def namedCollection (creator : Address) (collection : String) : Address :=
  namedObject creator (Emission.textOctets collection)

end Address

end MoveClient
