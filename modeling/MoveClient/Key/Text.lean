import MoveClient.Address.Text
import MoveClient.Key.Suite

/-!
Keys and signatures as text.

Key material is written in hexadecimal behind `0x`. A private key also carries the name of its
scheme in front; reading one may insist on that name (`strict`).
-/

namespace MoveClient

/-- The characters after one leading `0x`, if there is one, as octets. -/
def octetsOfHex (text : List Char) : Except Error Bytes :=
  let digits := Address.dropMarker text
  match Bytes.ofHexDigits digits with
  | some octets => .ok octets
  | none => .error (.parse (.invalidHexKey (String.ofList digits)))

/-- Refuses text with a half of a character: what stands behind one leading `0x` is not
hexadecimal. -/
def refuseBroken (text : BrokenText) : Except Error Bytes :=
  .error (.parse (.brokenHexKey { text with front := Address.dropMarker text.front }))

namespace KeyScheme

/-- What stands in front of a private key of the scheme; SLH-DSA has no private keys here. -/
def keyPrefix? : KeyScheme → Option String
  | .ed25519 => some "ed25519-priv-"
  | .ecdsa .secp256k1 => some "secp256k1-priv-"
  | .ecdsa .secp256r1 => some "secp256r1-priv-"
  | .slhDsa => none

/-- The scheme with the given name among those that have private keys. -/
def ofName? : String → Option KeyScheme
  | "ed25519" => some .ed25519
  | "secp256k1" => some (.ecdsa .secp256k1)
  | "secp256r1" => some (.ecdsa .secp256r1)
  | _ => none

/-- What stands in front of a private key of the named scheme. -/
def keyPrefix (name : String) : Except Error String :=
  match (ofName? name).bind keyPrefix? with
  | some marker => .ok marker
  | none => .error (.parse (.unknownKeyScheme name))

end KeyScheme

namespace PrivateKey

/-- The rest of a text behind a beginning. -/
def dropBeginning : (beginning text : List Char) → Option (List Char)
  | [], text => some text
  | _ :: _, [] => none
  | c :: beginning, d :: text => if c = d then dropBeginning beginning text else none

/-- Key material in the prefixed form of the named scheme: octets are written in hexadecimal, text
gets `0x` and the prefix if it lacks them. Text is a sequence of characters here. -/
def formatText (scheme : String) (material : Value) : Except Error String := do
  let marker ← KeyScheme.keyPrefix scheme
  match material with
  | .bytes octets => .ok (marker ++ "0x" ++ octets.hex)
  | .text s =>
      match dropBeginning marker.toList s.toList, s.toList with
      | some _, _ => .ok s
      | none, '0' :: 'x' :: _ => .ok (marker ++ s)
      | none, _ => .ok (marker ++ "0x" ++ s)
  | _ => .error .wrongKind

/-- The octets of key material of the named scheme: octets as they are, text in hexadecimal with
or, unless `strict`, without the prefix. -/
def parseMaterial (scheme : String) (strict : Bool) (material : Value) : Except Error Bytes := do
  let marker ← KeyScheme.keyPrefix scheme
  match material with
  | .bytes octets => .ok octets
  | .text s =>
      match dropBeginning marker.toList s.toList with
      | some rest => octetsOfHex rest
      | none => if strict then .error (.parse .notPrefixedKey) else octetsOfHex s.toList
  | .brokenText broken =>
      match dropBeginning marker.toList broken.front with
      | some rest => refuseBroken { broken with front := rest }
      | none => if strict then .error (.parse .notPrefixedKey) else refuseBroken broken
  | _ => .error .wrongKind

/-- The scheme's name in the prefixed form. -/
def schemeName : PrivateKey → String
  | ed25519 _ => "ed25519"
  | ecdsa .secp256k1 _ => "secp256k1"
  | ecdsa .secp256r1 _ => "secp256r1"

/-- `0x` and the hexadecimal digits. -/
def hexText (key : PrivateKey) : String :=
  "0x" ++ key.bytes.hex

/-- The prefixed form. -/
def text (key : PrivateKey) : String :=
  key.schemeName ++ "-priv-" ++ key.hexText

/-- The private key of the named scheme in key material. -/
def load (scheme : String) (strict : Bool) (material : Value) : Except Error PrivateKey := do
  let octets ← parseMaterial scheme strict material
  match KeyScheme.ofName? scheme with
  | some kind => ofBytes kind octets
  | none => .error (.parse (.unknownKeyScheme scheme))

/-- The scheme that the prefix of a text names; without a prefix it is Ed25519. -/
def namedScheme (text : List Char) : String :=
  let named := ["secp256k1", "secp256r1"].find? fun name =>
    (dropBeginning (name ++ "-priv-").toList text).isSome
  named.getD "ed25519"

/-- The private key in a text whose prefix names the scheme. -/
def ofText (s : String) : Except Error PrivateKey :=
  load (namedScheme s.toList) false (.text s)

/-- The private key in a value that has to be text. -/
def ofValue : Value → Except Error PrivateKey
  | .text s => ofText s
  | .brokenText broken => load (namedScheme broken.front) false (.brokenText broken)
  | _ => .error .wrongKind

end PrivateKey

end MoveClient
