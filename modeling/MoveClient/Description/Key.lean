import MoveClient.Description
import MoveClient.Key.Public

/-!
Descriptions of keys and signatures.

The name of the type tells the scheme of a key or signature; a wrapped one also shows the number
of its scheme.
-/

namespace MoveClient

/-- The name of the scheme in the names of its types. -/
def KeyScheme.typeLabel : KeyScheme → String
  | .ed25519 => "ed25519"
  | .ecdsa .secp256k1 => "secp256k1"
  | .ecdsa .secp256r1 => "secp256r1"
  | .slhDsa => "slh_dsa"

/-- Key material of a scheme. -/
def KeyScheme.describe (scheme : KeyScheme) (part : String) (octets : Bytes) : Description :=
  .record (scheme.typeLabel ++ "." ++ part) [("bytes", .bytes octets)]

namespace PrivateKey

def describe (key : PrivateKey) : Description :=
  key.scheme.describe "PrivateKey" key.bytes

end PrivateKey

namespace SingleKey

def describe (key : SingleKey) : Description :=
  key.scheme.describe "PublicKey" key.bytes

/-- The description of the key in its wrapping. -/
def describeWrapped (key : SingleKey) : Description :=
  .record "any.PublicKey" [("variant", .number key.variant), ("inner", key.describe)]

end SingleKey

namespace SingleSignature

def describe (signature : SingleSignature) : Description :=
  signature.scheme.describe "Signature" signature.bytes

end SingleSignature

namespace WrappedSignature

def describe (signature : WrappedSignature) : Description :=
  .record "any.Signature"
    [("variant", .number signature.variant), ("inner", signature.inner.describe)]

end WrappedSignature

namespace PublicKey

def describe : PublicKey → Description
  | bare key => key.describe
  | wrapped key => key.describeWrapped
  | multiEd25519 key =>
      .record "ed25519.MultiPublicKey"
        [("keys", .each (fun member => (SingleKey.ed25519 member).describe) key.keys),
          ("threshold", .number key.threshold)]
  | multiKey key =>
      .record "any.MultiPublicKey"
        [("keys", .each SingleKey.describeWrapped key.keys), ("threshold", .number key.threshold)]

end PublicKey

namespace Signers

/-- The entries of a multi-signature as pairs of position and signature. -/
def describe {σ : Type} (member : σ → Description) (signers : Signers σ) : Description :=
  .each (fun entry => .list [.number entry.1, member entry.2]) signers.entries

end Signers

namespace Signature

def describe : Signature → Description
  | bare signature => signature.describe
  | wrapped signature => signature.describe
  | multiEd25519 signature =>
      .record "ed25519.MultiSignature"
        [("signatures", signature.describe fun member => (SingleSignature.ed25519 member).describe)]
  | multiKey signature =>
      .record "any.MultiSignature" [("signatures", signature.describe WrappedSignature.describe)]

end Signature

end MoveClient
