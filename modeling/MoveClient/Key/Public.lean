import MoveClient.Key.MultiEd25519
import MoveClient.Key.MultiKey

/-!
Public keys and signatures of every kind.

A key is bare, wrapped together with the name of its scheme, or a set of keys; signatures come in
the same kinds.
-/

namespace MoveClient

/-- A public key of any kind. -/
inductive PublicKey where
  | bare (key : SingleKey)
  | wrapped (key : SingleKey)
  | multiEd25519 (key : MultiEd25519Key)
  | multiKey (key : MultiKey)
deriving DecidableEq, Repr

/-- A signature of any kind. -/
inductive Signature where
  | bare (signature : SingleSignature)
  | wrapped (signature : WrappedSignature)
  | multiEd25519 (signature : MultiEd25519Signature)
  | multiKey (signature : MultiKeySignature)
deriving DecidableEq, Repr

namespace PublicKey

/-- The name of the key's kind in messages. -/
def kindName : PublicKey → String
  | bare _ | wrapped _ => "PublicKey"
  | multiEd25519 _ | multiKey _ => "MultiPublicKey"

/-- Wraps a bare key; a key that is wrapped already is refused as a set of keys is. -/
def wrap : PublicKey → Except Error PublicKey
  | bare key => .ok (wrapped key)
  | key => .error (.unsupported (.notWrappableKey key.kindName))

/-- The key under a wrapping, if there is one, or the bare key. -/
def single : PublicKey → Except Error SingleKey
  | bare key | wrapped key => .ok key
  | key => .error (.unsupported (.notWrappableKey key.kindName))

/-- The octets of a bare Ed25519 key. -/
def toEd25519 : PublicKey → Except Error (Octets 32)
  | bare (.ed25519 key) => .ok key
  | _ => .error .wrongKind

/-- The printed form. -/
def text : PublicKey → String
  | bare key | wrapped key => key.text
  | multiEd25519 key => key.text
  | multiKey key => key.text

/-- Writes the key. -/
def write : PublicKey → Emission
  | bare key => key.write
  | wrapped key => key.writeWrapped
  | multiEd25519 key => key.write
  | multiKey key => key.write

/-- The octets that stand for the key where a scheme octet tells its kind. -/
def bytes : PublicKey → Bytes
  | bare key => key.bytes
  | wrapped key => key.writeWrapped.octets
  | multiEd25519 key => key.bytes
  | multiKey key => key.write.octets

end PublicKey

namespace Signature

/-- The name of the signature's kind in messages. -/
def kindName : Signature → String
  | bare _ | wrapped _ => "Signature"
  | multiEd25519 _ | multiKey _ => "MultiSignature"

/-- Wraps a bare signature of a scheme whose signatures may be wrapped. -/
def wrap : Signature → Except Error Signature
  | bare signature => wrapped <$> WrappedSignature.ofSingle signature
  | signature => .error (.unsupported (.notWrappableSignature signature.kindName))

/-- The signature under a wrapping, or a bare one wrapped. -/
def toWrapped : Signature → Except Error WrappedSignature
  | bare signature => WrappedSignature.ofSingle signature
  | wrapped signature => .ok signature
  | signature => .error (.unsupported (.notWrappableSignature signature.kindName))

/-- The octets of a bare Ed25519 signature. -/
def toEd25519 : Signature → Except Error (Octets 64)
  | bare (.ed25519 signature) => .ok signature
  | _ => .error .wrongKind

/-- The printed form of signatures with their positions. -/
def listText (entries : List (Nat × String)) : String :=
  "[" ++ ", ".intercalate (entries.map fun entry =>
    "(" ++ toString entry.1 ++ ", " ++ entry.2 ++ ")") ++ "]"

/-- The printed form. -/
def text : Signature → String
  | bare signature => signature.text
  | wrapped signature => signature.inner.text
  | multiEd25519 signature =>
      listText (signature.entries.map fun entry => (entry.1, "0x" ++ entry.2.bytes.hex))
  | multiKey signature =>
      listText (signature.entries.map fun entry => (entry.1, entry.2.inner.text))

/-- Writes the signature. -/
def write : Signature → Emission
  | bare signature => signature.write
  | wrapped signature => signature.write
  | multiEd25519 signature => signature.write
  | multiKey signature => signature.write

/-- The octets of the signature without a length in front. -/
def bytes : Signature → Bytes
  | bare signature => signature.bytes
  | wrapped signature => signature.inner.bytes
  | multiEd25519 signature => signature.bytes
  | multiKey signature => signature.write.octets

end Signature

namespace MultiEd25519Key

/-- A set of bare Ed25519 keys. -/
def ofPublicKeys (keys : List PublicKey) (threshold : Int) : Except Error MultiEd25519Key := do
  make (← keys.mapM PublicKey.toEd25519) threshold

end MultiEd25519Key

namespace MultiEd25519Signature

/-- A multi-signature from bare Ed25519 signatures and the positions of their keys. -/
def ofSignatures (entries : List (Int × Signature)) : Except Error MultiEd25519Signature := do
  let members ← entries.mapM fun entry => do
    let member ← entry.2.toEd25519
    Except.ok (entry.1, member)
  make members

/-- A multi-signature from signatures and their keys. A key of another kind is not listed in any
set. -/
def ofPublicKeys (key : MultiEd25519Key) (entries : List (PublicKey × Signature)) :
    Except Error MultiEd25519Signature := do
  let members ← entries.mapM fun entry =>
    match entry.1.toEd25519 with
    | .ok member => Except.ok (member, entry.2)
    | .error _ => .error .notListed
  let signed ← members.mapM fun entry => do
    let signature ← entry.2.toEd25519
    Except.ok (entry.1, signature)
  ofKeys key signed

end MultiEd25519Signature

namespace MultiKey

/-- A set of bare or wrapped keys. The counts are checked before the kinds. -/
def ofPublicKeys (keys : List PublicKey) (threshold : Int) : Except Error MultiKey := do
  check keys.length threshold
  let members ← keys.mapM PublicKey.single
  make members threshold

end MultiKey

namespace MultiKeySignature

/-- A multi-signature from signatures and their keys; each key stands for its first position in
the set. -/
def ofKeys (key : MultiKey) (entries : List (PublicKey × Signature)) :
    Except Error MultiKeySignature := do
  let indexed ← entries.mapM fun entry => do
    let member ← entry.1.single
    let position ← key.indexOf member
    Except.ok (Int.ofNat position, entry.2)
  make Signature.toWrapped indexed

end MultiKeySignature

end MoveClient
