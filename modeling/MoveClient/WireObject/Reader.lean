import MoveClient.WireObject

/-!
Reading objects by the names of their types.
-/

namespace MoveClient.WireObject

/-- A reader that always fails. -/
def refused (error : Error) : Reader WireObject :=
  throw error

/-- Reads what a placeholder stands for. -/
def placeholder (what : Placeholder) : Reader WireObject := do
  match (what.refuse : Except Error WireObject) with
  | .ok object => pure object
  | .error error => throw error

/-- Reads the content of an account's proof of a given kind. -/
def readProofContent (variant : UInt8) : Reader WireObject := fun input =>
  (proofContent <$> AccountAuthenticator.read : Reader WireObject) (variant :: input)

/-- Reads the content of a transaction's proofs of a given kind. -/
def readAuthenticatorContent (variant : UInt8) : Reader WireObject := fun input =>
  (authenticatorContent <$> Authenticator.read : Reader WireObject) (variant :: input)

/-- The schemes by the names of their types. -/
def schemes : List KeyScheme :=
  [.ed25519, .ecdsa .secp256k1, .ecdsa .secp256r1, .slhDsa]

/-- The readers of key material of one scheme. -/
def keyReaders (scheme : KeyScheme) : List (String × Reader WireObject) :=
  [(schemeLabel scheme ++ ".PrivateKey", privateKey <$> PrivateKey.read scheme),
    (schemeLabel scheme ++ ".PublicKey", (fun key => publicKey (.bare key)) <$> SingleKey.read scheme),
    (schemeLabel scheme ++ ".Signature",
      (fun value => signature (.bare value)) <$> SingleSignature.read scheme)]

/-- The readers of all types by name. -/
def readers : List (String × Reader WireObject) :=
  [("AccountAddress", address <$> Address.read),
    ("AuthenticationKey", authenticationKey <$> AuthenticationKey.read),
    ("TypeTag", type <$> TypeTag.read),
    ("StructTag", structType <$> StructTag.read),
    ("VectorTag", (fun element => typeContent (.vector element)) <$> TypeTag.read),
    ("AccountAuthenticator", proof <$> AccountAuthenticator.read),
    ("Authenticator", authenticator <$> Authenticator.read),
    ("TransactionPayload", payload <$> Payload.read),
    ("Script", script <$> Script.read),
    ("ScriptArgument", scriptArgument <$> ScriptArgument.read),
    ("EntryFunction", entryFunction <$> EntryFunction.read),
    ("ModuleId", moduleId <$> ModuleId.read),
    ("Multisig", multisig <$> Multisig.read),
    ("MultisigTransactionPayload", multisigCall <$> MultisigCall.read),
    ("TransactionExecutable", executable <$> Executable.read),
    ("TransactionExtraConfig", extraConfig <$> ExtraConfig.read),
    ("TransactionInnerPayload", versionedPayload <$> VersionedPayload.read),
    ("RawTransaction", (fun raw => signable (.plain raw)) <$> RawTransaction.read),
    ("RawTransactionWithData", signable <$> Signable.readExtended),
    ("SignedTransaction", signed <$> SignedTransaction.read),
    ("ModuleBundle", refused (.unsupported .moduleBundle)),
    ("ed25519.MultiPublicKey", (fun key => publicKey (.multiEd25519 key)) <$> MultiEd25519Key.read),
    ("ed25519.MultiSignature",
      (fun value => signature (.multiEd25519 value)) <$> MultiEd25519Signature.read),
    ("any.PublicKey", (fun key => publicKey (.wrapped key)) <$> SingleKey.readWrapped),
    ("any.Signature", (fun value => signature (.wrapped value)) <$> WrappedSignature.read),
    ("multi_key.PublicKey", (fun key => publicKey (.multiKey key)) <$> MultiKey.read),
    ("multi_key.Signature", (fun value => signature (.multiKey value)) <$> MultiKeySignature.read),
    ("keyless.PublicKey", placeholder .keylessKey),
    ("keyless.FederatedPublicKey", placeholder .federatedKeylessKey),
    ("keyless.Signature", placeholder .keylessSignature),
    ("keyless.WebAuthnSignature", placeholder .webAuthnSignature),
    ("Ed25519Authenticator", readProofContent 0),
    ("MultiEd25519Authenticator", readProofContent 1),
    ("SingleKeyAuthenticator", readProofContent 2),
    ("MultiKeyAuthenticator", readProofContent 3),
    ("NoAccountAuthenticator", readProofContent 4),
    ("MultiAgentAuthenticator", readAuthenticatorContent 2),
    ("FeePayerAuthenticator", readAuthenticatorContent 3),
    ("SingleSenderAuthenticator", readAuthenticatorContent 4)] ++
  schemes.flatMap keyReaders ++
  PrimitiveType.all.map fun kind => (kind.contentType, pure (typeContent (.primitive kind)))

/-- The reader of the objects of a type. -/
def reader? (typeName : String) : Option (Reader WireObject) :=
  (readers.find? fun entry => entry.1 == typeName).map Prod.snd

/-- The name of a type as failures give it: without the scheme in front. -/
def shortName (typeName : String) : String :=
  match typeName with
  | "multi_key.PublicKey" => "MultiPublicKey"
  | "multi_key.Signature" => "MultiSignature"
  | _ => String.ofList (typeName.toList.reverse.takeWhile (· != '.')).reverse

/-- Encodes an object, decodes it by its type, and tells whether it came back equal and how many
octets were left. -/
def roundTrip (object : WireObject) : Except Error (Bool × Nat) := do
  let octets ← object.write.result
  match reader? object.typeName with
  | none => .ok (object.same object, 0)
  | some reader =>
      match reader octets with
      | .ok back rest => .ok (object.same back, rest.length)
      | .error error _ => .error error

end MoveClient.WireObject
