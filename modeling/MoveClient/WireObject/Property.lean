import MoveClient.WireObject.Reader

/-!
Properties of objects by name.

What can be asked of an object without further arguments has a name, so that a tool can show it.
Asking an object of the wrong type is an error.
-/

namespace MoveClient.WireObject

variable (suite : Suite)

/-- A truth value. -/
def truth (b : Bool) : Description := .value (.bool b)

/-- The octets that an emission gives. -/
def octetsOf (emission : Emission) : Except Error Description :=
  Description.bytes <$> emission.result

/-- What writing and reading again gives: whether the object is equal, and how many octets are
left. -/
def roundTripped (object : WireObject) : Except Error Description := do
  let (equal, rest) ← object.roundTrip
  .ok (.list [truth equal, .number rest])

/-- The properties that every object has. -/
def common? (name : String) (object : WireObject) : Option (Except Error Description) :=
  match name with
  | "dump" => some (.ok object.describe)
  | "str" => some (.ok (.text object.text))
  | "bcs" | "bytes" => some (octetsOf object.write)
  | "roundtrip" => some object.roundTripped
  | _ => none

/-- The properties of a public key. -/
def ofPublicKey? (name : String) (key : PublicKey) : Option Description :=
  match name with
  | "crypto" => some (.bytes key.bytes)
  | "auth_key" => some (.text (AuthenticationKey.ofPublicKey key).text)
  | "address" => some (.address (.ofPublicKey key))
  | "from_key" => some (.number (Authenticator.variantOfKey key))
  | "hex" => some (.text key.text)
  | _ => none

/-- The properties of a private key. -/
def ofPrivateKey? (name : String) (key : PrivateKey) : Option Description :=
  let shared : PublicKey := .bare (key.publicKey suite)
  match name with
  | "hex" => some (.text key.hexText)
  | "aip80" => some (.text key.text)
  | "public_key" => some shared.describe
  | "public" => some (.text shared.text)
  | "auth_key" => some (.text (AuthenticationKey.ofPublicKey shared).text)
  | _ => none

/-- The properties of a signature. -/
def ofSignature? (name : String) (value : Signature) : Option Description :=
  match name, value with
  | "data", value => some (.bytes value.bytes)
  | "hex", value => some (.text value.text)
  | "bitmap", .multiEd25519 entries => some (.number entries.bitmap)
  | "bitmap", .multiKey entries => some (.bytes entries.bitmap)
  | _, _ => none

/-- The properties of what is signed. -/
def ofSignable? (name : String) (content : Signable) : Option (Except Error Description) :=
  match name, content with
  | "prehash", content => some (.ok (.bytes content.prehash))
  | "keyed", content => some (Description.bytes <$> content.signingMessage)
  | "is_orderless", content => some (.ok (truth content.transaction.isOrderless))
  | "nonce", content => some (.ok (.option .value content.transaction.nonce))
  | "inner", content => some (.ok content.transaction.describe)
  | "fee_payer_address", .feePayer _ _ payer =>
      some (.ok (.address (Signable.payerAddress payer)))
  | _, _ => none

/-- The properties of an account. -/
def ofAccount? (name : String) (owner : Account) : Option Description :=
  match name with
  | "address" => some (.address owner.address)
  | "auth_key" => some (.text (owner.authenticationKey suite).text)
  | "public_key" | "public" => some (owner.publicKey suite).describe
  | _ => none

/-- The properties of the other objects. -/
def ofOther? (name : String) (object : WireObject) : Option (Except Error Description) :=
  match name, object with
  | "variant_of", payload content => some (.ok (.number content.variant))
  | "variant_of", proof content => some (.ok (.number content.variant))
  | "variant_of", authenticator content => some (.ok (.number content.variant))
  | "variant_of", type _ => some (.ok (.record "method" []))
  | "lift", proof content => some (.ok (Authenticator.ofAccount content).describe)
  | "nonce", payload content => some (.ok (.option .value content.nonce))
  | "hash", signed transaction => some (Description.text <$> transaction.hash)
  | "verify", signed transaction => some (truth <$> transaction.verify suite)
  | "hash", multisigCall call => some (Description.bytes <$> call.hash)
  | "account_address", authenticationKey key => some (.ok (.address key.address))
  | "is_special", address a => some (.ok (truth a.isSpecial))
  | "to_long_string", address a => some (.ok (.text a.longText))
  | "is_signer", type tag => some (.ok (truth tag.isSigner))
  | "is_string", structType tag => some (.ok (truth tag.isString))
  | "is_option", structType tag => some (.ok (truth tag.isOption))
  | "is_object", structType tag => some (.ok (truth tag.isObject))
  | _, _ => none

/-- The properties that only objects of some types have. -/
def special? (name : String) : WireObject → Option (Except Error Description)
  | publicKey key => (ofPublicKey? name key).map .ok
  | privateKey key => (ofPrivateKey? suite name key).map .ok
  | signature value => (ofSignature? name value).map .ok
  | signable content => ofSignable? name content
  | account owner => (ofAccount? suite name owner).map .ok
  | object => ofOther? suite name object

/-- The property of a name. -/
def property (name : String) (object : WireObject) : Except Error Description :=
  ((common? name object) <|> special? suite name object).getD (.error .wrongKind)

/-- How many different objects there are; only some objects can be told apart that way. -/
def distinct (objects : List WireObject) : Except Error Nat :=
  if objects.all isHashable then
    .ok (objects.foldl (fun found object =>
      if found.any (same object) then found else object :: found) []).length
  else .error .wrongKind

end MoveClient.WireObject
