import MoveClient.Argument.Coercion
import MoveClient.Key.Authentication
import MoveClient.Key.Text
import MoveClient.Transaction.Signed
import MoveClient.Value.Access
import MoveClient.Value.JsonText

/-!
Accounts: an address and the private key that controls it.

The address is derived from the key unless it is given; it stays when the key is changed. An
account is stored as a JSON object of both texts.
-/

namespace MoveClient

/-- An address and the private key that controls it. -/
structure Account where
  address : Address
  key : PrivateKey
deriving DecidableEq, Repr

namespace Account

variable (suite : Suite)

/-- The public key of the account. -/
def publicKey (account : Account) : PublicKey :=
  .bare (account.key.publicKey suite)

/-- The account whose address is derived from a key. -/
def ofKey (key : PrivateKey) : Account :=
  ⟨Address.ofPublicKey (.bare (key.publicKey suite)), key⟩

/-- The account of a private key in a text. -/
def ofKeyText (s : String) : Except Error Account :=
  ofKey suite <$> PrivateKey.ofText s

/-- The authentication key of the account's private key. -/
def authenticationKey (account : Account) : AuthenticationKey :=
  .ofPublicKey (account.publicKey suite)

/-- Signs a transaction. -/
def sign (account : Account) (signable : Signable) : Except Error AccountAuthenticator :=
  signable.sign suite account.key

/-- The proof of the account in a simulation. -/
def simulate (account : Account) : Except Error AccountAuthenticator :=
  (account.publicKey suite).simulate

omit suite

/-- The printed form. -/
def text (account : Account) : String :=
  "Account(" ++ account.address.text ++ ")"

/-- The account that a JSON object holds. -/
def load (source : String) : Except Error Account := do
  let stored ← Value.ofJson source
  let address ← (← stored.required "account_address").toAddressOfText
  let key ← PrivateKey.ofValue (← stored.required "private_key")
  .ok ⟨address, key⟩

/-- The account as a JSON object. -/
def store (account : Account) : String :=
  (Value.map [
    (.text "account_address", .text account.address.text),
    (.text "private_key", .text account.key.text)]).json

end Account

/-- What the old and the new key of an account both sign when the key is changed. -/
structure RotationChallenge where
  sequenceNumber : Value
  originator : Address
  currentKey : Address
  newKey : PublicKey
deriving Repr

/-- Writes the name of the challenge's type and its fields. -/
def RotationChallenge.write (challenge : RotationChallenge) : Emission :=
  Address.one.write ++ .text "account" ++ .text "RotationProofChallenge" ++
    challenge.sequenceNumber.writeInteger (.fixed .u64) ++ challenge.originator.write ++
    challenge.currentKey.write ++ challenge.newKey.write

end MoveClient
