import MoveClient.Account
import MoveClient.Key.Generation

/-!
Trials of fresh keys.

Two keys are made from neighbouring numbers. What holds of every pair of fresh keys is tried on
them: they differ, each is read back from its forms, and a signature belongs to one of them only.
-/

namespace MoveClient

/-- What a trial shows. -/
structure KeyTrial where
  /-- The first key. -/
  key : PrivateKey
  /-- Whether the two keys differ. -/
  differs : Bool
  /-- Whether the first key's text gives it back. -/
  isReadFromText : Bool
  /-- Whether the first key's wire form gives it back. -/
  isReadFromWire : Bool
  /-- Whether signing twice gives the same signature. -/
  isDeterministic : Bool
  /-- Whether a signature verifies with the key that made it. -/
  verifies : Bool
  /-- Whether a signature verifies with the other key. -/
  verifiesElsewhere : Bool
  /-- Whether the account of the key has the address of its authentication key. -/
  ownsAddress : Bool

namespace KeyTrial

/-- Tries the keys of a scheme that two neighbouring numbers make. -/
def run (suite : Suite) (scheme : KeyScheme) (number : Nat) (message : Bytes) :
    Except Error KeyTrial := do
  let key ← PrivateKey.ofNumber scheme number
  let other ← PrivateKey.ofNumber scheme (number + 1)
  let signature : Signature := .bare (key.sign suite message)
  let verifies (candidate : PrivateKey) : Except Error Bool :=
    (PublicKey.bare (candidate.publicKey suite)).verify suite message signature
  let fromText ← PrivateKey.ofText key.text
  let fromWire ← Reader.whole "PrivateKey" (PrivateKey.read scheme) (← key.write.result)
  let account := Account.ofKey suite key
  .ok {
    key
    differs := key != other
    isReadFromText := fromText == key
    isReadFromWire := fromWire == key
    isDeterministic := signature == .bare (key.sign suite message)
    verifies := ← verifies key
    verifiesElsewhere := ← verifies other
    ownsAddress := account.address == (account.authenticationKey suite).address }

end KeyTrial

end MoveClient
