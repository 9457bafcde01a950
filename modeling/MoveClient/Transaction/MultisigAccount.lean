import MoveClient.Transaction.Interface
import MoveClient.Transaction.Payload

/-!
Calls to the ledger's module for multisig accounts.

Owners propose a call, in full or by its hash, and vote on it; any owner executes it once enough
have approved.
-/

namespace MoveClient.MultisigAccount

/-- The name of the module. -/
def moduleName : String := "0x1::multisig_account"

/-- A call of a function of the module. -/
def call (function : String) (arguments : List (Layout × Value)) : Except Error Payload :=
  .entryFunction <$> EntryFunction.natural moduleName function [] arguments

/-- An address as an argument. -/
def addressArgument (address : Address) : Layout × Value :=
  (.struct .address, .address address)

/-- A number of 64 bits as an argument. -/
def numberArgument (number : Value) : Layout × Value :=
  (.integer .u64, number)

/-- Octets as an argument. -/
def octetsArgument (octets : Bytes) : Layout × Value :=
  (.bytes, .bytes octets)

/-- Creates an account owned by the sender and other owners, of whom `signaturesRequired` have to
approve; names and encoded values of metadata go with it. -/
def createWithOwners (owners : List Address) (signaturesRequired : Value)
    (metadataKeys : List String) (metadataValues : List Bytes) : Except Error Payload :=
  call "create_with_owners" [
    (.sequence (.struct .address), .list (owners.map Value.address)),
    numberArgument signaturesRequired,
    (.sequence .text, .list (metadataKeys.map Value.text)),
    (.sequence .bytes, .list (metadataValues.map Value.bytes))]

/-- Adds an owner. -/
def addOwner (owner : Address) : Except Error Payload :=
  call "add_owner" [addressArgument owner]

/-- Removes an owner. -/
def removeOwner (owner : Address) : Except Error Payload :=
  call "remove_owner" [addressArgument owner]

/-- Changes how many owners have to approve. -/
def updateSignaturesRequired (signaturesRequired : Value) : Except Error Payload :=
  call "update_signatures_required" [numberArgument signaturesRequired]

/-- Proposes a call, which the ledger stores. -/
def createTransaction (account : Address) (proposal : MultisigCall) : Except Error Payload := do
  let octets ← proposal.write.result
  call "create_transaction" [addressArgument account, octetsArgument octets]

/-- Proposes a call by its hash. -/
def createTransactionWithHash (account : Address) (proposal : MultisigCall) :
    Except Error Payload := do
  let digest ← proposal.hash
  call "create_transaction_with_hash" [addressArgument account, octetsArgument digest]

/-- Approves the proposal with a number. -/
def approveTransaction (account : Address) (number : Value) : Except Error Payload :=
  call "approve_transaction" [addressArgument account, numberArgument number]

/-- Rejects the proposal with a number. -/
def rejectTransaction (account : Address) (number : Value) : Except Error Payload :=
  call "reject_transaction" [addressArgument account, numberArgument number]

/-- Executes the next approved proposal; the call is given unless the ledger stores it. -/
def execute (account : Address) (function : Option EntryFunction) : Payload :=
  .multisig ⟨account, function.map MultisigCall.mk⟩

end MoveClient.MultisigAccount
