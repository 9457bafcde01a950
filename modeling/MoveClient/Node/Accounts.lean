import MoveClient.Node.Client
import MoveClient.TypeTag.Codec

/-!
Accounts on a node.

An account that does not exist has the sequence number zero; everything else about it is not
found. A version asks for the account as it was then.
-/

namespace MoveClient.NodeClient

variable {m : Type → Type} [Monad m] [MonadExceptOf Error m] (client : NodeClient m)

/-- Where a part of an account is found. -/
def accountPath (address : Address) (part : String) : String :=
  "accounts/" ++ address.text ++ part

/-- The sequence number and the authentication key of an account. -/
def account (address : Address) (version : Value) : m Value :=
  client.getJson (accountPath address "") [("ledger_version", version)] (some address.text)

/-- The next sequence number of an account. -/
def accountSequenceNumber (address : Address) (version : Value) : m Int :=
  tryCatch
    (do ofExcept ((← client.account address version).required "sequence_number" >>= Value.toWhole))
    fun error =>
      match error with
      | .api cause => if cause.status = 404 then pure 0 else throw error
      | _ => throw error

/-- One resource of an account. -/
def accountResource (address : Address) (resource : String) (version : Value) : m Value := do
  let response ← client.get (accountPath address ("/resource/" ++ resource))
    [("ledger_version", version)]
  if response.status = 404 then throw (.resourceNotFound resource)
  else ofExcept (response.checkedJson (some address.text))

/-- Part of an account that has to exist. -/
def accountPart (address : Address) (part : String) (params : List (String × Value))
    (headers : List (String × String) := []) : m HttpResponse := do
  let response ← client.get (accountPath address part) params headers
  if response.status = 404 then throw (.accountNotFound address.text)
  else
    ofExcept (response.check (some address.text))
    pure response

/-- All resources of an account. -/
def accountResources (address : Address) (version : Value) : m Value := do
  ofExcept (← client.accountPart address "/resources" [("ledger_version", version)]).json

/-- The types of all resources with their wire forms. -/
def accountResourcesEncoded (address : Address) (version : Value) :
    m (List (StructTag × Bytes)) := do
  let response ← client.accountPart address "/resources" [("ledger_version", version)]
    [("Accept", "application/x-bcs")]
  let resource : Reader (StructTag × Bytes) := do
    let type ← StructTag.read
    let content ← Reader.bytes
    pure (type, content)
  match Reader.sequence resource response.body with
  | .ok resources _ => pure resources
  | .error error _ => throw error

/-- One module of an account. -/
def accountModule (address : Address) (module : String) (version : Value) : m Value :=
  client.getJson (accountPath address ("/module/" ++ module)) [("ledger_version", version)]
    (some address.text)

/-- The modules of an account. -/
def accountModules (address : Address) (version limit start : Value) : m Value := do
  let params := [("ledger_version", version), ("limit", limit), ("start", start)]
  ofExcept (← client.accountPart address "/modules" params).json

/-- The transactions of an account. -/
def accountTransactions (address : Address) (limit start : Value) : m Value :=
  client.getJson (accountPath address "/transactions") [("limit", limit), ("start", start)]
    (some address.text)

/-- Whether the transaction with a sequence number has been committed. -/
def sequenceNumberStatus (address : Address) (number : Value) : m Bool := do
  let found ← client.accountTransactions address (.int 1) number
  if (← ofExcept found.count) ≠ 1 then pure false
  else
    let kind ← ofExcept (found.firstItem >>= Value.required "type")
    pure (!kind.same (.text "pending_transaction"))

end MoveClient.NodeClient
