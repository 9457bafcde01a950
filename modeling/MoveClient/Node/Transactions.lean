import MoveClient.Account.Cosigning
import MoveClient.Node.Accounts
import MoveClient.Node.Wait
import MoveClient.Transaction.Interface

/-!
Transactions on a node: looking them up, building them against the ledger, submitting and
simulating them, and calling functions that only look.

What a transaction leaves open is asked of the node while it is built. A payload is encoded
before anything is asked.
-/

namespace MoveClient.NodeClient

variable {m : Type → Type} [Monad m] [MonadExceptOf Error m] (client : NodeClient m)

/-- The header that says what a body is. -/
def contentType (type : String) : List (String × String) :=
  [("Content-Type", type)]

/-- Whether a transaction has not been committed yet; an unknown one has not. -/
def transactionPending (hash : String) : m Bool := do
  let response ← client.get ("transactions/by_hash/" ++ hash)
  if response.status = 404 then pure true
  else
    let kind ← ofExcept (response.checkedJson none >>= Value.required "type")
    pure (kind.same (.text "pending_transaction"))

/-- The transaction with a hash. -/
def transactionByHash (hash : String) : m Value :=
  client.getJson ("transactions/by_hash/" ++ hash) [] (some hash)

/-- The transaction with a version. -/
def transactionByVersion (version : Value) : m Value :=
  client.getJson ("transactions/by_version/" ++ version.shown)

/-- Transactions from a version on. -/
def transactions (limit start : Value) : m Value :=
  client.getJson "transactions" [("limit", limit), ("start", start)]

/-- Hands in a signed transaction. -/
def postSigned (endpoint : String) (params : List (String × Value)) (signed : SignedTransaction) :
    m Value := do
  let octets ← ofExcept signed.write.result
  let response ← client.post endpoint params
    (contentType "application/x.aptos.signed_transaction+bcs") (.octets octets)
  ofExcept (response.checkedJson none)

/-- Submits a signed transaction and gives the hash that the node answers. -/
def submit (signed : SignedTransaction) : m Value := do
  ofExcept ((← client.postSigned "transactions" [] signed).required "hash")

/-- Submits a signed transaction and waits until it is committed. -/
def submitAndWait (signed : SignedTransaction) : m Value := do
  let hash ← client.submit signed
  client.waitForTransaction hash.shown .null .null

/-- Runs a transaction without committing it; the node may be left to choose price and limit of
the gas. -/
def simulateSigned (signed : SignedTransaction) (estimateGas : Bool) : m Value :=
  let params := if estimateGas then
      [("estimate_gas_unit_price", .text "true"), ("estimate_max_gas_amount", .text "true")]
    else []
  client.postSigned "transactions/simulate" params signed

/-- Runs a transaction of an account without committing it. -/
def simulate (suite : Suite) (transaction : RawTransaction) (sender : Account)
    (estimateGas : Bool) : m Value := do
  let proof ← ofExcept (sender.simulate suite)
  client.simulateSigned ⟨transaction, .ofAccount proof⟩ estimateGas

/-- Calls a function that only looks, with arguments as JSON. -/
def view (function : String) (typeArguments arguments version : Value) : m Value := do
  let call := Value.map [(.text "function", .text function),
    (.text "type_arguments", typeArguments), (.text "arguments", arguments)]
  let response ← client.post "view" [("ledger_version", version)] [] (.json call)
  ofExcept (response.checkedJson (some function))

/-- Calls a function that only looks, with encoded arguments. -/
def viewEncoded (module function : String) (typeArguments : List TypeTag)
    (arguments : List (Layout × Value)) (version : Value) : m Value := do
  let call ← ofExcept (EntryFunction.natural module function typeArguments arguments)
  let octets ← ofExcept call.write.result
  let response ← client.post "view" [("ledger_version", version)]
    (contentType "application/x.aptos.view_function+bcs") (.octets octets)
  ofExcept (response.checkedJson (some (module ++ "::" ++ function)))

/-- The coin whose balance is asked for if none is named. -/
def defaultCoin : String := "0x1::aptos_coin::AptosCoin"

/-- The balance of a coin on an account. -/
def accountBalance (address : Address) (version : Value) (coin : String) : m Int := do
  let type ← ofExcept (StructTag.parse (if coin = "" then defaultCoin else coin))
  let answer ← client.viewEncoded "0x1::coin" "balance" [type.toTypeTag]
    [(.struct .address, .address address)] version
  ofExcept (answer.firstItem >>= Value.toWhole)

/-- The address that the next multisig account made by an account gets. -/
def nextMultisigAddress (creator : Address) : m Address := do
  let answer ← client.viewEncoded "0x1::multisig_account" "get_next_multisig_account_address" []
    [(.struct .address, .address creator)] .null
  ofExcept (answer.firstItem >>= Value.toAddressOfText)

/-- Answers what a builder asks of a node. -/
def answerQuery : ChainAnswers m
  | .sequenceNumber address => do pure (.int (← client.accountSequenceNumber address .null))
  | .chainId => do pure (.int (← client.chainId))

/-- The options, or the client's own if there are none. -/
def optionsOr (options : Option TransactionOptions) : m TransactionOptions :=
  match options with
  | some options => pure options
  | none => ofExcept client.config.transactionOptions

/-- The client's own options, changed by name. -/
def optionsNamed (named : List (String × Value)) : m TransactionOptions := do
  let defaults ← ofExcept client.config.transactionOptions
  ofExcept (TransactionOptions.ofNamed defaults named)

/-- Builds a transaction against the ledger. -/
def build (options : TransactionOptions) (sender : Address) (payload : Payload) : m Signable :=
  options.build client.answerQuery sender payload client.transport.timeOfDay

/-- Builds a transaction without its other signers. A sequence number takes precedence over the
options. -/
def create (sender : Address) (payload : Payload) (sequenceNumber : Option Value)
    (options : Option TransactionOptions) : m RawTransaction := do
  let options ← client.optionsOr options
  let options := match sequenceNumber with
    | some number => { options with sequenceNumber := some number }
    | none => options
  pure (← client.build options sender payload).transaction

/-- Builds a transaction that its sender signs. -/
def createSigned (suite : Suite) (sender : Account) (payload : Payload)
    (sequenceNumber : Option Value) (options : Option TransactionOptions) :
    m SignedTransaction := do
  let transaction ← client.create sender.address payload sequenceNumber options
  ofExcept (SignedTransaction.signedBy suite transaction sender)

/-- Builds a transaction that its sender and secondary signers sign. Without any there is none to
build. -/
def createCosigned (suite : Suite) (sender : Account) (others : List Account) (payload : Payload)
    (options : Option TransactionOptions) : m SignedTransaction := do
  let options ← client.optionsOr options
  let options := { options with
    additionalSigners := .listed (others.map Account.address)
    feePayer := none }
  match ← client.build options sender.address payload with
  | .multiAgent transaction _ =>
      ofExcept (SignedTransaction.cosigned suite transaction sender others)
  | _ => throw .noSecondarySigners

/-- Builds a transaction whose fee another account pays. -/
def createSponsored (suite : Suite) (sender payer : Account) (payload : Payload)
    (others : List Account) (options : Option TransactionOptions) : m SignedTransaction := do
  let options ← client.optionsOr options
  let options := { options with
    additionalSigners := .listed (others.map Account.address)
    feePayer := some payer.address }
  let built ← client.build options sender.address payload
  ofExcept (SignedTransaction.sponsored suite built.transaction sender payer others)

/-- Builds, signs and submits a call of the module for transfers. -/
def transferBy (suite : Suite) (sender : Account) (function : String)
    (typeArguments : List TypeTag) (recipient : Address) (amount : Value)
    (sequenceNumber : Option Value) : m Value := do
  let call ← ofExcept (EntryFunction.natural "0x1::aptos_account" function typeArguments
    [(.struct .address, .address recipient), (.integer .u64, amount)])
  client.submit (← client.createSigned suite sender (.entryFunction call) sequenceNumber none)

/-- Transfers the ledger's own coin. -/
def transfer (suite : Suite) (sender : Account) (recipient : Address) (amount : Value)
    (sequenceNumber : Option Value) : m Value :=
  client.transferBy suite sender "transfer" [] recipient amount sequenceNumber

/-- Transfers a coin. -/
def transferCoins (suite : Suite) (sender : Account) (recipient : Address) (coin : String)
    (amount : Value) (sequenceNumber : Option Value) : m Value := do
  let type ← ofExcept (StructTag.parse coin)
  client.transferBy suite sender "transfer_coins" [type.toTypeTag] recipient amount sequenceNumber

end MoveClient.NodeClient
