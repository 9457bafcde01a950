import MoveClient.Argument.Coercion
import MoveClient.Description.Report
import MoveClient.Node.Transactions

/-!
Commands: what can be asked of a node by a name and plain arguments.

A console has names and arguments as text and JSON. An argument that is left out is null. The
answer is a report: the node's own JSON as it came, and anything else with its numbers as text.
-/

namespace MoveClient

/-- A command. -/
structure NodeCommand where
  name : String
  arguments : List Value
deriving Repr

namespace NodeCommand

/-- The argument at a position. -/
def argument (command : NodeCommand) (position : Nat) : Value :=
  command.arguments[position]?.getD .null

/-- The text at a position; what is no text is none. -/
def text (command : NodeCommand) (position : Nat) : String :=
  match command.argument position with
  | .text s => s
  | _ => ""

variable {m : Type → Type} [Monad m] [MonadExceptOf Error m]

/-- The address at the first position. -/
def address (command : NodeCommand) : m Address :=
  ofExcept (command.argument 0).toAddress

/-- What a command asks about the node and its ledger. -/
def ofNode? (client : NodeClient m) (command : NodeCommand) : Option (m Value) :=
  let first := command.argument 0
  let second := command.argument 1
  match command.name with
  | "info" => some client.info
  | "chain_id" => some (Value.numeral <$> client.chainId)
  | "estimate_gas_price" => some do
      let prices ← client.estimateGasPrice
      pure (.record (prices.map fun price => (price.1, .numeral price.2)))
  | "current_timestamp" => some do pure (Value.float (← client.currentTimestamp)).report
  | "blocks_by_height" => some (client.blockByHeight first second.isTruthy)
  | "blocks_by_version" => some (client.blockByVersion first second.isTruthy)
  | "healthy" => some (Value.bool <$> client.healthy first)
  | _ => none

/-- What a command asks about an account. -/
def ofAccount? (client : NodeClient m) (command : NodeCommand) : Option (m Value) :=
  let second := command.argument 1
  let third := command.argument 2
  match command.name with
  | "account" => some do client.account (← command.address) second
  | "account_balance" => some do
      Value.numeral <$> client.accountBalance (← command.address) second (command.text 2)
  | "account_sequence_number" => some do
      Value.numeral <$> client.accountSequenceNumber (← command.address) second
  | "account_resource" => some do
      client.accountResource (← command.address) (command.text 1) third
  | "account_resources" => some do client.accountResources (← command.address) second
  | "account_resources_bcs" => some do
      let resources ← client.accountResourcesEncoded (← command.address) second
      pure (.list (resources.map fun resource =>
        .list [.text resource.1.text, .text resource.2.hex]))
  | "account_module" => some do client.accountModule (← command.address) (command.text 1) third
  | "account_modules" => some do
      client.accountModules (← command.address) second third (command.argument 3)
  | "account_transaction_sequence_number_status" => some do
      Value.bool <$> client.sequenceNumberStatus (← command.address) second
  | "transactions_by_account" => some do
      client.accountTransactions (← command.address) second third
  | "next_multisig_address" => some do
      let found ← client.nextMultisigAddress (← command.address)
      pure (.text found.longText)
  | _ => none

/-- What a command asks about transactions and functions that only look. -/
def ofTransactions? (client : NodeClient m) (command : NodeCommand) : Option (m Value) :=
  let first := command.argument 0
  let second := command.argument 1
  let third := command.argument 2
  match command.name with
  | "transaction_pending" => some (Value.bool <$> client.transactionPending (command.text 0))
  | "wait_for_transaction" => some (client.waitForTransaction (command.text 0) second third)
  | "wait_for_transactions" =>
      some (Value.list <$>
        client.waitForTransactions ((first.items?.getD []).map Value.shown) second third)
  | "transaction_by_hash" => some (client.transactionByHash (command.text 0))
  | "transaction_by_version" => some (client.transactionByVersion first)
  | "transactions" => some (client.transactions first second)
  | "view" => some (client.view (command.text 0) second third (command.argument 3))
  | _ => none

/-- The program of a command; there is none for an unknown name. -/
def program? (client : NodeClient m) (command : NodeCommand) : Option (m Value) :=
  ofNode? client command <|> ofAccount? client command <|> ofTransactions? client command

end NodeCommand

end MoveClient
