import MoveClient.Transaction.Raw
import MoveClient.Value.Arithmetic

/-!
Putting transactions together from a payload and options.

What the options leave open is asked of a node: the sender's sequence number and the number of the
chain. A nonce makes the transaction orderless, and then no sequence number is asked for. A fee
payer in the options gives the form with a fee payer, secondary signers alone the form with
several signers.
-/

namespace MoveClient

/-- The signers besides the sender and a fee payer, as a caller hands them over. What has no items
is kept as it is until the signers are listed. -/
inductive AdditionalSigners where
  | listed (addresses : List Address)
  | unlisted (value : Value) (noItems : value.items? = none)
deriving Repr

namespace AdditionalSigners

/-- Whether there are any, as far as can be told without listing them. -/
def areGiven : AdditionalSigners → Bool
  | listed addresses => !addresses.isEmpty
  | unlisted value _ => value.isTruthy

/-- The addresses. -/
def list : AdditionalSigners → Except Error (List Address)
  | listed addresses => .ok addresses
  | unlisted .. => .error .wrongKind

end AdditionalSigners

/-- What a caller can set about a transaction. The expiration is in seconds from now. -/
structure TransactionOptions where
  maxGasAmount : Value := .int 100000
  gasUnitPrice : Value := .int 100
  expirationSeconds : Value := .int 300
  sequenceNumber : Option Value := none
  chainId : Option Value := none
  feePayer : Option Address := none
  additionalSigners : AdditionalSigners := .listed []
  nonce : Option Value := none
deriving Repr

namespace TransactionOptions

instance : Inhabited TransactionOptions := ⟨{}⟩

/-- The options, if the expiration is a number that is not negative. -/
def checked (options : TransactionOptions) : Except Error TransactionOptions := do
  if ← options.expirationSeconds.isNegative then
    .error (Error.range (.negativeExpiration options.expirationSeconds)).stated
  else .ok options

/-- A value that may be left out, with null for one that is. -/
def given : Value → Option Value
  | .null => none
  | value => some value

/-- The address in a value, or nothing for null. -/
def addressIn : Value → Except Error (Option Address)
  | .null => .ok none
  | .address a => .ok (some a)
  | _ => .error .wrongKind

/-- The signers that a value lists, if all its items are addresses. -/
def signersIn (value : Value) : Except Error AdditionalSigners :=
  match found : value.items? with
  | none => .ok (.unlisted value found)
  | some members =>
      .listed <$> members.mapM fun member =>
        match member with
        | .address a => .ok a
        | _ => .error .wrongKind

/-- The names of the options. -/
def names : List String :=
  ["max_gas_amount", "gas_unit_price", "expiration_seconds", "sequence_number", "chain_id",
    "fee_payer", "additional_signers", "replay_protection_nonce"]

/-- Sets the option of a name; another name changes nothing. -/
def set (options : TransactionOptions) (name : String) (value : Value) :
    Except Error TransactionOptions :=
  match name with
  | "max_gas_amount" => .ok { options with maxGasAmount := value }
  | "gas_unit_price" => .ok { options with gasUnitPrice := value }
  | "expiration_seconds" => .ok { options with expirationSeconds := value }
  | "sequence_number" => .ok { options with sequenceNumber := given value }
  | "chain_id" => .ok { options with chainId := given value }
  | "fee_payer" => (fun payer => { options with feePayer := payer }) <$> addressIn value
  | "additional_signers" =>
      (fun signers => { options with additionalSigners := signers }) <$> signersIn value
  | "replay_protection_nonce" => .ok { options with nonce := given value }
  | _ => .ok options

/-- The signers that the transaction lists. Without a fee payer none are listed unless some are
given. -/
def signers (options : TransactionOptions) : Except Error (List Address) :=
  if options.feePayer.isSome || options.additionalSigners.areGiven then
    options.additionalSigners.list
  else .ok []

/-- Changes the options of the given names; unknown names are refused in alphabetical order. -/
def ofNamed (defaults : TransactionOptions) (named : List (String × Value)) :
    Except Error TransactionOptions := do
  let unknown := (named.map Prod.fst).filter fun name => !names.contains name
  if unknown.isEmpty then
    (← named.foldlM (fun options entry => options.set entry.1 entry.2) defaults).checked
  else .error (.parse (.unknownOptions (unknown.mergeSort fun left right => left ≤ right)))

end TransactionOptions

namespace Signable

/-- A transaction from values that are all at hand. The expiration counts from the whole seconds
of the clock. -/
def assemble (sender : Address) (sequenceNumber chainId : Value) (payload : Payload)
    (options : TransactionOptions) (now : Value) : Except Error Signable := do
  let expiration ← options.expirationSeconds.addTo (← now.toWhole)
  let raw : RawTransaction := {
    sender
    sequenceNumber
    payload
    maxGasAmount := options.maxGasAmount
    gasUnitPrice := options.gasUnitPrice
    expiration
    chainId }
  let others ← options.signers
  match options.feePayer with
  | some payer => .ok (.feePayer raw others (some payer))
  | none =>
      if options.additionalSigners.areGiven then .ok (.multiAgent raw others)
      else .ok (.plain raw)

end Signable

/-- What is asked of a node while a transaction is built. -/
inductive ChainQuery where
  | sequenceNumber (address : Address)
  | chainId
deriving DecidableEq, Repr

/-- A way to have a query answered by a node. -/
abbrev ChainAnswers (m : Type → Type) := ChainQuery → m Value

namespace TransactionOptions

/-- The payload with the options' nonce, if they have one. -/
def applyNonce (options : TransactionOptions) (payload : Payload) : Payload :=
  match options.nonce with
  | some nonce => payload.makeOrderless (some nonce)
  | none => payload

variable {m : Type → Type} [Monad m] [MonadExceptOf Error m]

/-- The sequence number: a fixed one for a payload with a nonce, else the options' or the
node's. -/
def chooseSequenceNumber (options : TransactionOptions) (ask : ChainAnswers m)
    (sender : Address) (payload : Payload) : m Value :=
  if payload.nonce.isSome then pure (.int RawTransaction.orderlessSequenceNumber)
  else
    match options.sequenceNumber with
    | some number => pure number
    | none => ask (.sequenceNumber sender)

/-- The number of the chain: the options' or the node's. -/
def chooseChainId (options : TransactionOptions) (ask : ChainAnswers m) : m Value :=
  match options.chainId with
  | some chainId => pure chainId
  | none => ask .chainId

/-- Builds a transaction; the clock gives seconds, and is read last. -/
def build (options : TransactionOptions) (ask : ChainAnswers m) (sender : Address)
    (payload : Payload) (clock : m Value) : m Signable := do
  let payload := options.applyNonce payload
  let sequenceNumber ← options.chooseSequenceNumber ask sender payload
  let chainId ← options.chooseChainId ask
  let now ← clock
  ofExcept (Signable.assemble sender sequenceNumber chainId payload options now)

end TransactionOptions

end MoveClient
