import MoveClient.Transaction.Payload

/-!
Transactions before they are signed.

What a signer signs is a transaction alone, or a transaction with the other accounts that take
part: secondary signers, and an account that pays the fee. The signing message is a digest that
separates the two forms, followed by the wire form; so no message of one form is one of the
other.

The numeric fields hold what the caller gave; whether they fit is checked when they are written.
-/

namespace MoveClient

/-- A transaction of one sender. The expiration is in seconds since the beginning of 1970. -/
structure RawTransaction where
  sender : Address
  sequenceNumber : Value
  payload : Payload
  maxGasAmount : Value
  gasUnitPrice : Value
  expiration : Value
  chainId : Value
deriving Repr

namespace RawTransaction

/-- The sequence number that every transaction with a nonce carries. -/
def orderlessSequenceNumber : Int := 18446744073709551615

/-- The nonce of the payload. -/
def nonce (transaction : RawTransaction) : Option Value :=
  transaction.payload.nonce

/-- Whether the payload has a nonce. -/
def isOrderless (transaction : RawTransaction) : Bool :=
  transaction.nonce.isSome

/-- Whether all fields are equal. -/
def same (left right : RawTransaction) : Bool :=
  left.sender == right.sender && left.sequenceNumber.same right.sequenceNumber &&
    left.payload.same right.payload && left.maxGasAmount.same right.maxGasAmount &&
    left.gasUnitPrice.same right.gasUnitPrice && left.expiration.same right.expiration &&
    left.chainId.same right.chainId

/-- The printed form: a line for each field. -/
def text (transaction : RawTransaction) : String :=
  "RawTransaction:\n    sender: " ++ transaction.sender.text ++
    "\n    sequence_number: " ++ transaction.sequenceNumber.shown ++
    "\n    payload: " ++ transaction.payload.text ++
    "\n    max_gas_amount: " ++ transaction.maxGasAmount.shown ++
    "\n    gas_unit_price: " ++ transaction.gasUnitPrice.shown ++
    "\n    expiration_timestamps_secs: " ++ transaction.expiration.shown ++
    "\n    chain_id: " ++ transaction.chainId.shown ++ "\n"

/-- Writes the fields in order. -/
def write (transaction : RawTransaction) : Emission :=
  transaction.sender.write ++ transaction.sequenceNumber.writeInteger (.fixed .u64) ++
    transaction.payload.write ++ transaction.maxGasAmount.writeInteger (.fixed .u64) ++
    transaction.gasUnitPrice.writeInteger (.fixed .u64) ++
    transaction.expiration.writeInteger (.fixed .u64) ++
    transaction.chainId.writeInteger (.fixed .u8)

/-- Reads the fields in order. -/
def read : Reader RawTransaction := do
  let sender ← Address.read
  let sequenceNumber ← Reader.integer .u64
  let payload ← Payload.read
  let maxGasAmount ← Reader.integer .u64
  let gasUnitPrice ← Reader.integer .u64
  let expiration ← Reader.integer .u64
  let chainId ← Reader.integer .u8
  pure {
    sender
    sequenceNumber := .int sequenceNumber
    payload
    maxGasAmount := .int maxGasAmount
    gasUnitPrice := .int gasUnitPrice
    expiration := .int expiration
    chainId := .int chainId }

end RawTransaction

/-- What a signer signs: a transaction, alone or with the other accounts that take part. While
the account that pays the fee is not known, it stands as the zero address. -/
inductive Signable where
  | plain (transaction : RawTransaction)
  | multiAgent (transaction : RawTransaction) (secondary : List Address)
  | feePayer (transaction : RawTransaction) (secondary : List Address) (payer : Option Address)
deriving Repr

namespace Signable

/-- The transaction itself. -/
def transaction : Signable → RawTransaction
  | plain raw | multiAgent raw _ | feePayer raw _ _ => raw

/-- The addresses of the secondary signers. -/
def secondary : Signable → List Address
  | plain _ => []
  | multiAgent _ others | feePayer _ others _ => others

/-- The address of a fee payer as it is written. -/
def payerAddress (payer : Option Address) : Address :=
  payer.getD .zero

/-- Whether both are of one form and all parts are equal; an unknown fee payer equals the zero
address. -/
def same : Signable → Signable → Bool
  | plain left, plain right => left.same right
  | multiAgent left others, multiAgent right others' => left.same right && others == others'
  | feePayer left others payer, feePayer right others' payer' =>
      left.same right && others == others' && payerAddress payer == payerAddress payer'
  | _, _ => false

/-- The digest in front of a plain transaction. -/
def plainPrefix : Bytes :=
  Sha3.hash (Emission.textOctets "APTOS::RawTransaction")

/-- The digest in front of a transaction with other accounts. -/
def extendedPrefix : Bytes :=
  Sha3.hash (Emission.textOctets "APTOS::RawTransactionWithData")

/-- The digest in front of the wire form in the signing message. -/
def prehash : Signable → Bytes
  | plain _ => plainPrefix
  | multiAgent .. | feePayer .. => extendedPrefix

/-- Writes the transaction, or the number of the form, the transaction and the addresses of the
other accounts. -/
def write : Signable → Emission
  | plain raw => raw.write
  | multiAgent raw others =>
      .integer .u8 0 ++ raw.write ++ .sequence (others.map Address.write)
  | feePayer raw others payer =>
      .integer .u8 1 ++ raw.write ++ .sequence (others.map Address.write) ++
        (payerAddress payer).write

/-- Reads a transaction with other accounts. -/
def readExtended : Reader Signable := do
  let form ← Reader.octet
  if form = 0 then do
    let raw ← RawTransaction.read
    let others ← Reader.sequence Address.read
    pure (multiAgent raw others)
  else if form = 1 then do
    let raw ← RawTransaction.read
    let others ← Reader.sequence Address.read
    let payer ← Address.read
    pure (feePayer raw others (some payer))
  else throw (.codec (.unknownVariant .transactionWithData form.toNat))

/-- The octets that are signed. -/
def signingMessage (signable : Signable) : Except Error Bytes := do
  let octets ← signable.write.result
  .ok (signable.prehash ++ octets)

end Signable

end MoveClient
