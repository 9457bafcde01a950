import MoveClient.Description.Key
import MoveClient.Transaction.Builder
import MoveClient.Transaction.Signed

/-!
Descriptions of transactions and their parts.
-/

namespace MoveClient

namespace ModuleId

def describe (module : ModuleId) : Description :=
  .record "ModuleId" [("address", .address module.address), ("name", .text module.name)]

end ModuleId

namespace EntryFunction

def describe (call : EntryFunction) : Description :=
  .record "EntryFunction"
    [("module", call.module.describe), ("function", .text call.function),
      ("ty_args", .each .type call.typeArguments), ("args", .each .bytes call.arguments)]

end EntryFunction

namespace ScriptArgument

def describe (argument : ScriptArgument) : Description :=
  .record "ScriptArgument"
    [("variant", .number argument.kind.variant), ("value", .value argument.value)]

end ScriptArgument

namespace Script

def describe (script : Script) : Description :=
  .record "Script"
    [("code", .bytes script.code), ("ty_args", .each .type script.typeArguments),
      ("args", .each ScriptArgument.describe script.arguments)]

end Script

namespace MultisigCall

def describe (call : MultisigCall) : Description :=
  .record "MultisigTransactionPayload"
    [("payload_variant", .number 0), ("transaction_payload", call.function.describe)]

end MultisigCall

namespace Multisig

def describe (multisig : Multisig) : Description :=
  .record "Multisig"
    [("multisig_address", .address multisig.address),
      ("transaction_payload", .option MultisigCall.describe multisig.call)]

end Multisig

namespace Executable

/-- The description of what is run. -/
def describeContent : Executable → Description
  | script code => code.describe
  | entryFunction call => call.describe
  | empty => .absent

def describe (executable : Executable) : Description :=
  .record "TransactionExecutable"
    [("variant", .number executable.variant), ("value", executable.describeContent)]

end Executable

namespace ExtraConfig

def describe (config : ExtraConfig) : Description :=
  .record "TransactionExtraConfig"
    [("multisig_address", .option .address config.multisigAddress),
      ("replay_protection_nonce", .option .value config.nonce)]

end ExtraConfig

namespace VersionedPayload

def describe (payload : VersionedPayload) : Description :=
  .record "TransactionInnerPayload"
    [("executable", payload.executable.describe), ("extra_config", payload.config.describe)]

end VersionedPayload

namespace Payload

/-- The description of the payload without the number of its kind. -/
def describeContent : Payload → Description
  | .script code => code.describe
  | .entryFunction call => call.describe
  | .multisig proposal => proposal.describe
  | .versioned body => body.describe

def describe (payload : Payload) : Description :=
  .record "TransactionPayload"
    [("variant", .number payload.variant), ("value", payload.describeContent)]

end Payload

namespace RawTransaction

def describe (transaction : RawTransaction) : Description :=
  .record "RawTransaction"
    [("sender", .address transaction.sender), ("sequence_number", .value transaction.sequenceNumber),
      ("payload", transaction.payload.describe), ("max_gas_amount", .value transaction.maxGasAmount),
      ("gas_unit_price", .value transaction.gasUnitPrice),
      ("expiration_timestamps_secs", .value transaction.expiration),
      ("chain_id", .value transaction.chainId)]

end RawTransaction

namespace Signable

def describe : Signable → Description
  | plain raw => raw.describe
  | multiAgent raw others =>
      .record "MultiAgentRawTransaction"
        [("raw_transaction", raw.describe), ("secondary_signers", .each .address others)]
  | feePayer raw others payer =>
      .record "FeePayerRawTransaction"
        [("raw_transaction", raw.describe), ("secondary_signers", .each .address others),
          ("fee_payer", .option .address payer)]

end Signable

namespace AccountAuthenticator

/-- The name of the type of the proof without the number of its kind. -/
def contentType : AccountAuthenticator → String
  | ed25519 .. => "Ed25519Authenticator"
  | multiEd25519 .. => "MultiEd25519Authenticator"
  | singleKey .. => "SingleKeyAuthenticator"
  | multiKey .. => "MultiKeyAuthenticator"
  | absent => "NoAccountAuthenticator"

/-- The description of key and signature. -/
def describeContent (proof : AccountAuthenticator) : Description :=
  .record proof.contentType
    (match proof.publicKey?, proof.signature? with
    | some key, some signature =>
        [("public_key", key.describe), ("signature", signature.describe)]
    | _, _ => [])

def describe (proof : AccountAuthenticator) : Description :=
  .record "AccountAuthenticator"
    [("variant", .number proof.variant), ("authenticator", proof.describeContent)]

end AccountAuthenticator

namespace Authenticator

/-- The name of the type of the proofs without the number of their kind. -/
def contentType : Authenticator → String
  | multiAgent .. => "MultiAgentAuthenticator"
  | feePayer .. => "FeePayerAuthenticator"
  | singleSender _ => "SingleSenderAuthenticator"
  | authenticator => authenticator.sender.contentType

/-- An account with its proof. -/
def describeSigner (signer : Address × AccountAuthenticator) : Description :=
  .list [.address signer.1, signer.2.describe]

/-- The description of the proofs. -/
def describeContent : Authenticator → Description
  | multiAgent proof others =>
      .record "MultiAgentAuthenticator"
        [("sender", proof.describe), ("secondary_signers", .each describeSigner others)]
  | feePayer proof others payer =>
      .record "FeePayerAuthenticator"
        [("sender", proof.describe), ("secondary_signers", .each describeSigner others),
          ("fee_payer", describeSigner payer)]
  | singleSender proof => .record "SingleSenderAuthenticator" [("sender", proof.describe)]
  | authenticator => authenticator.sender.describeContent

def describe (authenticator : Authenticator) : Description :=
  .record "Authenticator"
    [("variant", .number authenticator.variant), ("authenticator", authenticator.describeContent)]

end Authenticator

namespace SignedTransaction

def describe (signed : SignedTransaction) : Description :=
  .record "SignedTransaction"
    [("transaction", signed.transaction.describe), ("authenticator", signed.authenticator.describe)]

end SignedTransaction

def AdditionalSigners.describe : AdditionalSigners → Description
  | listed addresses => .each .address addresses
  | unlisted value _ => .value value

namespace TransactionOptions

def describe (options : TransactionOptions) : Description :=
  .record "TransactionOptions"
    [("max_gas_amount", .value options.maxGasAmount), ("gas_unit_price", .value options.gasUnitPrice),
      ("expiration_seconds", .value options.expirationSeconds),
      ("sequence_number", .option .value options.sequenceNumber),
      ("chain_id", .option .value options.chainId), ("fee_payer", .option .address options.feePayer),
      ("additional_signers", options.additionalSigners.describe),
      ("replay_protection_nonce", .option .value options.nonce)]

end TransactionOptions

end MoveClient
