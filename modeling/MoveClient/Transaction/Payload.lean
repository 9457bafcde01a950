import MoveClient.Hash.Sha3
import MoveClient.Transaction.EntryFunction
import MoveClient.Transaction.Script

/-!
What a transaction does.

A payload is a script, a call, the execution of a proposal of a multisig account, or the versioned
form. The versioned form wraps an executable together with the address of a multisig account and a
nonce; a transaction with a nonce is *orderless*.
-/

namespace MoveClient

/-- A call as owners of a multisig account propose it. -/
structure MultisigCall where
  function : EntryFunction
deriving DecidableEq, Repr

/-- The execution of a multisig account's proposal, with the call unless the ledger holds it. -/
structure Multisig where
  address : Address
  call : Option MultisigCall
deriving DecidableEq, Repr

/-- What the versioned form runs. -/
inductive Executable where
  | script (script : Script)
  | entryFunction (function : EntryFunction)
  | empty
deriving Repr

/-- What the versioned form adds to its executable. -/
structure ExtraConfig where
  multisigAddress : Option Address
  nonce : Option Value
deriving Repr

/-- The versioned form of a payload. -/
structure VersionedPayload where
  executable : Executable
  config : ExtraConfig
deriving Repr

/-- What a transaction does. -/
inductive Payload where
  | script (script : Script)
  | entryFunction (function : EntryFunction)
  | multisig (multisig : Multisig)
  | versioned (payload : VersionedPayload)
deriving Repr

namespace MultisigCall

/-- Writes the only kind of call and the call. -/
def write (call : MultisigCall) : Emission :=
  .length 0 ++ call.function.write

/-- Reads the only kind of call. -/
def read : Reader MultisigCall := do
  let variant ← Reader.length
  if variant = 0 then do
    let function ← EntryFunction.read
    pure ⟨function⟩
  else throw (.codec (.unknownVariant .multisigPayload variant))

/-- The digest that stands for the call in a proposal by hash. -/
def hash (call : MultisigCall) : Except Error Bytes :=
  call.write.result.map Sha3.hash

end MultisigCall

namespace Multisig

/-- The printed form. -/
def text (multisig : Multisig) : String :=
  let call := match multisig.call with
    | some call => call.function.text
    | none => "None"
  "Multisig(" ++ multisig.address.text ++ ", " ++ call ++ ")"

/-- Writes the address and the call, if there is one. -/
def write (multisig : Multisig) : Emission :=
  multisig.address.write ++ .option (multisig.call.map MultisigCall.write)

/-- Reads the address and the call, if there is one. -/
def read : Reader Multisig := do
  let address ← Address.read
  let call ← Reader.option MultisigCall.read
  pure { address, call }

end Multisig

namespace Executable

/-- Whether two executables are equal. -/
def same : Executable → Executable → Bool
  | script left, script right => left.same right
  | entryFunction left, entryFunction right => left == right
  | empty, empty => true
  | _, _ => false

/-- The number of the kind on the wire. -/
def variant : Executable → Nat
  | script _ => 0
  | entryFunction _ => 1
  | empty => 2

/-- The printed form. -/
def text : Executable → String
  | script code => code.text
  | entryFunction call => call.text
  | empty => "Empty"

/-- Writes the number of the kind and what is run. -/
def write : Executable → Emission
  | script code => .length 0 ++ code.write
  | entryFunction call => .length 1 ++ call.write
  | empty => .length 2

/-- Reads the number of the kind and what is run. -/
def read : Reader Executable := do
  match ← Reader.length with
  | 0 => script <$> Script.read
  | 1 => entryFunction <$> EntryFunction.read
  | 2 => pure empty
  | variant => throw (.codec (.unknownVariant .executable variant))

end Executable

/-- Whether two values that may be absent are equal. -/
def sameOption : Option Value → Option Value → Bool
  | none, none => true
  | some left, some right => left.same right
  | _, _ => false

namespace ExtraConfig

/-- Whether addresses and nonces are equal. -/
def same (left right : ExtraConfig) : Bool :=
  left.multisigAddress == right.multisigAddress && sameOption left.nonce right.nonce

/-- Writes the version, the address and the nonce; the nonce has to fit 64 bits. -/
def write (config : ExtraConfig) : Emission :=
  .length 0 ++ .option (config.multisigAddress.map Address.write) ++
    .option (config.nonce.map fun nonce => nonce.writeInteger (.fixed .u64))

/-- Reads the version, the address and the nonce. -/
def read : Reader ExtraConfig := do
  let version ← Reader.length
  if version = 0 then do
    let multisigAddress ← Reader.option Address.read
    let nonce ← Reader.option (Reader.integer .u64)
    pure { multisigAddress, nonce := nonce.map Value.int }
  else throw (.codec (.unknownVariant .extraConfig version))

end ExtraConfig

namespace VersionedPayload

/-- Whether executables and configurations are equal. -/
def same (left right : VersionedPayload) : Bool :=
  left.executable.same right.executable && left.config.same right.config

/-- The printed form: the executable and the nonce. -/
def text (payload : VersionedPayload) : String :=
  let nonce := match payload.config.nonce with
    | some nonce => nonce.shown
    | none => "None"
  payload.executable.text ++ " (nonce: " ++ nonce ++ ")"

/-- Writes the version, the executable and the configuration. -/
def write (payload : VersionedPayload) : Emission :=
  .length 0 ++ payload.executable.write ++ payload.config.write

/-- Reads the version, the executable and the configuration. -/
def read : Reader VersionedPayload := do
  let version ← Reader.length
  if version = 0 then do
    let executable ← Executable.read
    let config ← ExtraConfig.read
    pure { executable, config }
  else throw (.codec (.unknownVariant .innerPayload version))

end VersionedPayload

namespace Payload

/-- The versioned form of an executable with a nonce. -/
def orderless (executable : Executable) (nonce : Option Value)
    (multisigAddress : Option Address) : Payload :=
  .versioned ⟨executable, ⟨multisigAddress, nonce⟩⟩

/-- The nonce, which only the versioned form can have. -/
def nonce : Payload → Option Value
  | .versioned body => body.config.nonce
  | _ => none

/-- What the payload runs. -/
def executable : Payload → Executable
  | .script code => .script code
  | .entryFunction call => .entryFunction call
  | .multisig proposal =>
      match proposal.call with
      | some call => .entryFunction call.function
      | none => .empty
  | .versioned body => body.executable

/-- The multisig account that the payload acts for. -/
def multisigAddress : Payload → Option Address
  | .multisig proposal => some proposal.address
  | .versioned body => body.config.multisigAddress
  | _ => none

@[simp] theorem executable_script (code : Script) :
    (script code).executable = .script code := rfl

@[simp] theorem executable_entryFunction (call : EntryFunction) :
    (entryFunction call).executable = .entryFunction call := rfl

@[simp] theorem executable_multisig_some (account : Address) (call : MultisigCall) :
    (multisig ⟨account, some call⟩).executable = .entryFunction call.function := rfl

@[simp] theorem executable_multisig_none (account : Address) :
    (multisig ⟨account, none⟩).executable = .empty := rfl

@[simp] theorem executable_versioned (body : VersionedPayload) :
    (versioned body).executable = body.executable := rfl

@[simp] theorem multisigAddress_script (code : Script) :
    (script code).multisigAddress = none := rfl

@[simp] theorem multisigAddress_entryFunction (call : EntryFunction) :
    (entryFunction call).multisigAddress = none := rfl

@[simp] theorem multisigAddress_multisig (proposal : Multisig) :
    (multisig proposal).multisigAddress = some proposal.address := rfl

@[simp] theorem multisigAddress_versioned (body : VersionedPayload) :
    (versioned body).multisigAddress = body.config.multisigAddress := rfl

/-- The payload in the versioned form with a nonce; what it runs and the multisig account it acts
for are kept. -/
def makeOrderless (payload : Payload) (nonce : Option Value) : Payload :=
  orderless payload.executable nonce payload.multisigAddress

/-- Whether two payloads are equal. -/
def same : Payload → Payload → Bool
  | .script left, .script right => left.same right
  | .entryFunction left, .entryFunction right => left == right
  | .multisig left, .multisig right => left == right
  | .versioned left, .versioned right => left.same right
  | _, _ => false

/-- The number of the kind on the wire. -/
def variant : Payload → Nat
  | .script _ => 0
  | .entryFunction _ => 2
  | .multisig _ => 3
  | .versioned _ => 4

/-- The printed form. -/
def text : Payload → String
  | .script code => code.text
  | .entryFunction call => call.text
  | .multisig proposal => proposal.text
  | .versioned body => body.text

/-- Writes the number of the kind and the payload. -/
def write (payload : Payload) : Emission :=
  .length payload.variant ++
    match payload with
    | .script code => code.write
    | .entryFunction call => call.write
    | .multisig proposal => proposal.write
    | .versioned body => body.write

/-- Reads the number of the kind and the payload. Kind 1, the bundle of modules, was withdrawn. -/
def read : Reader Payload := do
  match ← Reader.length with
  | 0 => .script <$> Script.read
  | 1 => throw (.unsupported .moduleBundle)
  | 2 => .entryFunction <$> EntryFunction.read
  | 3 => .multisig <$> Multisig.read
  | 4 => .versioned <$> VersionedPayload.read
  | variant => throw (.codec (.unknownVariant .payload variant))

end Payload

end MoveClient
