import MoveClient.Account
import MoveClient.Description.Transaction

/-!
Objects with a wire form.

Where the kind of an object is only known when the program runs, it is one of the objects here.
Objects of different types are unequal. The parts of an object are named like the fields in its
description.
-/

namespace MoveClient

/-- The name of the type of a primitive type without the number of its kind. -/
def PrimitiveType.contentType : PrimitiveType → String
  | .bool => "BoolTag"
  | .address => "AccountAddressTag"
  | .signer => "SignerTag"
  | .integer kind => (if kind.signed then "I" else "U") ++ toString (8 * kind.octets) ++ "Tag"

/-- The content of an authenticator or type without the number of its kind is a type of its
own. -/
inductive WireObject where
  | absent
  | address (a : Address)
  | authenticationKey (key : AuthenticationKey)
  | privateKey (key : PrivateKey)
  | publicKey (key : PublicKey)
  | signature (signature : Signature)
  | type (tag : TypeTag)
  | typeContent (tag : TypeTag)
  | structType (tag : StructTag)
  | moduleId (module : ModuleId)
  | script (script : Script)
  | scriptArgument (argument : ScriptArgument)
  | entryFunction (call : EntryFunction)
  | multisigCall (call : MultisigCall)
  | multisig (multisig : Multisig)
  | executable (executable : Executable)
  | extraConfig (config : ExtraConfig)
  | versionedPayload (payload : VersionedPayload)
  | payload (payload : Payload)
  | signable (signable : Signable)
  | proof (proof : AccountAuthenticator)
  | proofContent (proof : AccountAuthenticator)
  | authenticator (authenticator : Authenticator)
  | authenticatorContent (authenticator : Authenticator)
  | signed (signed : SignedTransaction)
  | challenge (challenge : RotationChallenge)
  | account (account : Account)
  | list (items : List WireObject)

namespace WireObject

instance : Inhabited WireObject := ⟨.absent⟩

/-- The name of a scheme in the names of types with a wire form. -/
def schemeLabel : KeyScheme → String
  | .slhDsa => "slh"
  | scheme => scheme.typeLabel

/-- The name of the object's type. -/
def typeName : WireObject → String
  | absent | list _ => ""
  | address _ => "AccountAddress"
  | authenticationKey _ => "AuthenticationKey"
  | privateKey key => schemeLabel key.scheme ++ ".PrivateKey"
  | publicKey (.bare key) => schemeLabel key.scheme ++ ".PublicKey"
  | publicKey (.wrapped _) => "any.PublicKey"
  | publicKey (.multiEd25519 _) => "ed25519.MultiPublicKey"
  | publicKey (.multiKey _) => "multi_key.PublicKey"
  | signature (.bare value) => schemeLabel value.scheme ++ ".Signature"
  | signature (.wrapped _) => "any.Signature"
  | signature (.multiEd25519 _) => "ed25519.MultiSignature"
  | signature (.multiKey _) => "multi_key.Signature"
  | type _ => "TypeTag"
  | typeContent (.primitive kind) => kind.contentType
  | typeContent (.vector _) => "VectorTag"
  | typeContent (.struct ..) | structType _ => "StructTag"
  | typeContent (.reference _) => "ReferenceTag"
  | typeContent (.generic _) => "GenericTag"
  | moduleId _ => "ModuleId"
  | script _ => "Script"
  | scriptArgument _ => "ScriptArgument"
  | entryFunction _ => "EntryFunction"
  | multisigCall _ => "MultisigTransactionPayload"
  | multisig _ => "Multisig"
  | executable _ => "TransactionExecutable"
  | extraConfig _ => "TransactionExtraConfig"
  | versionedPayload _ => "TransactionInnerPayload"
  | payload _ => "TransactionPayload"
  | signable (.plain _) => "RawTransaction"
  | signable _ => "RawTransactionWithData"
  | proof _ => "AccountAuthenticator"
  | proofContent content => content.contentType
  | authenticator _ => "Authenticator"
  | authenticatorContent content => content.contentType
  | signed _ => "SignedTransaction"
  | challenge _ => "RotationProofChallenge"
  | account _ => "Account"

/-- The object by its parts. -/
def describe : WireObject → Description
  | absent | list _ | account _ | challenge _ => .absent
  | address a => .address a
  | authenticationKey key => .text key.text
  | privateKey key => key.describe
  | publicKey key => key.describe
  | signature value => value.describe
  | type tag => .type tag
  | typeContent (.primitive kind) => .record kind.contentType []
  | typeContent (.vector element) => .record "VectorTag" [("value", .type element)]
  | typeContent tag => .type tag
  | structType tag => .text tag.text
  | moduleId module => module.describe
  | script code => code.describe
  | scriptArgument argument => argument.describe
  | entryFunction call => call.describe
  | multisigCall call => call.describe
  | multisig proposal => proposal.describe
  | executable content => content.describe
  | extraConfig config => config.describe
  | versionedPayload body => body.describe
  | payload content => content.describe
  | signable content => content.describe
  | proof content => content.describe
  | proofContent content => content.describeContent
  | authenticator content => content.describe
  | authenticatorContent content => content.describeContent
  | signed transaction => transaction.describe

/-- The printed form. -/
def text : WireObject → String
  | absent | list _ | extraConfig _ | challenge _ => ""
  | address a => a.text
  | authenticationKey key => key.text
  | privateKey key => key.text
  | publicKey key => key.text
  | signature value => value.text
  | type tag | typeContent tag => tag.text
  | structType tag => tag.text
  | moduleId module => module.text
  | script code => code.text
  | scriptArgument argument => argument.text
  | entryFunction call => call.text
  | multisigCall call => call.function.text
  | multisig proposal => proposal.text
  | executable content => content.text
  | versionedPayload body => body.text
  | payload content => content.text
  | signable content => content.transaction.text
  | proof content | proofContent content => content.text
  | authenticator content | authenticatorContent content => content.text
  | signed transaction => transaction.text
  | account owner => owner.text

/-- Writes the object. -/
def write : WireObject → Emission
  | absent | list _ | account _ => .complete []
  | address a => a.write
  | authenticationKey key => key.write
  | privateKey key => key.write
  | publicKey key => key.write
  | signature value => value.write
  | type tag => tag.write
  | typeContent (.vector element) => element.write
  | typeContent (.primitive _) => .complete []
  | typeContent _ => .fail .wrongKind
  | structType tag => tag.write
  | moduleId module => module.write
  | script code => code.write
  | scriptArgument argument => argument.write
  | entryFunction call => call.write
  | multisigCall call => call.write
  | multisig proposal => proposal.write
  | executable content => content.write
  | extraConfig config => config.write
  | versionedPayload body => body.write
  | payload content => content.write
  | signable content => content.write
  | proof content => content.write
  | proofContent content => content.writeParts
  | authenticator content => content.write
  | authenticatorContent content => content.writeParts
  | signed transaction => transaction.write
  | challenge content => content.write

/-- Whether two objects are of one type and equal. -/
def same : WireObject → WireObject → Bool
  | absent, absent => true
  | address left, address right => left == right
  | authenticationKey left, authenticationKey right => left == right
  | privateKey left, privateKey right => left == right
  | publicKey left, publicKey right => left == right
  | signature left, signature right => left == right
  | type left, type right | typeContent left, typeContent right => left == right
  | structType left, structType right => left == right
  | moduleId left, moduleId right => left == right
  | script left, script right => left.same right
  | scriptArgument left, scriptArgument right => left.same right
  | entryFunction left, entryFunction right => left == right
  | multisigCall left, multisigCall right => left == right
  | multisig left, multisig right => left == right
  | executable left, executable right => left.same right
  | extraConfig left, extraConfig right => left.same right
  | versionedPayload left, versionedPayload right => left.same right
  | payload left, payload right => left.same right
  | signable left, signable right => left.same right
  | proof left, proof right | proofContent left, proofContent right => left == right
  | authenticator left, authenticator right => left == right
  | authenticatorContent left, authenticatorContent right => left == right
  | signed left, signed right => left.same right
  | account left, account right => left == right
  | _, _ => false

/-- Whether objects of the type can be members of a set. -/
def isHashable : WireObject → Bool
  | address _ | authenticationKey _ | publicKey (.bare _) | type _ | challenge _ => true
  | _ => false

/-- What an executable runs. -/
def ofExecutable : Executable → WireObject
  | .script code => script code
  | .entryFunction call => entryFunction call
  | .empty => absent

/-- What a payload is without the number of its kind. -/
def ofPayload : Payload → WireObject
  | .script code => script code
  | .entryFunction call => entryFunction call
  | .multisig proposal => multisig proposal
  | .versioned body => versionedPayload body

/-- The proofs of a transaction without the number of their kind. -/
def ofAuthenticator : Authenticator → WireObject
  | .ed25519 key value => proofContent (.ed25519 key value)
  | .multiEd25519 key value => proofContent (.multiEd25519 key value)
  | content => authenticatorContent content

/-- The part of a name. -/
def part (name : String) : WireObject → WireObject
  | payload content => ofPayload content
  | versionedPayload body =>
      if name = "executable" then executable body.executable else extraConfig body.config
  | executable content => ofExecutable content
  | script code => list (code.arguments.map scriptArgument)
  | entryFunction call => moduleId call.module
  | multisig proposal =>
      match proposal.call with
      | some call => multisigCall call
      | none => absent
  | multisigCall call => entryFunction call.function
  | proof content => proofContent content
  | authenticator content => ofAuthenticator content
  | signed transaction =>
      if name = "transaction" then signable (.plain transaction.transaction)
      else authenticator transaction.authenticator
  | type (.struct owner module name arguments) => structType ⟨owner, module, name, arguments⟩
  | type tag => typeContent tag
  | _ => absent

/-- The item at a position of a list. -/
def itemAt (position : Nat) : WireObject → WireObject
  | list items => items[position]?.getD absent
  | _ => absent

end WireObject

end MoveClient
