import MoveClient.Key.Scheme
import MoveClient.Value

/-!
What can go wrong.

Every failure is a cause with the data that its message names. The causes are grouped by family:
wire data, ranges, parsing of each kind of text, key material, what is not supported, and what a
node answers. The last constructors of `Error` are failures without a message: a value or an
answer that has the wrong kind, lacks a part or has no octets.
-/

namespace MoveClient

/-- The enumerations on the wire whose variant number can be unknown. -/
inductive VariantFamily where
  | typeTag
  | transactionAuthenticator
  | accountAuthenticator
  | anyPublicKey
  | anySignature
  | transactionWithData
  | payload
  | scriptArgument
  | multisigPayload
  | executable
  | extraConfig
  | innerPayload
deriving DecidableEq, Repr

/-- Wire data that cannot be read, or a value that has no wire form. -/
inductive CodecError where
  | endOfInput (requested found : Nat)
  | invalidBool (octet : Nat)
  | invalidOptionTag (tag : Nat)
  | invalidText
  | paddedNumber
  | numberTooLarge (number : Nat)
  | numberTooLong
  | trailingBytes (count : Nat) (type : String)
  | unknownVariant (family : VariantFamily) (variant : Nat)
  | noWireForm (tag : TypeTag)
  | signerCountMismatch (addresses authenticators : Nat)
deriving Repr

/-- The forms an integer can be written in. -/
inductive IntegerForm where
  | fixed (type : IntegerType)
  | uleb128
deriving DecidableEq, Repr

/-- A value outside the range of the form it is to be written in. -/
inductive RangeError where
  | notBool (value : Value)
  | notEncodable (value : Value) (form : IntegerForm)
  | addressLength (found : Nat)
  | authenticationKeyLength
  | unboundTypeParameter (index given : Nat)
  | negativeExpiration (seconds : Value)
  | noWorkers (workers : Int)
deriving Repr

/-- Why a text is no address. -/
inductive AddressTextError where
  | tooShort
  | tooLong
  | missingMarker
  | notSpecial
  | paddedSpecial
  | invalidHex (text : String)
  | brokenHex (text : BrokenText)
deriving DecidableEq, Repr

/-- Why a text is no type. -/
inductive TypeTextFault where
  | empty
  | unmatchedClose
  | unexpectedComma
  | trailingCharacters
  | unexpectedEnd
  | mutableReference
  | unexpectedBracket (bracket : Char)
  | unexpectedCharacter (c : Char)
  | takesNoParameters (token : String)
  | vectorWithoutParameter
  | vectorParameterCount (count : Nat)
  | genericNotAllowed
  | unknownType (token : String)
  | addressWithoutMarker
  | invalidAddress (cause : AddressTextError)
  | unmatchedOpen
  | emptyParameterList
  | trailingComma
  | expectedSeparator
  | expectedIdentifier
  | identifierStartsWithDigit (token : String)
  | expectedColons
  | notStruct
deriving DecidableEq, Repr

/-- A text that is no type: the fault, where it was noticed, and the whole text. -/
structure TypeTextError where
  fault : TypeTextFault
  position : Option Nat
  input : String
deriving DecidableEq, Repr

/-- Text or values that cannot be read as what they should be. -/
inductive ParseError where
  | integerFromBool (expected : String)
  | invalidInteger (expected : String) (text : String)
  | brokenInteger (expected : String) (text : BrokenText)
  | integerFromOther (expected kind : String)
  | notBool (value : Value)
  | notAddress (kind : String)
  | nullVector (element : TypeTag)
  | notList (element : TypeTag) (kind : String)
  | notText (tag : TypeTag) (kind : String)
  | invalidHexArgument (text : String)
  | brokenHexArgument (text : BrokenText)
  | invalidHexKey (text : String)
  | brokenHexKey (text : BrokenText)
  | unknownKeyScheme (name : String)
  | notPrefixedKey
  | invalidModule (text : String)
  | functionNotFound (function : String)
  | typeArgumentCount (module function : String) (expected given : Nat)
  | argumentCount (module function : String) (expected given : Nat)
  | unknownOptions (names : List String)
  | unknownNetwork (name : String)
deriving Repr

/-- Key material that has the wrong form. -/
inductive KeyFormatError where
  | length (scheme : KeyScheme) (part : KeyPart) (found : Nat)
  | notOnCurve (curve : Curve)
  | scalarOutOfRange (curve : Curve)
  | keyCount (least : Nat)
  | threshold (keys : Nat)
  | multiKeyLength (found : Nat)
  | multiSignatureLength
  | signerIndex (index : Int)
  | duplicateEd25519Signer
  | duplicateSigner (index : Int)
  | bitmapLength (found : Nat)
  | bitmapCount (marked signatures : Nat)
deriving DecidableEq, Repr

/-- Key material that the ledger knows and that cannot be made here. -/
inductive Placeholder where
  | keylessKey
  | federatedKeylessKey
  | keylessSignature
  | webAuthnSignature
deriving DecidableEq, Repr

/-- What exists on the ledger but is not offered here, or was withdrawn. -/
inductive UnsupportedError where
  | signerArgument
  | argumentType (tag : TypeTag)
  | slhDsaVerification
  | placeholder (what : Placeholder)
  | notWrappableKey (kind : String)
  | notWrappableSignature (kind : String)
  | bareSecp256r1Signature
  | simulation (kind : String)
  | moduleBundle
  | needsSigner (kind : String)
  | unknownKind (kind : Value)
  | noEndpoint (network endpoint : String)
  | custom (text : String)
deriving Repr

/-- A refusal by a node, with the body and headers of its answer. -/
structure ApiError where
  message : String
  status : Int
  body : String
  headers : List (String × String)
deriving DecidableEq, Repr

/-- Everything that can go wrong. -/
inductive Error where
  | codec (cause : CodecError)
  | range (cause : RangeError)
  | addressText (cause : AddressTextError)
  | typeText (cause : TypeTextError)
  | parse (cause : ParseError)
  | keyFormat (cause : KeyFormatError)
  | unsupported (cause : UnsupportedError)
  | channelClosed
  | api (cause : ApiError)
  | accountNotFound (address : String)
  | resourceNotFound (resource : String)
  | transactionTimeout (hash : String) (timeout : Value)
  | transactionFailed (hash : String) (vmStatus : Value)
  | wrongKind
  | missingField
  | emptyAnswer
  | missingItem
  | halfCharacter
  | invalidNumber
  | numberTooLarge
  | numberTooLong
  | notListed
  | malformedJson
  | alreadyStarted
  | clientClosed
  | noSecondarySigners
  | endlessType
deriving Repr

/-- What every use of a placeholder gives: it can be neither made nor read nor asked anything. -/
def Placeholder.refuse {α : Type} (what : Placeholder) : Except Error α :=
  .error (.unsupported (.placeholder what))

theorem Error.ok_bind
    {ε α β : Type}
    (value : α)
    (next : α → Except ε β) :
    (Except.ok value >>= next) = next value :=
  rfl

/-- What follows a computation gives a result exactly where the computation gives a value and what
follows gives the result for it. -/
theorem Error.bind_eq_ok_iff
    {ε α β : Type}
    {first : Except ε α}
    {next : α → Except ε β}
    {result : β} :
    (first >>= next) = .ok result ↔ ∃ value, first = .ok value ∧ next value = .ok result := by
  cases first with
  | error error =>
      apply iff_of_false nofun
      intro ⟨_, firstEq, _⟩
      cases firstEq
  | ok value =>
      apply Iff.intro
      · intro resultEq
        exact ⟨value, rfl, resultEq⟩
      · intro ⟨_, firstEq, resultEq⟩
        cases firstEq
        exact resultEq

/-- A computation fails where its first part does or where what follows does. -/
theorem Error.bind_eq_error_iff
    {ε α β : Type}
    {first : Except ε α}
    {next : α → Except ε β}
    {error : ε} :
    (first >>= next) = .error error ↔
      first = .error error ∨ ∃ value, first = .ok value ∧ next value = .error error := by
  cases first with
  | error cause => simp [bind, Except.bind]
  | ok value => simp [bind, Except.bind]

/-- What follows a computation matters at the value that the computation gives. -/
theorem Error.bind_congr
    {ε α β : Type}
    {first : Except ε α}
    {next other : α → Except ε β}
    (same : ∀ value, first = .ok value → next value = other value) :
    (first >>= next) = (first >>= other) := by
  cases first with
  | error cause => rfl
  | ok value => exact same value rfl

end MoveClient
