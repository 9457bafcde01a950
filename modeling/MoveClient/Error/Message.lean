import MoveClient.Error
import MoveClient.Value.Printed

/-!
The wording of failures.

Each family of causes has a function `message`; `Error.message` gives the text of any failure,
which is empty for those without one.
-/

namespace MoveClient

/-- The family's name in messages, with the separator before the number. -/
def VariantFamily.label : VariantFamily → String
  | .typeTag => "TypeTag variant: "
  | .transactionAuthenticator => "transaction authenticator variant: "
  | .accountAuthenticator => "account authenticator variant: "
  | .anyPublicKey => "AnyPublicKey variant: "
  | .anySignature => "AnySignature variant: "
  | .transactionWithData => "RawTransactionWithData variant: "
  | .payload => "transaction payload variant: "
  | .scriptArgument => "ScriptArgument variant "
  | .multisigPayload => "multisig payload variant: "
  | .executable => "transaction executable variant: "
  | .extraConfig => "transaction extra config variant: "
  | .innerPayload => "transaction inner payload variant: "

def CodecError.message : CodecError → String
  | .endOfInput requested found =>
      "Unexpected end of input. Requested: " ++ toString requested ++ ", found: " ++ toString found
  | .invalidBool octet => "invalid bool: " ++ toString octet
  | .invalidOptionTag tag => "invalid option length: " ++ toString tag
  | .invalidText => "invalid utf-8 string"
  | .paddedNumber => "non-canonical uleb128 encoding"
  | .numberTooLarge number => "uleb128 value " ++ toString number ++ " overflows u32"
  | .numberTooLong => "uleb128 value overflows u32"
  | .trailingBytes count type => toString count ++ " trailing bytes after " ++ type
  | .unknownVariant family variant => "Invalid " ++ family.label ++ toString variant
  | .noWireForm tag => tag.text ++ " has no wire encoding"
  | .signerCountMismatch addresses authenticators =>
      toString addresses ++ " secondary signer addresses but " ++ toString authenticators ++
        " authenticators"

def IntegerForm.name : IntegerForm → String
  | .fixed type => type.name
  | .uleb128 => "uleb128"

def RangeError.message : RangeError → String
  | .notBool value => "Cannot encode " ++ value.quoted ++ " as bool"
  | .notEncodable value form => "Cannot encode " ++ value.quoted ++ " into " ++ form.name
  | .addressLength found => "Expected address of length 32, got " ++ toString found
  | .authenticationKeyLength => "Expected authentication key of length 32"
  | .unboundTypeParameter index given =>
      "Type parameter T" ++ toString index ++ " is not bound, " ++ toString given ++ " given"
  | .negativeExpiration seconds => "expiration_seconds must be >= 0, got " ++ seconds.shown
  | .noWorkers workers => "workers must be at least 1, got " ++ toString workers

def AddressTextError.message : AddressTextError → String
  | .tooShort =>
      "Hex string is too short, must be 1 to 64 chars long, excluding the leading 0x."
  | .tooLong => "Hex string is too long, must be 1 to 64 chars long, excluding the leading 0x."
  | .missingMarker => "Hex string must start with a leading 0x."
  | .notSpecial =>
      "The given hex string is not a special address, it must be represented as 0x + 64 chars."
  | .paddedSpecial =>
      "The given hex string is a special address not in LONG form, it must be 0x0 to 0xf " ++
        "without padding zeroes."
  | .invalidHex text => "Invalid hex in address: " ++ Quoted.text text
  | .brokenHex text => "Invalid hex in address: " ++ text.quoted

def TypeTextFault.message : TypeTextFault → String
  | .empty => "Empty type tag"
  | .unmatchedClose => "Unmatched '>'"
  | .unexpectedComma => "Unexpected ','"
  | .trailingCharacters => "Unexpected trailing characters"
  | .unexpectedEnd => "Unexpected end of type tag"
  | .mutableReference => "Mutable references are not supported"
  | .unexpectedBracket bracket => "Unexpected '" ++ bracket.toString ++ "'"
  | .unexpectedCharacter c => "Unexpected character " ++ Quoted.text c.toString
  | .takesNoParameters token => token ++ " takes no type parameters"
  | .vectorWithoutParameter => "vector requires exactly one type parameter"
  | .vectorParameterCount count =>
      "vector requires exactly one type parameter, got " ++ toString count
  | .genericNotAllowed => "Generic type parameters are not allowed here"
  | .unknownType token => "Unknown type " ++ Quoted.text token
  | .addressWithoutMarker => "Struct address must start with 0x"
  | .invalidAddress cause => "Invalid address (" ++ cause.message ++ ")"
  | .unmatchedOpen => "Unmatched '<'"
  | .emptyParameterList => "Empty type parameter list"
  | .trailingComma => "Trailing ','"
  | .expectedSeparator => "Expected ',' or '>'"
  | .expectedIdentifier => "Expected an identifier"
  | .identifierStartsWithDigit token => "Identifier " ++ Quoted.text token ++ " starts with a digit"
  | .expectedColons => "Expected '::'"
  | .notStruct => "Expected a struct type"

def TypeTextError.message (error : TypeTextError) : String :=
  match error.position with
  | some position =>
      error.fault.message ++ " at position " ++ toString position ++ ": '" ++ error.input ++ "'"
  | none => error.fault.message ++ ": '" ++ error.input ++ "'"

def ParseError.message : ParseError → String
  | .integerFromBool expected => "Expected " ++ expected ++ ", got bool"
  | .invalidInteger expected text => "Invalid " ++ expected ++ ": " ++ Quoted.text text
  | .brokenInteger expected text => "Invalid " ++ expected ++ ": " ++ text.quoted
  | .integerFromOther expected kind => "Expected " ++ expected ++ ", got " ++ kind
  | .notBool value => "Expected bool, got " ++ value.quoted
  | .notAddress kind => "Expected an address, got " ++ kind
  | .nullVector element => "None is not a valid vector<" ++ element.text ++ ">"
  | .notList element kind => "Expected a list for vector<" ++ element.text ++ ">, got " ++ kind
  | .notText tag kind => "Expected str for " ++ tag.text ++ ", got " ++ kind
  | .invalidHexArgument text => "Invalid hex string " ++ Quoted.text text
  | .brokenHexArgument text => "Invalid hex string " ++ text.quoted
  | .invalidHexKey text => "Invalid hex string: " ++ Quoted.text text
  | .brokenHexKey text => "Invalid hex string: " ++ text.quoted
  | .unknownKeyScheme name => "Unknown private key type: " ++ name
  | .notPrefixedKey => "Invalid HexString input. Must be AIP-80 compliant string."
  | .invalidModule text => "Invalid module id: " ++ Quoted.text text
  | .functionNotFound function => "Function " ++ function ++ " not found in module ABI"
  | .typeArgumentCount module function expected given =>
      module ++ "::" ++ function ++ " expects " ++ toString expected ++ " type arguments, got " ++
        toString given
  | .argumentCount module function expected given =>
      module ++ "::" ++ function ++ " expects " ++ toString expected ++ " arguments, got " ++
        toString given
  | .unknownOptions names => "Unknown transaction options: " ++ Value.joined names
  | .unknownNetwork name =>
      "Unknown network " ++ Quoted.text name ++
        ", expected one of localnet, devnet, testnet, mainnet"

/-- The curve's name in messages. -/
def Curve.label : Curve → String
  | .secp256k1 => "Secp256k1"
  | .secp256r1 => "Secp256r1"

/-- The scheme's name in messages. -/
def KeyScheme.label : KeyScheme → String
  | .ed25519 => "Ed25519"
  | .ecdsa curve => curve.label
  | .slhDsa => "SLH-DSA"

/-- The part's name in messages. -/
def KeyPart.label : KeyPart → String
  | .privateKey => "private key"
  | .publicKey => "public key"
  | .signature => "signature"

/-- The length that a part of key material has to have, in words. -/
def KeyScheme.expectedLength : KeyScheme → KeyPart → String
  | .slhDsa, .signature => "7856"
  | _, .signature => "64"
  | .ecdsa _, .publicKey => "64 or 65"
  | _, _ => "32"

def KeyFormatError.message : KeyFormatError → String
  | .length scheme part found =>
      let subject := scheme.label ++ " " ++ part.label ++ " must be " ++
        scheme.expectedLength part ++ " bytes"
      match scheme, part with
      | .ecdsa _, .publicKey => subject
      | _, _ => subject ++ ", got " ++ toString found
  | .notOnCurve curve => "Invalid " ++ curve.label ++ " public key"
  | .scalarOutOfRange curve => "Invalid " ++ curve.label ++ " private key"
  | .keyCount least => "Must have between " ++ toString least ++ " and 32 keys."
  | .threshold keys => "Threshold must be between 1 and " ++ toString keys ++ "."
  | .multiKeyLength found => "MultiEd25519 public key has invalid length " ++ toString found
  | .multiSignatureLength => "MultiSignature length is invalid"
  | .signerIndex index => "Signer index " ++ toString index ++ " exceeds the bitmap"
  | .duplicateEd25519Signer => "Duplicate signer index in MultiEd25519 signature"
  | .duplicateSigner index => "Duplicate signer index " ++ toString index
  | .bitmapLength found => "MultiKey bitmap is " ++ toString found ++ " bytes long"
  | .bitmapCount marked signatures =>
      "Bitmap marks " ++ toString marked ++ " signers but " ++ toString signatures ++
        " signatures are present"

/-- The placeholder's name in messages. -/
def Placeholder.label : Placeholder → String
  | .keylessKey => "Keyless public key"
  | .federatedKeylessKey => "Federated keyless public key"
  | .keylessSignature => "Keyless signature"
  | .webAuthnSignature => "WebAuthn signature"

def UnsupportedError.message : UnsupportedError → String
  | .signerArgument => "signer arguments are supplied by the transaction"
  | .argumentType tag => "Cannot marshal arguments of type " ++ tag.text
  | .slhDsaVerification => "SLH-DSA signature verification is not available"
  | .placeholder what => what.label ++ " is not supported"
  | .notWrappableKey kind => "Cannot wrap " ++ kind ++ " in a SingleKey"
  | .notWrappableSignature kind => "Cannot wrap " ++ kind ++ " in an AnySignature"
  | .bareSecp256r1Signature =>
      "Secp256r1 signatures are only accepted inside a WebAuthn assertion"
  | .simulation kind => "Cannot simulate a signature for " ++ kind
  | .moduleBundle => "ModuleBundle payloads are deprecated"
  | .needsSigner kind => kind ++ " transactions need a sign_fn to collect every signature"
  | .unknownKind kind => "Unknown transaction kind " ++ kind.quoted
  | .noEndpoint network endpoint => network ++ " has no " ++ endpoint
  | .custom text => text

/-- The text of a failure; empty for those that carry none. -/
def Error.message : Error → String
  | .codec cause => cause.message
  | .range cause => cause.message
  | .addressText cause => cause.message
  | .typeText cause => cause.message
  | .parse cause => cause.message
  | .keyFormat cause => cause.message
  | .unsupported cause => cause.message
  | .channelClosed => "Pipeline is closed"
  | .api cause => cause.message
  | .accountNotFound address => address
  | .resourceNotFound resource => resource
  | .transactionTimeout hash timeout =>
      "transaction " ++ hash ++ " timed out after " ++ timeout.shown ++ "s"
  | .transactionFailed hash vmStatus => "transaction " ++ hash ++ " failed: " ++ vmStatus.shown
  | _ => ""

end MoveClient
