import MoveClient.Account
import MoveClient.Account.Cosigning
import MoveClient.Address
import MoveClient.Address.Text
import MoveClient.Argument.Coercion
import MoveClient.Argument.Marshal
import MoveClient.Bytes
import MoveClient.Bytes.Hex
import MoveClient.Codec.Emission
import MoveClient.Codec.Reader
import MoveClient.Curve.Ecdsa
import MoveClient.Curve.Ed25519
import MoveClient.Curve.Edwards
import MoveClient.Curve.Modular
import MoveClient.Curve.Weierstrass
import MoveClient.Description
import MoveClient.Description.Key
import MoveClient.Description.Report
import MoveClient.Description.Transaction
import MoveClient.Error
import MoveClient.Error.Api
import MoveClient.Error.Message
import MoveClient.Error.Report
import MoveClient.Error.Showable
import MoveClient.Hash.Hmac
import MoveClient.Hash.Sha3
import MoveClient.Hash.Sha512
import MoveClient.Http
import MoveClient.Http.Report
import MoveClient.Http.Script
import MoveClient.IntegerType
import MoveClient.Key.Authentication
import MoveClient.Key.Generation
import MoveClient.Key.MultiEd25519
import MoveClient.Key.MultiKey
import MoveClient.Key.Octets
import MoveClient.Key.Public
import MoveClient.Key.Scheme
import MoveClient.Key.Signers
import MoveClient.Key.Single
import MoveClient.Key.Suite
import MoveClient.Key.Text
import MoveClient.Key.Trial
import MoveClient.Network
import MoveClient.Node.Accounts
import MoveClient.Node.Client
import MoveClient.Node.Command
import MoveClient.Node.Faucet
import MoveClient.Node.Identification
import MoveClient.Node.Indexer
import MoveClient.Node.Transactions
import MoveClient.Node.Wait
import MoveClient.Number.Binary64
import MoveClient.Number.Shortest
import MoveClient.Number.Written
import MoveClient.Pipeline
import MoveClient.Pipeline.Builder
import MoveClient.Pipeline.Flow
import MoveClient.Pipeline.Sponsor
import MoveClient.Proofs.Account.Cosigning
import MoveClient.Proofs.Account.Rotation
import MoveClient.Proofs.Account.Storage
import MoveClient.Proofs.Address.Forms
import MoveClient.Proofs.Address.Spelling
import MoveClient.Proofs.Argument.Encoders
import MoveClient.Proofs.Argument.Marshalling
import MoveClient.Proofs.Argument.Recursion
import MoveClient.Proofs.Argument.Resolution
import MoveClient.Proofs.Argument.Spelling
import MoveClient.Proofs.Key.Acceptance
import MoveClient.Proofs.Key.Bitmaps
import MoveClient.Proofs.Key.Construction
import MoveClient.Proofs.Key.Decoding
import MoveClient.Proofs.Key.Layouts
import MoveClient.Proofs.Key.LowerHalf
import MoveClient.Proofs.Key.Members
import MoveClient.Proofs.Key.Preimages
import MoveClient.Proofs.Key.SharedForms
import MoveClient.Proofs.Key.Signers
import MoveClient.Proofs.Key.Spelling
import MoveClient.Proofs.Key.Text
import MoveClient.Proofs.Key.Threshold
import MoveClient.Proofs.Key.WireForm
import MoveClient.Proofs.Node.Programs
import MoveClient.Proofs.Node.Waiting
import MoveClient.Proofs.Pipeline.Changes
import MoveClient.Proofs.Pipeline.Course
import MoveClient.Proofs.Pipeline.Entries
import MoveClient.Proofs.Pipeline.FinishMarks
import MoveClient.Proofs.Pipeline.Numbering
import MoveClient.Proofs.Pipeline.Outcomes
import MoveClient.Proofs.Pipeline.Schedule
import MoveClient.Proofs.Sequence.Calls
import MoveClient.Proofs.Sequence.Readings
import MoveClient.Proofs.Sequence.Reissue
import MoveClient.Proofs.Sequence.Seeding
import MoveClient.Proofs.Sequence.Window
import MoveClient.Proofs.Text.Numeral
import MoveClient.Proofs.Transaction.Authenticators
import MoveClient.Proofs.Transaction.Building
import MoveClient.Proofs.Transaction.Decoding
import MoveClient.Proofs.Transaction.Interface
import MoveClient.Proofs.Transaction.Orderless
import MoveClient.Proofs.Transaction.Proposals
import MoveClient.Proofs.Transaction.Reading
import MoveClient.Proofs.Transaction.RoundTrip
import MoveClient.Proofs.Transaction.SignedRoundTrip
import MoveClient.Proofs.Transaction.SigningMessage
import MoveClient.Proofs.Transaction.Simulation
import MoveClient.Proofs.Transaction.Tampering
import MoveClient.Proofs.Transaction.Verification
import MoveClient.Proofs.Transaction.WireForm
import MoveClient.Proofs.TypeTag.Acceptance
import MoveClient.Proofs.TypeTag.Failures
import MoveClient.Proofs.TypeTag.Grammar
import MoveClient.Proofs.TypeTag.Printing
import MoveClient.Proofs.TypeTag.Reading
import MoveClient.Proofs.TypeTag.References
import MoveClient.Proofs.TypeTag.Tokens
import MoveClient.Proofs.Value.JsonText
import MoveClient.Proofs.Wire.Canonical
import MoveClient.Proofs.Wire.Contents
import MoveClient.Proofs.Wire.Decoders
import MoveClient.Proofs.Wire.Domain
import MoveClient.Proofs.Wire.Forms
import MoveClient.Proofs.Wire.Interrupted
import MoveClient.Proofs.Wire.Lengths
import MoveClient.Proofs.Wire.MapOctets
import MoveClient.Proofs.Wire.Maps
import MoveClient.Proofs.Wire.Nesting
import MoveClient.Proofs.Wire.Parts
import MoveClient.Proofs.Wire.Reading
import MoveClient.Proofs.Wire.Spelling
import MoveClient.Proofs.Wire.TypeTag
import MoveClient.Proofs.Wire.Value
import MoveClient.Proofs.WireObject.Prefixes
import MoveClient.Sequence.Allocator
import MoveClient.Sequence.Counter
import MoveClient.Sequence.ScriptedLedger
import MoveClient.Sequence.Session
import MoveClient.Text.Blank
import MoveClient.Text.Broken
import MoveClient.Text.DecimalDigit
import MoveClient.Text.Numeral
import MoveClient.Text.Printable
import MoveClient.Text.Quoted
import MoveClient.Text.Utf8
import MoveClient.Transaction.Authenticator
import MoveClient.Transaction.Builder
import MoveClient.Transaction.EntryFunction
import MoveClient.Transaction.Interface
import MoveClient.Transaction.MultisigAccount
import MoveClient.Transaction.Payload
import MoveClient.Transaction.Raw
import MoveClient.Transaction.Script
import MoveClient.Transaction.Signed
import MoveClient.TypeTag
import MoveClient.TypeTag.Codec
import MoveClient.TypeTag.Parser
import MoveClient.Value
import MoveClient.Value.Access
import MoveClient.Value.Arithmetic
import MoveClient.Value.JsonText
import MoveClient.Value.Layout
import MoveClient.Value.Printed
import MoveClient.Value.Tagged
import MoveClient.WireObject
import MoveClient.WireObject.Property
import MoveClient.WireObject.Reader
