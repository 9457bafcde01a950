import MoveClient.Sequence.Counter
import MoveClient.Transaction.Builder

/-!
Building the transactions of a pipeline.

The builder asks the ledger once where the sender's sequence numbers stand and which chain it is.
Then it numbers what is submitted in order. A payload or options with a nonce need no number.
Numbers that a caller sets wait until the next submission is taken, and are then applied in order.
-/

namespace MoveClient

/-- Who signs a transaction besides the sender. -/
inductive TransactionKind where
  | single
  | multiAgent
  | feePayer
  | other (name : String)
deriving DecidableEq, Repr

namespace TransactionKind

/-- The kind of a name. -/
def ofName : String → TransactionKind
  | "single" => single
  | "multi_agent" => multiAgent
  | "fee_payer" => feePayer
  | name => other name

/-- The name. -/
def name : TransactionKind → String
  | single => "single"
  | multiAgent => "multi_agent"
  | feePayer => "fee_payer"
  | other name => name

/-- The options as the kind wants them: for other kinds a fee payer and secondary signers do not
count, and an unknown fee payer is the zero address. The options are checked again. -/
def restrict (kind : TransactionKind) (options : TransactionOptions) :
    Except Error TransactionOptions :=
  match kind with
  | single => { options with feePayer := none, additionalSigners := .listed [] }.checked
  | multiAgent => { options with feePayer := none }.checked
  | feePayer => { options with feePayer := some (options.feePayer.getD .zero) }.checked
  | other name => .error (.unsupported (.unknownKind (.text name)))

end TransactionKind

/-- A payload on its way through a pipeline. The ticket tells submissions apart; the id is what
the caller sees. -/
structure Submission where
  ticket : Nat
  id : Int
  payload : Payload
  options : Option TransactionOptions
  kind : TransactionKind
deriving Repr

/-- Where a pipeline's transactions come from: their sender, the options for submissions without
any, the time, and what the ledger says. -/
structure PipelineSource where
  sender : Address
  defaults : Except Error TransactionOptions := .ok {}
  now : Value
  sequenceNumber : Except Error Int
  chainId : Except Error Int

/-- What the builder has at hand: the counter, the numbers that callers have set, and the number
of the chain or why it is not known. -/
structure BuilderDesk where
  counter : SequenceCounter := {}
  pending : List Int := []
  chainId : Except Error Int := .error .emptyAnswer

namespace BuilderDesk

/-- Asks the ledger. -/
def seed (source : PipelineSource) (desk : BuilderDesk) : BuilderDesk :=
  match source.sequenceNumber with
  | .ok number => { desk with counter := ⟨number⟩, chainId := source.chainId }
  | .error error => { desk with chainId := .error error }

/-- Applies the numbers that callers have set. -/
def applyPending (desk : BuilderDesk) : BuilderDesk :=
  { desk with
    counter := desk.pending.foldl (fun counter number => (counter.update number).2) desk.counter
    pending := [] }

/-- Whether a submission gets no sequence number. -/
def isOrderless (options : TransactionOptions) (payload : Payload) : Bool :=
  options.nonce.isSome || payload.nonce.isSome

/-- The options with the next sequence number, if there has to be one. -/
def number (desk : BuilderDesk) (options : TransactionOptions) (payload : Payload) :
    TransactionOptions × BuilderDesk :=
  if isOrderless options payload then (options, desk)
  else
    let (number, counter) := desk.counter.increment
    ({ options with sequenceNumber := some (.int number) }, { desk with counter })

/-- Builds with options that leave nothing to ask. -/
def assemble (source : PipelineSource) (chainId : Int) (options : TransactionOptions)
    (payload : Payload) : Except Error Signable := do
  let options ← { options with chainId := some (.int chainId) }.checked
  options.build (fun _ => .error .emptyAnswer) source.sender payload (.ok source.now)

/-- The options of a submission. -/
def optionsFor (source : PipelineSource) (submission : Submission) :
    Except Error TransactionOptions := do
  let options ←
    match submission.options with
    | some options => Except.ok options
    | none => source.defaults
  submission.kind.restrict options

/-- Builds the transaction of a submission. -/
def build (source : PipelineSource) (desk : BuilderDesk) (submission : Submission) :
    Except Error Signable × BuilderDesk :=
  let desk := desk.applyPending
  match desk.chainId with
  | .error error => (.error error, desk)
  | .ok chainId =>
      match optionsFor source submission with
      | .error error => (.error error, desk)
      | .ok options =>
          let (options, desk) := desk.number options submission.payload
          (assemble source chainId options submission.payload, desk)

end BuilderDesk

end MoveClient
