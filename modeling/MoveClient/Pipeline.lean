import MoveClient.Account
import MoveClient.Pipeline.Builder
import MoveClient.Pipeline.Flow

/-!
Pipelines: many transactions of one sender, built, signed and submitted at a time.

A failure of one submission is its outcome and stops nothing. After a pipeline is closed no
payload is taken any more, and the outcomes end when those that were taken have come through.
-/

namespace MoveClient

/-- What comes of a transaction that a node has taken: the hash that the node gave it. -/
structure Receipt where
  hash : String
  transaction : SignedTransaction
deriving Repr

/-- The flow of a pipeline. -/
abbrev TransactionFlow :=
  Flow BuilderDesk Submission Signable SignedTransaction Receipt

/-- What the stages of a pipeline do. -/
abbrev TransactionStages :=
  Stages BuilderDesk Submission Signable SignedTransaction Receipt

/-- What came of a submission. -/
abbrev SubmissionOutcome := Staged Submission Receipt

/-- A pipeline. -/
structure Pipeline where
  flow : TransactionFlow
  isStarted : Bool := false
  isClosed : Bool := false
  isStopped : Bool := false
  isDrained : Bool := false
  nextId : Int := 0
  submissions : Nat := 0

namespace Pipeline

/-- How a pipeline signs. -/
abbrev Signing := TransactionKind → Signable → Except Error SignedTransaction

/-- Signs as the sender alone. -/
def signAlone (suite : Suite) (sender : Account) : Signing := fun kind signable =>
  match kind with
  | .single => do
      let proof ← sender.sign suite signable
      .ok ⟨signable.transaction, .ofAccount proof⟩
  | other => .error (.unsupported (.needsSigner other.name))

/-- The stages of a pipeline, by the ways of signing and of submitting. -/
def stages (source : PipelineSource) (signing : Signing)
    (send : SignedTransaction → Except Error String) : TransactionStages where
  prepare := BuilderDesk.seed source
  build := BuilderDesk.build source
  sign submission signable := signing submission.kind signable
  submit _ signed := do
    let hash ← send signed
    .ok ⟨hash, signed⟩

/-- A pipeline with a number of signers, of which there has to be one. -/
def make (signers : Int) (capacity : Nat) : Except Error Pipeline :=
  if signers < 1 then .error (.range (.noWorkers signers))
  else .ok { flow := .initial capacity signers.toNat {} }

/-- The counter of sequence numbers. -/
def counter (pipeline : Pipeline) : SequenceCounter :=
  pipeline.flow.desk.counter

/-- Whether the stages are at work. -/
def isRunning (pipeline : Pipeline) : Bool :=
  pipeline.isStarted && !pipeline.isStopped

/-- Sets the stages to work. -/
def start (pipeline : Pipeline) : Except Error Pipeline :=
  if pipeline.isStarted then .error .alreadyStarted
  else .ok { pipeline with isStarted := true, isStopped := false }

/-- Lets the caller that waits longest into the first queue. If that is full, the stages go on
until there is room. -/
def letIn (stages : TransactionStages) (pipeline : Pipeline) : Pipeline :=
  match pipeline.flow.enter 0 with
  | some flow => { pipeline with flow }
  | none =>
      if pipeline.isRunning then
        let flow := pipeline.flow.advance stages
        { pipeline with flow := (flow.enter 0).getD flow }
      else pipeline

/-- What a caller does that submits a payload, until it waits at the first queue: it is refused if
the pipeline is closed, and has an id else, the one it chose or the next that is larger than all
before. -/
def accept (pipeline : Pipeline) (payload : Payload) (options : Option TransactionOptions)
    (kind : TransactionKind) (id : Option Int) : Except Error (Submission × Pipeline) :=
  if pipeline.isClosed then .error .channelClosed
  else
    let id := id.getD pipeline.nextId
    let submission : Submission := { ticket := pipeline.submissions, id, payload, options, kind }
    let pipeline := { pipeline with
      flow := pipeline.flow.bring (.item submission)
      nextId := max pipeline.nextId (id + 1)
      submissions := pipeline.submissions + 1 }
    .ok (submission, pipeline)

/-- Submits a payload and gives its id. -/
def submit (stages : TransactionStages) (pipeline : Pipeline) (payload : Payload)
    (options : Option TransactionOptions) (kind : TransactionKind) (id : Option Int) :
    Except Error (Int × Pipeline) := do
  let (submission, pipeline) ← pipeline.accept payload options kind id
  .ok (submission.id, pipeline.letIn stages)

/-- Sets the sequence number of what is built next. -/
def setSequenceNumber (pipeline : Pipeline) (number : Int) : Pipeline :=
  let desk := pipeline.flow.desk
  let desk := { desk with pending := desk.pending ++ [number] }
  { pipeline with flow := { pipeline.flow with desk } }

/-- What a caller does that closes the pipeline, until it waits at the first queue. -/
def shut (pipeline : Pipeline) : Pipeline :=
  { pipeline with isClosed := true, flow := pipeline.flow.bring .finish }

/-- Takes no more payloads. -/
def close (stages : TransactionStages) (pipeline : Pipeline) : Pipeline :=
  if pipeline.isClosed then pipeline else pipeline.shut.letIn stages

/-- Lets the stages go on until none can move. -/
def settle (stages : TransactionStages) (pipeline : Pipeline) : Pipeline :=
  if pipeline.isRunning then { pipeline with flow := pipeline.flow.settle stages } else pipeline

/-- Ends all stages at once; what has no outcome gets none. -/
def stop (pipeline : Pipeline) : Pipeline :=
  { pipeline with
    isClosed := true
    isStopped := pipeline.isStarted
    flow := { pipeline.flow with outcomes := pipeline.flow.outcomes ++ [.finish] } }

/-- The outcomes before the finish mark, and what is behind it. -/
def untilFinish : List (Entry SubmissionOutcome) →
    List SubmissionOutcome × List (Entry SubmissionOutcome)
  | [] => ([], [])
  | .finish :: rest => ([], rest)
  | .item outcome :: rest =>
      let (outcomes, behind) := untilFinish rest
      (outcome :: outcomes, behind)

/-- All outcomes to the end; there are none once they have ended. -/
def drain (stages : TransactionStages) (pipeline : Pipeline) : List SubmissionOutcome × Pipeline :=
  if pipeline.isDrained then ([], pipeline)
  else
    let pipeline := pipeline.settle stages
    let (outcomes, behind) := untilFinish pipeline.flow.outcomes
    let flow := { pipeline.flow with outcomes := behind }
    (outcomes, { pipeline with flow, isDrained := true })

/-- Submits payloads one after another. -/
def submitAll (stages : TransactionStages) (options : Option TransactionOptions)
    (kind : TransactionKind) : List Payload → Pipeline → Except Error Pipeline
  | [], pipeline => .ok pipeline
  | payload :: rest, pipeline => do
      let (_, pipeline) ← pipeline.submit stages payload options kind none
      submitAll stages options kind rest pipeline

/-- Starts the pipeline if it has not started, submits all payloads and gives the outcomes in the
order of the ids. -/
def runBatch (stages : TransactionStages) (payloads : List Payload)
    (options : Option TransactionOptions) (kind : TransactionKind) (pipeline : Pipeline) :
    Except Error (List SubmissionOutcome) × Pipeline :=
  let pipeline := if pipeline.isStarted then pipeline else { pipeline with isStarted := true }
  match submitAll stages options kind payloads pipeline with
  | .error error => (.error error, pipeline)
  | .ok pipeline =>
      let (outcomes, pipeline) := (pipeline.close stages).drain stages
      (.ok (outcomes.mergeSort fun left right => left.job.id ≤ right.job.id), pipeline)

end Pipeline

end MoveClient
