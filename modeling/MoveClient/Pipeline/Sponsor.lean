import MoveClient.Account.Cosigning
import MoveClient.Description.Report
import MoveClient.Pipeline

/-!
Pipelines with a sponsor, and the order of outcomes.

A sponsor pays the fee of the transactions that have a fee payer, and signs them beside the
sender. Outcomes come in the order in which they are ready; a list of them is put in order by what
was submitted, so that it does not depend on the number of signers.
-/

namespace MoveClient.Pipeline

/-- Signs as the sender, and as the sponsor where a fee payer is wanted. There is no account that
could sign second. -/
def signSponsored (suite : Suite) (sender sponsor : Account) : Signing := fun _ signable =>
  match signable with
  | .plain transaction => SignedTransaction.signedBy suite transaction sender
  | .feePayer transaction others _ => do
      let signable := Signable.feePayer transaction others (some sponsor.address)
      let proof ← sender.sign suite signable
      let payment ← sponsor.sign suite signable
      .ok ⟨transaction, .feePayer proof [] (sponsor.address, payment)⟩
  | .multiAgent .. => .error (.unsupported (.custom "no second signer"))

/-- What there is to tell about a transaction that was submitted. -/
def receiptDetails (suite : Suite) (receipt : Receipt) : List (String × Value) :=
  let transaction := receipt.transaction.transaction
  let verifies := (receipt.transaction.verify suite).toOption.getD false
  [("seq", transaction.sequenceNumber.report), ("nonce", (transaction.nonce.getD .null).report),
    ("verify", .bool verifies), ("chain", transaction.chainId.report),
    ("exp", transaction.expiration.report), ("gas", transaction.maxGasAmount.report)]

/-- The sequence number and the hash of what was submitted; a failure comes before all. -/
def place (outcome : SubmissionOutcome) : Int × String :=
  match outcome.result with
  | .error _ => (-1, "")
  | .ok receipt => ((receipt.transaction.transaction.sequenceNumber.integer?).getD (-1), receipt.hash)

/-- Whether an outcome does not stand behind another one. -/
def notBehind (left right : SubmissionOutcome) : Bool :=
  let (number, hash) := place left
  let (number', hash') := place right
  left.job.id < right.job.id ||
    (left.job.id == right.job.id &&
      (number < number' || (number == number' && hash ≤ hash')))

/-- Outcomes by id, then by sequence number, then by hash. -/
def inOrder (outcomes : List SubmissionOutcome) : List SubmissionOutcome :=
  outcomes.mergeSort notBehind

end MoveClient.Pipeline
