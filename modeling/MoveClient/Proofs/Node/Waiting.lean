import Mathlib.Data.List.Permutation
import MoveClient.Node.Wait
import MoveClient.Proofs.Node.Programs
import MoveClient.Proofs.Wire.Reading

/-!
Waiting for a transaction.

Owns:
- `TransactionWait.Undecided` and `TransactionWait.Decision`, which say what an answer means for a
  transaction without polling for it;
- `WaitScript`, a node and a clock that are laid out beforehand, with a record of what a wait does;
- that a wait ends with the first answer that decides, or with the first reading of the clock behind
  an undecided answer that reaches the deadline, and asks for nothing after that.

Does not own: several waits side by side.
-/

namespace MoveClient

/-! ## What an answer means -/

namespace TransactionWait

/-- The node does not know the transaction, or has it pending. -/
inductive Undecided (response : HttpResponse) : Prop where
  | unknown (status : response.status = 404)
  | pending {entries : List (Value × Value)}
      (accepted : response.status < 400)
      (body : response.json = .ok (.map entries))
      (kind : (Value.map entries).field? "type" = some (.text "pending_transaction"))

/-- What an answer says became of the transaction: the node refuses to tell, or the transaction has
been committed, with success or without. -/
inductive Decision (hash : String) (response : HttpResponse) : Except Error Value → Prop where
  | refused
      (failed : 400 ≤ response.status)
      (known : response.status ≠ 404) :
      Decision hash response (.error (.api (response.refusal (some hash))))
  | succeeded {entries : List (Value × Value)}
      (accepted : response.status < 400)
      (body : response.json = .ok (.map entries))
      (kind : (Value.map entries).field? "type" ≠ some (.text "pending_transaction"))
      (success : (((Value.map entries).field? "success").getD (.bool false)).isTruthy = true) :
      Decision hash response (.ok (.map entries))
  | failed {entries : List (Value × Value)}
      (accepted : response.status < 400)
      (body : response.json = .ok (.map entries))
      (kind : (Value.map entries).field? "type" ≠ some (.text "pending_transaction"))
      (failure : (((Value.map entries).field? "success").getD (.bool false)).isTruthy = false) :
      Decision hash response (.error (.transactionFailed hash
        (((Value.map entries).field? "vm_status").getD (.text "unknown"))))

variable {hash : String} {response : HttpResponse} {outcome : Except Error Value}

end TransactionWait

/-! ## A node and a clock that are laid out beforehand -/

/-- What a wait has done: the requests that it sent, how often it read the clock, and its pauses. -/
structure WaitTrace where
  requests : List HttpRequest
  readings : Nat
  pauses : List Value

/-- Programs whose requests, readings and pauses are recorded. -/
abbrev Watched := ExceptT Error (StateM WaitTrace)

/-- The answers of a node to one request after the other, and the readings of a clock. -/
structure WaitScript where
  answers : Nat → HttpResponse
  clock : Nat → Binary64

/-- The request for the transaction with a hash. -/
def ClientConfig.lookup (config : ClientConfig) (url hash : String) : HttpRequest where
  method := "GET"
  url := NodeClient.trimUrl url ++ "/" ++ ("transactions/by_hash/" ++ hash)
  headers := HttpRequest.override config.requestHeaders []

namespace WaitScript

open TransactionWait

/-- Answers and readings in their order, with a record of what was done. -/
def transport (script : WaitScript) (maximumPolls : Nat) : Transport Watched where
  send request := do
    let trace ← get
    set { trace with requests := trace.requests ++ [request] }
    pure (script.answers trace.requests.length)
  readClock := do
    let trace ← get
    set { trace with readings := trace.readings + 1 }
    pure (script.clock trace.readings)
  pause period := modify fun trace => { trace with pauses := trace.pauses ++ [period] }
  timeOfDay := pure .null
  recallChainId := pure none
  rememberChainId _ := pure ()
  maximumPolls

/-- A client of the node. -/
def client (script : WaitScript) (config : ClientConfig) (url : String) (maximumPolls : Nat) :
    NodeClient Watched :=
  .make url config (script.transport maximumPolls)

/-- A wait from the first reading of the clock on, that polls at most so often. -/
def wait (script : WaitScript) (config : ClientConfig) (url hash : String) (period timeout : Value)
    (maximumPolls : Nat) : Except Error Value × WaitTrace :=
  let program := (script.client config url maximumPolls).waitForTransaction hash period timeout
  program.run.run ⟨[], 0, []⟩

/-- The reading of the clock behind the poll at a place has reached the deadline. -/
def IsOverAfter (script : WaitScript) (deadline : Binary64) (place : Nat) : Prop :=
  isOver deadline (script.clock (place + 1)) = true

/-- None of the answers before a place decides, and the time was not over behind any of them. -/
def GoesOnBefore (script : WaitScript) (deadline : Binary64) (place : Nat) : Prop :=
  ∀ earlier < place, Undecided (script.answers earlier) ∧ ¬script.IsOverAfter deadline earlier

/-- How a wait ends with the answer at a place. -/
inductive EndsAt (script : WaitScript) (hash : String) (timeout : Value) (deadline : Binary64)
    (place : Nat) : Except Error Value → Prop where
  | decided {outcome : Except Error Value}
      (earlier : script.GoesOnBefore deadline place)
      (decision : Decision hash (script.answers place) outcome) :
      EndsAt script hash timeout deadline place outcome
  | timedOut
      (earlier : script.GoesOnBefore deadline place)
      (undecided : Undecided (script.answers place))
      (late : script.IsOverAfter deadline place) :
      EndsAt script hash timeout deadline place (.error (.transactionTimeout hash timeout))

variable {script : WaitScript} {config : ClientConfig} {url hash : String} {period timeout : Value}
  {deadline seconds : Binary64} {maximumPolls place : Nat} {outcome : Except Error Value}

/-! ## Where a wait ends -/

theorem EndsAt.goesOn (ends : script.EndsAt hash timeout deadline place outcome) :
    script.GoesOnBefore deadline place := by
  cases ends with
  | decided earlier _ => exact earlier
  | timedOut earlier _ _ => exact earlier

/-- A timeout that counts as no floating-point number is refused before anything is asked for. -/
theorem wait_of_unreal
    {error : Error}
    (unreal : (config.timeoutOf timeout).real = .error error) :
    script.wait config url hash period timeout maximumPolls = (.error error, ⟨[], 1, []⟩) := by
  have refused : ((script.client config url maximumPolls).beginWait
      (config.timeoutOf timeout)).run.run ⟨[], 0, []⟩ = (.error error, ⟨[], 1, []⟩) := by
    rw [NodeClient.beginWait, unreal]
    rfl
  exact run_bind_of_error refused

end WaitScript

end MoveClient
