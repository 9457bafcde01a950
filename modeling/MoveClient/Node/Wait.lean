import MoveClient.Node.Client

/-!
Waiting for transactions.

A transaction is polled until the node's answer decides: a node that does not know it yet, or has
it pending, has not decided. The clock is read when the wait begins and after every poll that
decided nothing; a wait ends when the clock has reached the deadline. At least one poll is made, and
there is a pause between two polls.
-/

namespace MoveClient

namespace TransactionWait

/-- Whether the clock has reached a deadline. It never reaches one that is undefined. -/
def isOver (deadline now : Binary64) : Bool :=
  deadline.isAtMost now

/-- What an answer says: nothing yet, or what became of the transaction. -/
def verdict (hash : String) (response : HttpResponse) : Except Error (Option Value) := do
  if response.status = 404 then .ok none
  else
    let transaction ← response.checkedJson (some hash)
    let kind ← transaction.optional "type" .null
    if kind.same (.text "pending_transaction") then .ok none
    else if (← transaction.optional "success" (.bool false)).isTruthy then .ok (some transaction)
    else .error (.transactionFailed hash (← transaction.optional "vm_status" (.text "unknown")))

/-- Refuses to pause for what is no number of seconds. A pause that takes no time needs no clock,
so how long it would be does not matter. -/
def checkPause : Value → Except Error Unit
  | .bool _ => .ok ()
  | .int seconds => if seconds ≤ 0 then .ok () else (Binary64.nearest seconds).map fun _ => ()
  | .float seconds => if seconds = .notANumber then .error .invalidNumber else .ok ()
  | _ => .error .wrongKind

end TransactionWait

namespace ClientConfig

/-- The period of a wait: the given one, or the client's. -/
def periodOf (config : ClientConfig) : Value → Value
  | .null => config.pollPeriod
  | period => period

/-- The timeout of a wait: the given one, or the client's. -/
def timeoutOf (config : ClientConfig) : Value → Value
  | .null => config.pollTimeout
  | timeout => timeout

end ClientConfig

namespace NodeClient

variable {m : Type → Type} [Monad m] [MonadExceptOf Error m] (client : NodeClient m)

/-- Begins a wait: gives its deadline. -/
def beginWait (timeout : Value) : m Binary64 := do
  let start ← client.transport.readClock
  let seconds ← ofExcept timeout.real
  pure (start.plus seconds)

/-- Pauses for a number of seconds. -/
def pause (period : Value) : m Unit := do
  ofExcept (TransactionWait.checkPause period)
  client.transport.pause period

/-- Polls once. If the answer decides nothing, the clock is read, and there is a pause unless the
wait is over. -/
def poll (hash : String) (period timeout : Value) (deadline : Binary64) :
    m (Option Value) := do
  let response ← client.get ("transactions/by_hash/" ++ hash)
  match ← ofExcept (TransactionWait.verdict hash response) with
  | some transaction => pure (some transaction)
  | none => do
      let now ← client.transport.readClock
      if TransactionWait.isOver deadline now then throw (.transactionTimeout hash timeout)
      else do
        client.pause period
        pure none

/-- Polls until the answer decides or the wait is over. -/
def pollUntil (hash : String) (period timeout : Value) (deadline : Binary64) :
    (polls : Nat) → m Value
  | 0 => throw (.transactionTimeout hash timeout)
  | polls + 1 => do
      match ← client.poll hash period timeout deadline with
      | some transaction => pure transaction
      | none => pollUntil hash period timeout deadline polls

/-- Waits until a transaction is committed, and gives it. -/
def waitForTransaction (hash : String) (period timeout : Value) : m Value := do
  let period := client.config.periodOf period
  let timeout := client.config.timeoutOf timeout
  let deadline ← client.beginWait timeout
  client.pollUntil hash period timeout deadline client.transport.maximumPolls

/-- One of several waits that go on side by side. -/
inductive SharedWait where
  | fresh (hash : String)
  | waiting (hash : String) (deadline : Binary64)
  | finished (result : Except Error Value)

/-- Takes one of several waits to its next poll. -/
def advanceWait (period timeout : Value) (wait : SharedWait) : m SharedWait :=
  let pollOnce (hash : String) (deadline : Binary64) : m SharedWait := do
    match ← client.poll hash period timeout deadline with
    | some transaction => pure (.finished (.ok transaction))
    | none => pure (.waiting hash deadline)
  tryCatch
    (match wait with
      | .fresh hash => do
          let deadline ← client.beginWait timeout
          pollOnce hash deadline
      | .waiting hash deadline => pollOnce hash deadline
      | .finished result => pure (.finished result))
    fun error => pure (.finished (.error error))

/-- The results of waits that are all finished, or the first failure among them. -/
def SharedWait.results? : List SharedWait → Except Error (Option (List Value))
  | [] => .ok (some [])
  | wait :: rest => do
      match wait with
      | finished (.ok transaction) =>
          let others ← results? rest
          .ok (others.map (transaction :: ·))
      | finished (.error error) => .error error
      | fresh _ | waiting .. =>
          let _ ← results? rest
          .ok none

/-- Polls side by side, each wait once a round, until all are finished or one has failed. -/
def pollAll (period timeout : Value) : (rounds : Nat) → List SharedWait → m (List Value)
  | 0, _ => throw (.transactionTimeout "" timeout)
  | rounds + 1, waits => do
      let waits ← waits.mapM (client.advanceWait period timeout)
      match ← ofExcept (SharedWait.results? waits) with
      | some transactions => pure transactions
      | none => pollAll period timeout rounds waits

/-- Waits for several transactions side by side, and gives them in order. -/
def waitForTransactions (hashes : List String) (period timeout : Value) : m (List Value) :=
  client.pollAll (client.config.periodOf period) (client.config.timeoutOf timeout)
    client.transport.maximumPolls (hashes.map SharedWait.fresh)

end NodeClient

end MoveClient
