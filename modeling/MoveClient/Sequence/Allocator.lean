import MoveClient.Sequence.Counter
import MoveClient.Value.Arithmetic

/-!
Handing out sequence numbers against a node.

An allocator keeps a counter and the number that the node last said comes next on the ledger. The
numbers between the two are in flight. Once as many are in flight as the node takes, a call waits
for some to be committed; if that takes too long, every number in flight is settled (committed, or
not known to the node) and the counter starts again where the ledger stands.

A call is a conversation with the node. Each request is a point where the call can fail, with the
allocator left as it is at that point. So a call is not one function but a sequence of steps: it
either has ended or waits for the answer to one query, and an answer takes it to the next such
point. One call runs at a time.
-/

namespace MoveClient

/-- An allocator. Times are in seconds. -/
structure SequenceAllocator where
  maximumInFlight : Int := 100
  maximumWait : Value := .int 30
  counter : SequenceCounter := {}
  committed : Int := 0
  seeded : Bool := false
deriving Repr

namespace SequenceAllocator

/-- What an allocator is called for. -/
inductive Call where
  /-- Hand out a number; `block` waits until one is free. -/
  | next (block : Bool)
  /-- Wait until no number is in flight. -/
  | synchronize
deriving DecidableEq, Repr

/-- What is asked of the node: the next number on the ledger, the ledger's clock, and whether the
transaction with a number is committed. -/
inductive Query where
  | committed
  | clock
  | status (number : Int)
deriving DecidableEq, Repr

/-- The answers to a query. -/
abbrev Query.Answer : Query → Type
  | .committed => Int
  | .clock => Binary64
  | .status _ => Bool

/-- Where a call stands that waits for an answer. -/
inductive Phase where
  /-- Reads the ledger's number for the first time. -/
  | seeding (block : Bool)
  /-- Reads the ledger's number before any waiting. -/
  | refreshing (call : Call)
  /-- Reads the clock when the waiting starts. -/
  | starting (call : Call)
  /-- Reads the clock while waiting. -/
  | watching (call : Call) (deadline : Binary64)
  /-- Reads the ledger's number while waiting. -/
  | polling (call : Call) (deadline : Binary64)
  /-- Asks for the fate of a number in flight; the ones before `last` follow. -/
  | settling (call : Call) (number last : Int)
  /-- Reads the ledger's number after everything was settled. -/
  | reseeding (call : Call)
deriving DecidableEq, Repr

/-- What a waiting call has asked. -/
abbrev Phase.query : Phase → Query
  | seeding _ | refreshing _ | polling .. | reseeding _ => .committed
  | starting _ | watching .. => .clock
  | settling _ number _ => .status number

/-- How a call ends. -/
inductive Outcome where
  | allocated (number : Int)
  | full
  | synchronized
  | failed (error : Error)
deriving Repr

/-- An allocator in a call: the call waits, or it has ended. -/
inductive Progress where
  | waiting (allocator : SequenceAllocator) (phase : Phase)
  | ended (allocator : SequenceAllocator) (outcome : Outcome)
deriving Repr

/-- The allocator of a call. -/
def Progress.allocator : Progress → SequenceAllocator
  | waiting allocator _ | ended allocator _ => allocator

/-- How many numbers are in flight. -/
def inFlight (allocator : SequenceAllocator) : Int :=
  allocator.counter.next - allocator.committed

/-- Whether no further number may be handed out. -/
def isFull (allocator : SequenceAllocator) : Bool :=
  allocator.maximumInFlight ≤ allocator.inFlight

/-- Whether a call still has to wait. -/
def isPending (allocator : SequenceAllocator) : Call → Bool
  | .next _ => allocator.isFull
  | .synchronize => 0 < allocator.inFlight

/-- Starts again where the ledger stands. -/
def reset (allocator : SequenceAllocator) (committed : Int) : SequenceAllocator :=
  { allocator with committed, counter := ⟨committed⟩ }

/-- Takes note of where the ledger stands; a counter that is behind follows. -/
def refresh (allocator : SequenceAllocator) (committed : Int) : SequenceAllocator :=
  { allocator with
    committed
    counter := if allocator.counter.next < committed then ⟨committed⟩ else allocator.counter }

/-- Ends a call that need not wait any more. -/
def conclude (allocator : SequenceAllocator) : Call → Progress
  | .next _ =>
      let (number, counter) := allocator.counter.increment
      .ended { allocator with counter } (.allocated number)
  | .synchronize => .ended allocator .synchronized

/-- Goes on after the ledger's number was read for the first time. -/
def claim (allocator : SequenceAllocator) (block : Bool) : Progress :=
  if allocator.isFull then .waiting allocator (.refreshing (.next block))
  else allocator.conclude (.next block)

/-- Goes on before any waiting. -/
def prepare (allocator : SequenceAllocator) : Call → Progress
  | .next block =>
      if allocator.isFull then
        if block then .waiting allocator (.starting (.next block)) else .ended allocator .full
      else allocator.conclude (.next block)
  | .synchronize => .waiting allocator (.starting .synchronize)

/-- Goes on while waiting. -/
def watch (allocator : SequenceAllocator) (call : Call) (deadline : Binary64) : Progress :=
  if allocator.isPending call then .waiting allocator (.watching call deadline)
  else allocator.conclude call

/-- Goes on when the waiting starts. The deadline is a floating-point number, as the clock's
readings are. -/
def await (allocator : SequenceAllocator) (call : Call) (now : Binary64) : Progress :=
  match allocator.maximumWait.real with
  | .ok seconds => allocator.watch call (now.plus seconds)
  | .error error => .ended allocator (.failed error)

/-- Goes on with settling the numbers from `number` to before `last`. To start again counts as the
first reading too, from the moment it is asked for. -/
def settle (allocator : SequenceAllocator) (call : Call) (number last : Int) : Progress :=
  if number < last then .waiting allocator (.settling call number last)
  else .waiting { allocator with seeded := true } (.reseeding call)

/-- Starts a call. The ledger's number is read before the first number is handed out. -/
def start (allocator : SequenceAllocator) : Call → Progress
  | .next block =>
      if allocator.seeded then allocator.claim block
      else .waiting { allocator with seeded := true } (.seeding block)
  | .synchronize => .waiting allocator (.refreshing .synchronize)

/-- Goes on with an answer. -/
def answered (allocator : SequenceAllocator) : (phase : Phase) → phase.query.Answer → Progress
  | .seeding block, committed => (allocator.reset committed).claim block
  | .refreshing call, committed => (allocator.refresh committed).prepare call
  | .starting call, now => allocator.await call now
  | .watching call deadline, now =>
      if deadline.isBelow now then allocator.settle call allocator.committed allocator.counter.next
      else .waiting allocator (.polling call deadline)
  | .polling call deadline, committed => (allocator.refresh committed).watch call deadline
  | .settling call number last, (committed : Bool) =>
      if committed then allocator.settle call (number + 1) last
      else .waiting allocator (.settling call number last)
  | .reseeding call, committed => (allocator.reset committed).conclude call

/-- Whether an error says that the node does not know what was asked for. -/
def isUnknown : Error → Bool
  | .api cause => cause.status == 404
  | .accountNotFound _ | .resourceNotFound _ => true
  | _ => false

/-- Goes on after a request failed. A number in flight that the node does not know is settled;
any other failure ends the call. -/
def refused (allocator : SequenceAllocator) (phase : Phase) (error : Error) : Progress :=
  match phase with
  | .settling call number last =>
      if isUnknown error then allocator.settle call (number + 1) last
      else .ended allocator (.failed error)
  | _ => .ended allocator (.failed error)

/-- Goes on with the node's answer to what a waiting call has asked. -/
def resume (allocator : SequenceAllocator) (phase : Phase)
    (answer : Except Error phase.query.Answer) : Progress :=
  match answer with
  | .ok value => allocator.answered phase value
  | .error error => allocator.refused phase error

/-- Carries a call through with a node that answers from its state. At most as many queries are
made as `fuel` says. -/
def Progress.converse {σ : Type} (node : (query : Query) → σ → Except Error query.Answer × σ) :
    (fuel : Nat) → Progress → σ → Progress × σ
  | fuel + 1, waiting allocator phase, state =>
      let (answer, state) := node phase.query state
      converse node fuel (allocator.resume phase answer) state
  | _, progress, state => (progress, state)

end SequenceAllocator

end MoveClient
