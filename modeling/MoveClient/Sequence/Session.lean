import MoveClient.Sequence.ScriptedLedger

/-!
Sessions of an allocator with a scripted ledger.

A session makes one call after another. What a call leaves behind, in the allocator and on the
ledger, is where the next call starts, also after a call that failed.
-/

namespace MoveClient

/-- An allocator and the ledger that answers it. -/
structure AllocatorSession where
  ledger : ScriptedLedger := {}
  allocator : SequenceAllocator := {}

namespace AllocatorSession

/-- The most queries of one call. -/
def maximumQueries : Nat := 1000000

/-- Makes a call. It gives the number that was handed out, if there is one. -/
def call (session : AllocatorSession) (kind : SequenceAllocator.Call) :
    Except Error (Option Int) × AllocatorSession :=
  let (progress, ledger) :=
    (session.allocator.start kind).converse ScriptedLedger.answer maximumQueries session.ledger
  let session := { ledger, allocator := progress.allocator }
  match progress with
  | .ended _ (.allocated number) => (.ok (some number), session)
  | .ended _ (.failed error) => (.error error, session)
  | _ => (.ok none, session)

/-- Takes `count` numbers one after another, up to the first failure. -/
def take (block : Bool) : (count : Nat) → AllocatorSession →
    Except Error (List (Option Int)) × AllocatorSession
  | 0, session => (.ok [], session)
  | count + 1, session =>
      match session.call (.next block) with
      | (.error error, session) => (.error error, session)
      | (.ok number, session) =>
          let (others, session) := take block count session
          (others.map (number :: ·), session)

/-- Waits until no number is in flight. -/
def synchronize (session : AllocatorSession) : Except Error Unit × AllocatorSession :=
  let (result, session) := session.call .synchronize
  (result.map fun _ => (), session)

/-- Changes what the ledger is going to say. -/
def script (session : AllocatorSession) (change : ScriptedLedger → ScriptedLedger) :
    AllocatorSession :=
  { session with ledger := change session.ledger }

end AllocatorSession

end MoveClient
