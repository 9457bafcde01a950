import MoveClient.Error.Api
import MoveClient.Sequence.Allocator

/-!
Ledgers with a script.

A scripted ledger answers the queries of an allocator from lists that are laid out beforehand, and
counts the ledger's time by the readings of its clock. It shows what an allocator does with
answers in a given order.
-/

namespace MoveClient

/-- A ledger that answers from a script. The next numbers are taken from `numbers` while there are
any. The answers about one sequence number are a verdict or the status of a refusal; when there
are none left the number is committed. Every number that was asked for is noted in `checked`. -/
structure ScriptedLedger where
  committed : Except Error Int := .ok 0
  numbers : List Int := []
  statuses : List (Int × List (Except Int Bool)) := []
  clock : Binary64 := .ofInt 0
  tick : Binary64 := .ofInt 1
  checked : List Int := []

namespace ScriptedLedger

/-- The clock in seconds. -/
def seconds (ledger : ScriptedLedger) : Value :=
  match ledger.clock.truncated? with
  | some whole => if ledger.clock.isInteger whole then .int whole else .float ledger.clock
  | none => .float ledger.clock

/-- Answers how a number came out, and forgets the answer. -/
def takeStatus (number : Int) : List (Int × List (Except Int Bool)) →
    Except Int Bool × List (Int × List (Except Int Bool))
  | [] => (.ok true, [])
  | (listed, verdicts) :: rest =>
      if listed = number then
        match verdicts with
        | [] => (.ok true, (listed, []) :: rest)
        | verdict :: verdicts => (verdict, (listed, verdicts) :: rest)
      else
        let (verdict, rest) := takeStatus number rest
        (verdict, (listed, verdicts) :: rest)

/-- Answers a query. -/
def answer : (query : SequenceAllocator.Query) → ScriptedLedger →
    Except Error query.Answer × ScriptedLedger
  | .committed, ledger =>
      match ledger.numbers with
      | [] => (ledger.committed, ledger)
      | number :: numbers => (.ok number, { ledger with committed := .ok number, numbers })
  | .clock, ledger =>
      let clock := ledger.clock.plus ledger.tick
      (.ok clock, { ledger with clock })
  | .status number, ledger =>
      let (verdict, statuses) := takeStatus number ledger.statuses
      let ledger := { ledger with statuses, checked := ledger.checked ++ [number] }
      match verdict with
      | .ok committed => (.ok committed, ledger)
      | .error status => (.error (.api (.ofMessage "status" status)), ledger)

end ScriptedLedger

end MoveClient
