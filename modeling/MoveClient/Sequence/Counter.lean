/-!
Counters of sequence numbers.

The transactions of one account carry consecutive sequence numbers. A counter hands them out; it
is moved when the ledger is known to expect another number.
-/

namespace MoveClient

/-- A counter, by the number it hands out next. -/
structure SequenceCounter where
  next : Int := 0
deriving DecidableEq, Repr

namespace SequenceCounter

/-- Hands out a number. -/
def increment (counter : SequenceCounter) : Int × SequenceCounter :=
  (counter.next, ⟨counter.next + 1⟩)

/-- Moves the counter, which gives the number that would have been next. -/
def update (counter : SequenceCounter) (number : Int) : Int × SequenceCounter :=
  (counter.next, ⟨number⟩)

end SequenceCounter

end MoveClient
