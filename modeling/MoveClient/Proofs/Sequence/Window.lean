import MoveClient.Proofs.Sequence.Readings

/-!
The window of an allocator.

The numbers in flight are those between the last reading of the ledger and the next number. A call
for a number waits while there are as many as the limit allows, and a call to synchronize while
there are any.

Owns:
- `Progress.Stands`, what a call has read and done at the point where it stands;
- that every reply keeps it, whatever the node says and whichever request fails;
- the bounds of the numbers that are handed out, and what the other outcomes of a call mean.

Does not own: whether there was a reading at all; `MoveClient.Proofs.Sequence.Seeding` says that.
-/

namespace MoveClient.SequenceAllocator

variable {limit : Int} {wait : Value} {allocator origin : SequenceAllocator} {call : Call}
  {seen replies : List Reply}

/-! ## Room in the window -/

theorem isFull_iff :
    allocator.isFull = true ↔
      allocator.committed + allocator.maximumInFlight ≤ allocator.counter.next := by
  unfold isFull
  rw [decide_eq_true_eq]
  unfold inFlight
  omega

theorem isPending_next_eq_false_iff {block : Bool} :
    allocator.isPending (.next block) = false ↔
      allocator.counter.next < allocator.committed + allocator.maximumInFlight := by
  show allocator.isFull = false ↔ _
  rw [← Bool.not_eq_true, isFull_iff]
  omega

theorem isPending_synchronize_eq_false_iff :
    allocator.isPending .synchronize = false ↔
      allocator.counter.next ≤ allocator.committed := by
  show decide (0 < allocator.inFlight) = false ↔ _
  rw [decide_eq_false_iff_not]
  unfold inFlight
  omega

/-! ## Where a call stands -/

/-- What a phase means for a call that began with the allocator `origin`. Before the first reading
the counter is where it was. -/
def Phase.Stands
    (origin allocator : SequenceAllocator)
    (replies : List Reply) :
    Phase → Prop
  | .seeding _ => replies = []
  | .refreshing _ => replies = [] ∧ allocator.counter = origin.counter
  | _ => (lastNumber replies).isSome

/-- What an outcome means for a call that began with the allocator `origin`. -/
def Outcome.Stands
    (limit : Int)
    (origin allocator : SequenceAllocator)
    (replies : List Reply) :
    Outcome → Prop
  | .allocated number => number < allocator.committed + limit
  | .full =>
      allocator.counter = origin.counter ∧
        allocator.committed + limit ≤ allocator.counter.next ∧
        ∃ number, replies = [.reading number]
  | .synchronized =>
      allocator.counter.next = allocator.committed ∧ (lastNumber replies).isSome
  | .failed _ => True

/-- What holds of a call wherever it stands. -/
def Progress.Stands
    (limit : Int)
    (origin : SequenceAllocator)
    (replies : List Reply) :
    Progress → Prop
  | .waiting allocator phase => phase.Stands origin allocator replies
  | .ended allocator outcome => outcome.Stands limit origin allocator replies

/-! ## What every reply keeps -/

/-- An allocator that starts again where the ledger stands has room. -/
theorem isPending_reset
    (positive : 1 ≤ allocator.maximumInFlight)
    (number : Int)
    (call : Call) :
    (allocator.reset number).isPending call = false := by
  cases call with
  | next block =>
      rw [isPending_next_eq_false_iff]
      show number < number + allocator.maximumInFlight
      omega
  | synchronize =>
      rw [isPending_synchronize_eq_false_iff]
      exact Int.le_refl number

/-- A reading that leaves the window full has not moved the counter. -/
theorem counter_refresh_of_isFull
    (positive : 1 ≤ allocator.maximumInFlight)
    {number : Int}
    (full : (allocator.refresh number).isFull = true) :
    (allocator.refresh number).counter = allocator.counter := by
  rw [isFull_iff] at full
  by_cases behind : allocator.counter.next < number
  · have overtaken : number + allocator.maximumInFlight ≤ number := by
      simpa only [refresh, behind, if_true] using full
    omega
  · simp only [refresh, behind, if_false]

theorem Knows.stands_conclude_next
    (knows : Knows limit seen allocator)
    {block : Bool}
    (free : allocator.isPending (.next block) = false) :
    (allocator.conclude (.next block)).Stands limit origin replies := by
  rw [isPending_next_eq_false_iff, knows.limit_eq] at free
  exact free

theorem Knows.stands_conclude
    (knows : Knows limit seen allocator)
    (free : allocator.isPending call = false)
    (read : (lastNumber replies).isSome) :
    (allocator.conclude call).Stands limit origin replies := by
  cases call with
  | next block => exact knows.stands_conclude_next free
  | synchronize =>
      rw [isPending_synchronize_eq_false_iff] at free
      exact ⟨Int.le_antisymm free knows.committed_le, read⟩

theorem Knows.stands_start
    (knows : Knows limit seen allocator)
    (call : Call) :
    (allocator.start call).Stands limit allocator [] := by
  cases call with
  | next block =>
      simp only [SequenceAllocator.start, SequenceAllocator.claim]
      split
      · split
        case isTrue full => exact ⟨rfl, rfl⟩
        case isFalse free => exact knows.stands_conclude_next (Bool.eq_false_iff.mpr free)
      · rfl
  | synchronize => exact ⟨rfl, rfl⟩

theorem Knows.stands_prepare
    (positive : 1 ≤ limit)
    (knows : Knows limit seen allocator)
    (number : Int)
    (unmoved : allocator.counter = origin.counter)
    (call : Call) :
    ((allocator.refresh number).prepare call).Stands limit origin [.reading number] := by
  have refreshed := knows.refresh number
  cases call with
  | next block =>
      simp only [SequenceAllocator.prepare]
      split
      case isTrue full =>
        cases block with
        | true => rfl
        | false =>
            have counterEq := counter_refresh_of_isFull (knows.limit_eq ▸ positive) full
            rw [isFull_iff, refreshed.limit_eq] at full
            exact ⟨counterEq.trans unmoved, full, number, rfl⟩
      case isFalse free => exact refreshed.stands_conclude_next (Bool.eq_false_iff.mpr free)
  | synchronize => rfl

theorem Knows.stands_watch
    (knows : Knows limit seen allocator)
    (read : (lastNumber replies).isSome)
    (call : Call)
    (deadline : Binary64) :
    (allocator.watch call deadline).Stands limit origin replies := by
  unfold SequenceAllocator.watch
  split
  case isTrue => exact read
  case isFalse free => exact knows.stands_conclude (Bool.eq_false_iff.mpr free) read

theorem Knows.stands_await
    (knows : Knows limit seen allocator)
    (read : (lastNumber replies).isSome)
    (call : Call)
    (now : Binary64) :
    (allocator.await call now).Stands limit origin replies := by
  unfold SequenceAllocator.await
  split
  · exact knows.stands_watch read call _
  · trivial

theorem stands_settle
    (read : (lastNumber replies).isSome)
    (call : Call)
    (number last : Int) :
    (allocator.settle call number last).Stands limit origin replies := by
  unfold settle
  split <;> exact read

theorem Knows.stands_answered
    (positive : 1 ≤ limit)
    {phase : Phase}
    (knows : Knows limit seen allocator)
    (stands : phase.Stands origin allocator replies)
    (answer : phase.query.Answer) :
    (allocator.answered phase answer).Stands limit origin
      (replies ++ [⟨phase.query, .ok answer⟩]) := by
  cases phase with
  | seeding block =>
      -- After a first reading nothing is in flight, so the call ends with a number.
      have free : (allocator.reset answer).isPending (.next block) = false :=
        isPending_reset (knows.limit_eq ▸ positive) answer _
      have notFull : (allocator.reset answer).isFull = false := free
      simp only [SequenceAllocator.answered, SequenceAllocator.claim, notFull]
      exact (knows.reset answer).stands_conclude_next free
  | refreshing call =>
      obtain ⟨rfl, unmoved⟩ := stands
      exact knows.stands_prepare positive answer unmoved call
  | starting call =>
      have read := isSome_lastNumber_append stands [⟨.clock, .ok answer⟩]
      exact knows.stands_await read call answer
  | watching call deadline =>
      have read := isSome_lastNumber_append stands [⟨.clock, .ok answer⟩]
      simp only [SequenceAllocator.answered]
      split
      · exact stands_settle read call _ _
      · exact read
  | polling call deadline =>
      have read := isSome_lastNumber_append stands [.reading answer]
      exact (knows.refresh answer).stands_watch read call deadline
  | settling call number last =>
      have read := isSome_lastNumber_append stands [⟨.status number, .ok answer⟩]
      simp only [SequenceAllocator.answered]
      split
      · exact stands_settle read call _ _
      · exact read
  | reseeding call =>
      have read := isSome_lastNumber_append stands [.reading answer]
      have free := isPending_reset (knows.limit_eq ▸ positive) answer call
      exact (knows.reset answer).stands_conclude free read

theorem stands_refused
    {phase : Phase}
    (stands : phase.Stands origin allocator replies)
    (error : Error) :
    (allocator.refused phase error).Stands limit origin
      (replies ++ [⟨phase.query, .error error⟩]) := by
  unfold refused
  split
  case h_1 call number last =>
    have read := isSome_lastNumber_append stands [⟨.status number, .error error⟩]
    split
    · exact stands_settle read call _ _
    · trivial
  case h_2 => trivial

/-! ## Calls and runs -/

variable {history : List Record} {next : SequenceAllocator} {outcome : Outcome}

theorem Run.stands
    (positive : 1 ≤ limit)
    (run : Run limit wait history allocator)
    (conversed : Converses (allocator.start call) replies next outcome) :
    outcome.Stands limit allocator next replies := by
  refine run.keeps (fun own now => now.Stands limit allocator own) conversed ?_
    (run.knows.stands_start call)
  intro own before phase answer knows stands
  cases answer with
  | ok value => exact knows.stands_answered positive stands value
  | error error => exact stands_refused stands error

/-- The window is respected, whatever the node says and whichever request fails. Between calls the
counter is not behind the last reading. A number that is handed out is in the window that begins at
the last reading. A call gives up only if it is not to wait, after one reading that shows a full
window, and leaves the counter alone. A call to synchronize that does not fail leaves the counter
at the last reading. -/
theorem window_respected
    (positive : 1 ≤ limit)
    (run : Run limit wait history allocator) :
    knownNumber (repliesOf history) ≤ allocator.counter.next ∧
      ∀ {call replies next outcome}, Converses (allocator.start call) replies next outcome →
        (∀ number, outcome = .allocated number →
          knownNumber (repliesOf history ++ replies) ≤ number ∧
            number < knownNumber (repliesOf history ++ replies) + limit) ∧
        (outcome = .full →
          call = .next false ∧ next.counter = allocator.counter ∧
            ∃ number, replies = [.reading number] ∧ number + limit ≤ next.counter.next) ∧
        (call = .synchronize → (∀ error, outcome ≠ .failed error) →
          lastNumber (repliesOf history ++ replies) = some next.counter.next) := by
  refine ⟨?_, ?_⟩
  · rw [← run.knows.committed_eq]
    exact run.knows.committed_le
  intro call replies next outcome conversed
  have stands := run.stands positive conversed
  obtain ⟨knows, fits, allocated⟩ := run.informed conversed
  have committedEq : next.committed = knownNumber (repliesOf history ++ replies) :=
    knows.committed_eq
  refine ⟨?_, ?_, ?_⟩
  · rintro number rfl
    rw [← committedEq]
    exact ⟨(allocated number rfl).2, stands⟩
  · rintro rfl
    obtain ⟨unmoved, full, number, rfl⟩ := stands
    have committedNumber : next.committed = number := by
      simpa [knownNumber] using committedEq
    exact ⟨fits, unmoved, number, rfl, committedNumber ▸ full⟩
  · rintro rfl notFailed
    cases outcome with
    | allocated number =>
        obtain ⟨_, isNext⟩ := fits
        cases isNext
    | full => cases fits
    | synchronized =>
        obtain ⟨atCommitted, read⟩ := stands
        obtain ⟨number, found⟩ := Option.isSome_iff_exists.mp read
        have known : lastNumber (repliesOf history ++ replies) = some number := by simp [found]
        rw [atCommitted, committedEq, knownNumber, known]
        rfl
    | failed error => exact absurd rfl (notFailed error)

/-- With two numbers in flight and room for no other, a call that is not to wait gives up after a
reading that shows no progress. -/
theorem window_respected_twoInFlight :
    (1 : Int) ≤ 2 ∧ Run 2 (.int 3) twoCalls twoInFlight ∧
      ∃ next, Converses (twoInFlight.start (.next false)) [.reading 0] next .full ∧
        next.counter = twoInFlight.counter ∧
        ∃ number, [Reply.reading 0] = [.reading number] ∧ number + 2 ≤ next.counter.next := by
  have gaveUp : Converses (twoInFlight.start (.next false)) [.reading 0] twoInFlight .full :=
    .answered .ended
  have respected := (window_respected (by decide) run_twoInFlight).2 gaveUp
  obtain ⟨_, unmoved, full⟩ := respected.2.1 rfl
  exact ⟨by decide, run_twoInFlight, twoInFlight, gaveUp, unmoved, full⟩

end MoveClient.SequenceAllocator
