import MoveClient.Proofs.Sequence.Calls

/-!
What an allocator knows of the ledger.

A reading is a reply that says which number comes next on the ledger. An allocator notes the last
reading, and its counter is never behind it.

Owns:
- the last reading among replies;
- that every reply keeps what an allocator knows, whatever the node says;
- that what every reply keeps, given what an allocator knows, holds at the end of a call.

Does not own: whether there was a reading before a number is handed out, which
`MoveClient.Proofs.Sequence.Seeding` says; how far a counter may be ahead, which
`MoveClient.Proofs.Sequence.Window` bounds.
-/

namespace MoveClient.SequenceAllocator

/-! ## Readings -/

/-- The number that a reply says comes next on the ledger. -/
def Reply.number? : Reply → Option Int
  | ⟨.committed, .ok number⟩ => some number
  | _ => none

/-- The last reading among replies. -/
def lastNumber (replies : List Reply) : Option Int :=
  (replies.filterMap Reply.number?).getLast?

/-- The last reading, and zero before the first one. -/
def knownNumber (replies : List Reply) : Int :=
  (lastNumber replies).getD 0

@[simp] theorem lastNumber_nil : lastNumber [] = none := rfl

@[simp] theorem lastNumber_append (left right : List Reply) :
    lastNumber (left ++ right) = (lastNumber right).or (lastNumber left) := by
  simp [lastNumber, List.getLast?_append]

@[simp] theorem lastNumber_cons (reply : Reply) (rest : List Reply) :
    lastNumber (reply :: rest) = (lastNumber rest).or reply.number? := by
  have alone : lastNumber [reply] = reply.number? := by
    cases found : reply.number? <;> simp [lastNumber, found]
  rw [← alone]
  exact lastNumber_append [reply] rest

@[simp] theorem number?_reading (number : Int) : (Reply.reading number).number? = some number := rfl

@[simp] theorem number?_error (query : Query) (error : Error) :
    Reply.number? ⟨query, .error error⟩ = none := by
  cases query <;> rfl

theorem isSome_lastNumber_append
    {left : List Reply}
    (read : (lastNumber left).isSome)
    (right : List Reply) :
    (lastNumber (left ++ right)).isSome := by
  rw [lastNumber_append, Option.isSome_or, read, Bool.or_true]

/-! ## What every reply keeps -/

/-- What an allocator with a limit knows after replies: it has noted the last reading, and its
counter is not behind. -/
structure Knows (limit : Int) (replies : List Reply) (allocator : SequenceAllocator) : Prop where
  limit_eq : allocator.maximumInFlight = limit
  committed_eq : allocator.committed = knownNumber replies
  committed_le : allocator.committed ≤ allocator.counter.next

/-- What is known where a call stands: the allocator knows the last reading, and a number that was
handed out is the one before the next, and not behind that reading. -/
structure Progress.Informed
    (limit : Int)
    (call : Call)
    (replies : List Reply)
    (progress : Progress) : Prop where
  knows : Knows limit replies progress.allocator
  serves : progress.Serves call
  allocated : ∀ number, progress.allocated? = some number →
    progress.allocator.counter.next = number + 1 ∧ progress.allocator.committed ≤ number

variable {limit : Int} {wait : Value} {replies : List Reply} {allocator : SequenceAllocator}
  {call : Call}

theorem Knows.informed
    {progress : Progress}
    (knows : Knows limit replies progress.allocator)
    (serves : progress.Serves call)
    (nothing : progress.allocated? = none) :
    progress.Informed limit call replies where
  knows := knows
  serves := serves
  allocated := by
    intro number isAllocated
    rw [nothing] at isAllocated
    cases isAllocated

theorem Knows.unread
    (knows : Knows limit replies allocator)
    {reply : Reply}
    (unread : reply.number? = none) :
    Knows limit (replies ++ [reply]) allocator where
  limit_eq := knows.limit_eq
  committed_eq := by simp [knownNumber, unread, knows.committed_eq]
  committed_le := knows.committed_le

theorem Knows.refresh
    (knows : Knows limit replies allocator)
    (number : Int) :
    Knows limit (replies ++ [.reading number]) (allocator.refresh number) where
  limit_eq := knows.limit_eq
  committed_eq := by simp [knownNumber, SequenceAllocator.refresh]
  committed_le := by
    simp only [SequenceAllocator.refresh]
    split
    · exact Int.le_refl _
    · omega

theorem Knows.reset
    (knows : Knows limit replies allocator)
    (number : Int) :
    Knows limit (replies ++ [.reading number]) (allocator.reset number) where
  limit_eq := knows.limit_eq
  committed_eq := by simp [knownNumber, SequenceAllocator.reset]
  committed_le := Int.le_refl _

theorem Knows.conclude
    (knows : Knows limit replies allocator)
    (call : Call) :
    (allocator.conclude call).Informed limit call replies := by
  cases call with
  | next block =>
      have ahead : allocator.committed ≤ allocator.counter.next := knows.committed_le
      refine ⟨⟨knows.limit_eq, knows.committed_eq, ?_⟩, ⟨block, rfl⟩, ?_⟩
      · show allocator.committed ≤ allocator.counter.next + 1
        omega
      · intro number isAllocated
        cases isAllocated
        exact ⟨rfl, ahead⟩
  | synchronize => exact Knows.informed knows rfl rfl

theorem Knows.claim
    (knows : Knows limit replies allocator)
    (block : Bool) :
    (allocator.claim block).Informed limit (.next block) replies := by
  unfold SequenceAllocator.claim
  split
  · exact Knows.informed knows rfl rfl
  · exact knows.conclude _

theorem Knows.prepare
    (knows : Knows limit replies allocator)
    (call : Call) :
    (allocator.prepare call).Informed limit call replies := by
  cases call with
  | next block =>
      simp only [SequenceAllocator.prepare]
      split
      · cases block with
        | true => exact Knows.informed knows rfl rfl
        | false => exact Knows.informed knows rfl rfl
      · exact knows.conclude _
  | synchronize => exact Knows.informed knows rfl rfl

theorem Knows.watch
    (knows : Knows limit replies allocator)
    (call : Call)
    (deadline : Binary64) :
    (allocator.watch call deadline).Informed limit call replies := by
  unfold SequenceAllocator.watch
  split
  · exact Knows.informed knows rfl rfl
  · exact knows.conclude _

theorem Knows.await
    (knows : Knows limit replies allocator)
    (call : Call)
    (now : Binary64) :
    (allocator.await call now).Informed limit call replies := by
  unfold SequenceAllocator.await
  split
  · exact knows.watch call _
  · exact Knows.informed knows trivial rfl

theorem Knows.settle
    (knows : Knows limit replies allocator)
    (call : Call)
    (number last : Int) :
    (allocator.settle call number last).Informed limit call replies := by
  unfold SequenceAllocator.settle
  split
  · exact Knows.informed knows rfl rfl
  · exact Knows.informed ⟨knows.limit_eq, knows.committed_eq, knows.committed_le⟩ rfl rfl

theorem Knows.start
    (knows : Knows limit replies allocator)
    (call : Call) :
    (allocator.start call).Informed limit call replies := by
  cases call with
  | next block =>
      simp only [SequenceAllocator.start]
      split
      · exact knows.claim block
      · exact Knows.informed ⟨knows.limit_eq, knows.committed_eq, knows.committed_le⟩ rfl rfl
  | synchronize => exact Knows.informed knows rfl rfl

/-- After an answer the allocator knows what it knew before, and a reading besides if the answer is
one. -/
theorem Knows.answered
    (knows : Knows limit replies allocator)
    (phase : Phase)
    (answer : phase.query.Answer) :
    (allocator.answered phase answer).Informed limit phase.call
      (replies ++ [⟨phase.query, .ok answer⟩]) := by
  cases phase with
  | seeding block => exact (knows.reset answer).claim block
  | refreshing call => exact (knows.refresh answer).prepare call
  | starting call => exact (knows.unread rfl).await call answer
  | watching call deadline =>
      have unread : Knows limit (replies ++ [⟨.clock, .ok answer⟩]) allocator := knows.unread rfl
      simp only [SequenceAllocator.answered]
      split
      · exact unread.settle call _ _
      · exact Knows.informed unread rfl rfl
  | polling call deadline => exact (knows.refresh answer).watch call deadline
  | settling call number last =>
      have unread : Knows limit (replies ++ [⟨.status number, .ok answer⟩]) allocator :=
        knows.unread rfl
      simp only [SequenceAllocator.answered]
      split
      · exact unread.settle call _ _
      · exact Knows.informed unread rfl rfl
  | reseeding call => exact (knows.reset answer).conclude call

theorem Knows.refused
    (knows : Knows limit replies allocator)
    (phase : Phase)
    (error : Error) :
    (allocator.refused phase error).Informed limit phase.call
      (replies ++ [⟨phase.query, .error error⟩]) := by
  have unread := knows.unread (number?_error phase.query error)
  unfold SequenceAllocator.refused
  split
  · split
    · exact unread.settle _ _ _
    · exact Knows.informed unread trivial rfl
  · exact Knows.informed unread trivial rfl

theorem Progress.Informed.resume
    {phase : Phase}
    (informed : (Progress.waiting allocator phase).Informed limit call replies)
    (answer : Except Error phase.query.Answer) :
    (allocator.resume phase answer).Informed limit call
      (replies ++ [⟨phase.query, answer⟩]) := by
  obtain ⟨knows, rfl, _⟩ := informed
  cases answer with
  | ok value => exact knows.answered phase value
  | error error => exact knows.refused phase error

/-! ## Calls and runs -/

theorem Progress.Informed.conversed
    {progress : Progress}
    {seen replies : List Reply}
    {final : SequenceAllocator}
    {outcome : Outcome}
    (informed : progress.Informed limit call seen)
    (conversed : Converses progress replies final outcome) :
    (Progress.ended final outcome).Informed limit call (seen ++ replies) :=
  conversed.keeps (fun replies now => now.Informed limit call replies) seen
    (fun _ _ _ answer informed => informed.resume answer) informed

variable {history : List Record} {next : SequenceAllocator} {outcome : Outcome}

/-- Between calls an allocator knows the last reading of its whole history. -/
theorem Run.knows
    (run : Run limit wait history allocator) :
    Knows limit (repliesOf history) allocator := by
  induction run with
  | fresh => exact ⟨rfl, rfl, Int.le_refl _⟩
  | call _ conversed inductionHypothesis =>
      rw [repliesOf_append, repliesOf_cons, repliesOf_nil, List.append_nil]
      exact ((inductionHypothesis.start _).conversed conversed).knows

theorem Run.informed
    (run : Run limit wait history allocator)
    (conversed : Converses (allocator.start call) replies next outcome) :
    (Progress.ended next outcome).Informed limit call (repliesOf history ++ replies) :=
  (run.knows.start call).conversed conversed

/-- What every reply keeps of a call in a run, given what its allocator knows, holds at its end. -/
theorem Run.keeps
    (Holds : List Reply → Progress → Prop)
    (run : Run limit wait history allocator)
    (conversed : Converses (allocator.start call) replies next outcome)
    (step : ∀ own before phase answer, Knows limit (repliesOf history ++ own) before →
      Holds own (.waiting before phase) →
        Holds (own ++ [⟨phase.query, answer⟩]) (before.resume phase answer))
    (begins : Holds [] (allocator.start call)) :
    Holds replies (.ended next outcome) := by
  let Both (own : List Reply) (now : Progress) : Prop :=
    now.Informed limit call (repliesOf history ++ own) ∧ Holds own now
  have both : Both [] (allocator.start call) := by
    refine ⟨?_, begins⟩
    rw [List.append_nil]
    exact run.knows.start call
  have ends : Both ([] ++ replies) (.ended next outcome) := by
    refine conversed.keeps Both [] ?_ both
    intro own before phase answer ⟨informed, holds⟩
    refine ⟨?_, step own before phase answer informed.knows holds⟩
    rw [← List.append_assoc]
    exact informed.resume answer
  exact ends.2

end MoveClient.SequenceAllocator
