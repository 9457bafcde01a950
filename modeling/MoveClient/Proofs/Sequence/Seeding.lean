import MoveClient.Proofs.Sequence.Readings

/-!
The first reading of an allocator.

The first call for a number reads where the ledger stands. It counts as done from the moment it is
asked for: if the request fails, no later call for a number makes up for it before the window is
full. A wait that took too long makes such a reading as well, and then no call for a number needs
another one.

Owns:
- that no reply undoes that the first reading was asked for;
- that every number is handed out after a reading and is not behind the last one, except after a
  first reading that failed, and a run in which that happens.

Does not own: what an allocator knows after a reading; `MoveClient.Proofs.Sequence.Readings` does.
-/

namespace MoveClient.SequenceAllocator

variable {limit : Int} {wait : Value} {history : List Record} {allocator : SequenceAllocator}

/-! ## Whether the first reading was asked for -/

theorem seeded_conclude (allocator : SequenceAllocator) (call : Call) :
    (allocator.conclude call).allocator.seeded = allocator.seeded := by
  cases call <;> rfl

theorem seeded_claim (allocator : SequenceAllocator) (block : Bool) :
    (allocator.claim block).allocator.seeded = allocator.seeded := by
  unfold claim
  split
  · rfl
  · exact seeded_conclude allocator _

theorem seeded_prepare (allocator : SequenceAllocator) (call : Call) :
    (allocator.prepare call).allocator.seeded = allocator.seeded := by
  cases call with
  | next block =>
      simp only [prepare]
      split
      · split <;> rfl
      · exact seeded_conclude allocator _
  | synchronize => rfl

theorem seeded_watch (allocator : SequenceAllocator) (call : Call) (deadline : Binary64) :
    (allocator.watch call deadline).allocator.seeded = allocator.seeded := by
  unfold watch
  split
  · rfl
  · exact seeded_conclude allocator _

theorem seeded_await (allocator : SequenceAllocator) (call : Call) (now : Binary64) :
    (allocator.await call now).allocator.seeded = allocator.seeded := by
  unfold await
  split
  · exact seeded_watch allocator call _
  · rfl

theorem seeded_settle
    (seeded : allocator.seeded = true)
    (call : Call)
    (number last : Int) :
    (allocator.settle call number last).allocator.seeded = true := by
  unfold settle
  split
  · exact seeded
  · rfl

/-- Once the first reading was asked for, no reply undoes that. -/
theorem seeded_resume
    (seeded : allocator.seeded = true)
    (phase : Phase)
    (answer : Except Error phase.query.Answer) :
    (allocator.resume phase answer).allocator.seeded = true := by
  cases answer with
  | ok value =>
      cases phase with
      | seeding block => exact (seeded_claim (allocator.reset value) block).trans seeded
      | refreshing call => exact (seeded_prepare (allocator.refresh value) call).trans seeded
      | starting call => exact (seeded_await allocator call value).trans seeded
      | watching call deadline =>
          simp only [resume, answered]
          split
          · exact seeded_settle seeded call _ _
          · exact seeded
      | polling call deadline =>
          exact (seeded_watch (allocator.refresh value) call deadline).trans seeded
      | settling call number last =>
          simp only [resume, answered]
          split
          · exact seeded_settle seeded call _ _
          · exact seeded
      | reseeding call => exact (seeded_conclude (allocator.reset value) call).trans seeded
  | error error =>
      simp only [resume, refused]
      split
      · split
        · exact seeded_settle seeded _ _ _
        · exact seeded
      · exact seeded

theorem Converses.seeded
    {progress : Progress}
    {replies : List Reply}
    {final : SequenceAllocator}
    {outcome : Outcome}
    (conversed : Converses progress replies final outcome)
    (seeded : progress.allocator.seeded = true) :
    final.seeded = true := by
  let Seeded (_ : List Reply) (now : Progress) : Prop := now.allocator.seeded = true
  refine conversed.keeps Seeded [] ?_ seeded
  intro _ before phase answer seededBefore
  exact seeded_resume seededBefore phase answer

theorem seeded_start
    (seeded : allocator.seeded = true)
    (call : Call) :
    (allocator.start call).allocator.seeded = true := by
  cases call with
  | next block =>
      simp only [start, seeded, if_true]
      exact (seeded_claim allocator block).trans seeded
  | synchronize => exact seeded

theorem seeded_start_next (allocator : SequenceAllocator) (block : Bool) :
    (allocator.start (.next block)).allocator.seeded = true := by
  simp only [start]
  split
  case isTrue seeded => rw [seeded_claim, seeded]
  case isFalse => rfl

/-- A number is handed out only after the first reading was asked for. -/
theorem Run.seeded_of_allocated
    {record : Record}
    {number : Int}
    (run : Run limit wait history allocator)
    (member : record ∈ history)
    (allocated : record.outcome = .allocated number) :
    allocator.seeded = true := by
  induction run with
  | fresh => cases member
  | @call history allocator next call replies outcome run conversed inductionHypothesis =>
      cases call with
      | next block => exact conversed.seeded (seeded_start_next allocator block)
      | synchronize =>
          rcases List.mem_append.mp member with earlier | last
          · exact conversed.seeded (seeded_start (inductionHypothesis earlier) .synchronize)
          · obtain rfl := List.mem_singleton.mp last
            obtain rfl : outcome = .allocated number := allocated
            obtain ⟨_, isNext⟩ := (run.informed conversed).serves
            cases isNext

/-! ## The first call for a number -/

/-- A call for a number that ended when the first reading failed. -/
def Record.FailsToSeed (record : Record) : Prop :=
  ∃ block error, record = ⟨.next block, [⟨.committed, .error error⟩], .failed error⟩

/-- The first call for a number begins with a reading, or ends when that fails. -/
theorem Converses.seeds
    {block : Bool}
    {replies : List Reply}
    {next : SequenceAllocator}
    {outcome : Outcome}
    (conversed : Converses (allocator.start (.next block)) replies next outcome)
    (unseeded : allocator.seeded = false) :
    (lastNumber replies).isSome ∨ Record.FailsToSeed ⟨.next block, replies, outcome⟩ := by
  have begins : allocator.start (.next block) =
      .waiting { allocator with seeded := true } (.seeding block) := by
    simp [start, unseeded]
  rw [begins] at conversed
  cases conversed with
  | @answered _ _ _ answer rest _ continued =>
      cases answer with
      | ok number =>
          left
          show (lastNumber ([.reading number] ++ rest)).isSome
          simp
      | error error =>
          right
          cases continued
          exact ⟨block, error, rfl⟩

/-- A wait for all numbers begins with a reading, or ends where it began when that fails. -/
theorem Converses.reads_or_keeps
    {replies : List Reply}
    {next : SequenceAllocator}
    {outcome : Outcome}
    (conversed : Converses (allocator.start .synchronize) replies next outcome) :
    (lastNumber replies).isSome ∨ next = allocator := by
  have begins : allocator.start .synchronize = .waiting allocator (.refreshing .synchronize) := rfl
  rw [begins] at conversed
  cases conversed with
  | @answered _ _ _ answer rest _ continued =>
      cases answer with
      | ok number =>
          left
          show (lastNumber ([.reading number] ++ rest)).isSome
          simp
      | error error =>
          right
          cases continued
          rfl

/-- Once the first reading was asked for, there has been a reading, or that one failed. -/
theorem Run.read_or_failsToSeed
    (run : Run limit wait history allocator)
    (seeded : allocator.seeded = true) :
    (lastNumber (repliesOf history)).isSome ∨ ∃ record ∈ history, record.FailsToSeed := by
  induction run with
  | fresh => cases seeded
  | @call history allocator next call replies outcome run conversed inductionHypothesis =>
      cases before : allocator.seeded with
      | true =>
          rcases inductionHypothesis before with read | ⟨record, member, fails⟩
          · rw [repliesOf_append]
            exact .inl (isSome_lastNumber_append read _)
          · exact .inr ⟨record, List.mem_append_left _ member, fails⟩
      | false =>
          cases call with
          | next block =>
              rcases conversed.seeds before with read | fails
              · exact .inl (by simp [read])
              · exact .inr ⟨_, List.mem_append_right _ (List.mem_singleton_self _), fails⟩
          | synchronize =>
              rcases conversed.reads_or_keeps with read | rfl
              · exact .inl (by simp [read])
              · rw [before] at seeded
                cases seeded

/-- A number is handed out after a reading, and is not behind the last one; or nothing was read, as
an earlier call failed at the first reading, and the number counts from zero. -/
theorem allocated_after_reading
    {block : Bool}
    {replies : List Reply}
    {next : SequenceAllocator}
    {number : Int}
    (run : Run limit wait history allocator)
    (conversed : Converses (allocator.start (.next block)) replies next (.allocated number)) :
    (∃ known, lastNumber (repliesOf history ++ replies) = some known ∧ known ≤ number) ∨
      (lastNumber (repliesOf history ++ replies) = none ∧ 0 ≤ number ∧
        ∃ record ∈ history, record.FailsToSeed) := by
  obtain ⟨knows, _, allocated⟩ := run.informed conversed
  have committedEq : next.committed = knownNumber (repliesOf history ++ replies) :=
    knows.committed_eq
  have notBehind : next.committed ≤ number := (allocated number rfl).2
  rw [committedEq, knownNumber] at notBehind
  cases known : lastNumber (repliesOf history ++ replies) with
  | some last =>
      rw [known] at notBehind
      exact .inl ⟨last, rfl, notBehind⟩
  | none =>
      rw [known] at notBehind
      refine .inr ⟨rfl, notBehind, ?_⟩
      obtain ⟨noneNow, noneBefore⟩ : lastNumber replies = none ∧
          lastNumber (repliesOf history) = none := by simpa using known
      cases seeded : allocator.seeded with
      | true =>
          rcases run.read_or_failsToSeed seeded with read | fails
          · simp [noneBefore] at read
          · exact fails
      | false =>
          rcases conversed.seeds seeded with read | ⟨_, _, recordEq⟩
          · simp [noneNow] at read
          · cases recordEq

/-- A reading of seven comes before the number seven. -/
theorem allocated_after_reading_seven :
    ∃ known, lastNumber [.reading 7] = some known ∧ known ≤ 7 := by
  have conversed : Converses
      (({ maximumInFlight := 100, maximumWait := .int 0 } : SequenceAllocator).start (.next true))
      [.reading 7]
      { maximumInFlight := 100, maximumWait := .int 0, counter := ⟨8⟩, committed := 7,
        seeded := true }
      (.allocated 7) :=
    .answered .ended
  rcases allocated_after_reading .fresh conversed with read | ⟨unread, _⟩
  · exact read
  · cases unread

/-- The first reading fails, and the next call hands out zero without asking for anything. -/
theorem allocated_without_reading :
    ∃ allocator,
      Run 100 (.int 30)
        [⟨.next true, [⟨.committed, .error .emptyAnswer⟩], .failed .emptyAnswer⟩,
          ⟨.next true, [], .allocated 0⟩] allocator := by
  have fails : Run 100 (.int 30)
      ([] ++ [⟨.next true, [⟨.committed, .error .emptyAnswer⟩], .failed .emptyAnswer⟩])
      { maximumInFlight := 100, maximumWait := .int 30, seeded := true } :=
    Run.fresh.call (.answered .ended)
  exact ⟨_, fails.call .ended⟩

end MoveClient.SequenceAllocator
