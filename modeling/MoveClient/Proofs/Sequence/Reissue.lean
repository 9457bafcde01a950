import MoveClient.Proofs.Sequence.Seeding

/-!
Numbers that are handed out again.

A counter goes back only when everything in flight was settled and the ledger was read again. A
node that does not go back on what it said reads past every number that it called committed, so
what lies behind the reading it did not know.

Owns:
- `Consistent`, the replies of a node that does not go back on what it said;
- `Progress.Accounts`, that the numbers a call goes back over are settled;
- that a number is handed out a second time only after the node was asked for it and did not know
  it.

Does not own: nodes that contradict themselves; `MoveClient.Proofs.Sequence.Window` covers them.
-/

namespace MoveClient.SequenceAllocator

/-! ## Nodes that do not go back on what they said -/

/-- The reply that the transaction with a number is committed. -/
def Reply.confirmed (number : Int) : Reply := ⟨.status number, .ok true⟩

/-- A reply does not go back on an earlier one: a reading is not behind an earlier reading, and is
past every number that was called committed. -/
def Reply.Upholds (later earlier : Reply) : Prop :=
  ∀ reading, later.number? = some reading →
    (∀ known, earlier.number? = some known → known ≤ reading) ∧
      ∀ number, earlier = .confirmed number → number < reading

/-- No reply goes back on an earlier one. -/
def Consistent (replies : List Reply) : Prop :=
  replies.Pairwise fun earlier later => later.Upholds earlier

variable {limit ceiling number : Int} {wait : Value} {allocator : SequenceAllocator} {call : Call}
  {seen own replies : List Reply}

theorem Consistent.of_append
    {later : List Reply}
    (consistent : Consistent (replies ++ later)) :
    Consistent replies :=
  (List.pairwise_append.mp consistent).1

theorem Consistent.upholds
    (consistent : Consistent (replies ++ [.reading number]))
    {earlier : Reply}
    (member : earlier ∈ replies) :
    (Reply.reading number).Upholds earlier :=
  (List.pairwise_append.mp consistent).2.2 earlier member _ (List.mem_singleton_self _)

theorem exists_mem_of_lastNumber
    (found : lastNumber replies = some number) :
    ∃ reply ∈ replies, reply.number? = some number :=
  List.mem_filterMap.mp (List.mem_of_getLast? found)

theorem Consistent.lastNumber_le
    {known : Int}
    (consistent : Consistent (replies ++ [.reading number]))
    (found : lastNumber replies = some known) :
    known ≤ number := by
  obtain ⟨earlier, member, reads⟩ := exists_mem_of_lastNumber found
  exact (consistent.upholds member number rfl).1 known reads

theorem Consistent.confirmed_lt
    {settled : Int}
    (consistent : Consistent (replies ++ [.reading number]))
    (confirmed : .confirmed settled ∈ replies) :
    settled < number :=
  (consistent.upholds confirmed number rfl).2 settled rfl

/-! ## Settled numbers -/

/-- The node was asked for the transaction with a number and did not know it. -/
def Disowned (number : Int) (replies : List Reply) : Prop :=
  ∃ error, isUnknown error = true ∧ (⟨.status number, .error error⟩ : Reply) ∈ replies

/-- The node said that the transaction with a number is committed, or did not know it. -/
def Settled (number : Int) (replies : List Reply) : Prop :=
  .confirmed number ∈ replies ∨ Disowned number replies

theorem Disowned.append
    (disowned : Disowned number replies)
    (later : List Reply) :
    Disowned number (replies ++ later) := by
  obtain ⟨error, unknown, member⟩ := disowned
  exact ⟨error, unknown, List.mem_append_left _ member⟩

theorem Settled.append
    (settled : Settled number replies)
    (later : List Reply) :
    Settled number (replies ++ later) :=
  settled.imp (List.mem_append_left _) fun disowned => disowned.append later

/-- When a number is settled after all before it, all up to it are. -/
theorem Settled.upto
    {least : Int}
    {reply : Reply}
    (now : Settled number (replies ++ [reply]))
    (before : ∀ settled, least ≤ settled → settled < number → Settled settled replies)
    {candidate : Int}
    (atLeast : least ≤ candidate)
    (below : candidate < number + 1) :
    Settled candidate (replies ++ [reply]) := by
  by_cases isNumber : candidate = number
  · rw [isNumber]
    exact now
  · exact (before candidate atLeast (by omega)).append _

/-! ## What a call goes back over -/

/-- What a phase means for the numbers in flight. While they are settled one after another, those
before the one that is asked for are settled. -/
def Phase.Accounts (allocator : SequenceAllocator) (replies : List Reply) : Phase → Prop
  | .seeding _ => False
  | .refreshing _ => True
  | .starting _ | .watching .. | .polling .. => (lastNumber replies).isSome
  | .settling _ number last =>
      (lastNumber replies).isSome ∧ last = allocator.counter.next ∧
        ∀ settled, allocator.committed ≤ settled → settled < number → Settled settled replies
  | .reseeding _ =>
      (lastNumber replies).isSome ∧
        ∀ settled, allocator.committed ≤ settled → settled < allocator.counter.next →
          Settled settled replies

/-- The least number that a call has handed out or that comes next. -/
def Progress.floor (progress : Progress) : Int :=
  progress.allocated?.getD progress.allocator.counter.next

/-- A call that began with the counter at `ceiling` does not go back while it waits, and at its end
only over numbers that the node did not know. -/
def Progress.Accounts (ceiling : Int) (replies : List Reply) : Progress → Prop
  | .waiting allocator phase =>
      ceiling ≤ allocator.counter.next ∧ phase.Accounts allocator replies
  | .ended allocator outcome =>
      ∀ number, (Progress.ended allocator outcome).floor ≤ number → number < ceiling →
        Disowned number replies

theorem accounts_conclude
    (disowned : ∀ number, allocator.counter.next ≤ number → number < ceiling →
      Disowned number replies) :
    (allocator.conclude call).Accounts ceiling replies := by
  cases call <;> exact disowned

theorem accounts_conclude_of_le
    (ahead : ceiling ≤ allocator.counter.next) :
    (allocator.conclude call).Accounts ceiling replies := by
  apply accounts_conclude
  intro number above below
  omega

theorem accounts_claim
    (ahead : ceiling ≤ allocator.counter.next)
    (block : Bool) :
    (allocator.claim block).Accounts ceiling replies := by
  unfold claim
  split
  · exact ⟨ahead, trivial⟩
  · exact accounts_conclude_of_le ahead

theorem accounts_prepare
    (ahead : ceiling ≤ allocator.counter.next)
    (read : (lastNumber replies).isSome)
    (call : Call) :
    (allocator.prepare call).Accounts ceiling replies := by
  cases call with
  | next block =>
      simp only [prepare]
      split
      · cases block with
        | true => exact ⟨ahead, read⟩
        | false =>
            intro number above below
            have notBack : allocator.counter.next ≤ number := above
            omega
      · exact accounts_conclude_of_le ahead
  | synchronize => exact ⟨ahead, read⟩

theorem accounts_watch
    (ahead : ceiling ≤ allocator.counter.next)
    (read : (lastNumber replies).isSome)
    (call : Call)
    (deadline : Binary64) :
    (allocator.watch call deadline).Accounts ceiling replies := by
  unfold watch
  split
  · exact ⟨ahead, read⟩
  · exact accounts_conclude_of_le ahead

theorem accounts_await
    (ahead : ceiling ≤ allocator.counter.next)
    (read : (lastNumber replies).isSome)
    (call : Call)
    (now : Binary64) :
    (allocator.await call now).Accounts ceiling replies := by
  unfold await
  split
  · exact accounts_watch ahead read call _
  · intro number above below
    have notBack : allocator.counter.next ≤ number := above
    omega

theorem accounts_settle
    (ahead : ceiling ≤ allocator.counter.next)
    (read : (lastNumber replies).isSome)
    (settled : ∀ settled, allocator.committed ≤ settled → settled < number →
      Settled settled replies)
    (call : Call) :
    (allocator.settle call number allocator.counter.next).Accounts ceiling replies := by
  unfold settle
  split
  case isTrue => exact ⟨ahead, read, rfl, settled⟩
  case isFalse finished =>
    refine ⟨ahead, read, ?_⟩
    intro candidate atLeast below
    have belowCounter : candidate < allocator.counter.next := below
    exact settled candidate atLeast (by omega)

theorem le_counter_refresh
    (ahead : ceiling ≤ allocator.counter.next)
    (number : Int) :
    ceiling ≤ (allocator.refresh number).counter.next := by
  unfold refresh
  by_cases behind : allocator.counter.next < number
  · simp only [behind, if_true]
    omega
  · simpa only [behind, if_false] using ahead

/-- Past its first reading a call has a reading to go by. -/
theorem Knows.lastNumber_eq
    (knows : Knows limit (seen ++ own) allocator)
    (read : (lastNumber own).isSome) :
    lastNumber (seen ++ own) = some allocator.committed := by
  obtain ⟨known, found⟩ := Option.isSome_iff_exists.mp read
  rw [knows.committed_eq, knownNumber, lastNumber_append, found]
  rfl

/-- A reading after everything was settled goes back only over numbers that the node did not
know. -/
theorem accounts_reseeded
    (knows : Knows limit (seen ++ own) allocator)
    (consistent : Consistent (seen ++ own ++ [.reading number]))
    (ahead : ceiling ≤ allocator.counter.next)
    (read : (lastNumber own).isSome)
    (settled : ∀ settled, allocator.committed ≤ settled → settled < allocator.counter.next →
      Settled settled own) :
    ((allocator.reset number).conclude call).Accounts ceiling (own ++ [.reading number]) := by
  have notBack : allocator.committed ≤ number :=
    consistent.lastNumber_le (knows.lastNumber_eq read)
  apply accounts_conclude
  intro candidate above below
  have atLeast : number ≤ candidate := above
  rcases settled candidate (by omega) (by omega) with confirmed | disowned
  · have past : candidate < number :=
      consistent.confirmed_lt (List.mem_append_right seen confirmed)
    omega
  · exact disowned.append _

theorem Knows.accounts_answered
    {phase : Phase}
    (knows : Knows limit (seen ++ own) allocator)
    (accounts : (Progress.waiting allocator phase).Accounts ceiling own)
    (answer : phase.query.Answer)
    (consistent : Consistent (seen ++ (own ++ [⟨phase.query, .ok answer⟩]))) :
    (allocator.answered phase answer).Accounts ceiling
      (own ++ [⟨phase.query, .ok answer⟩]) := by
  obtain ⟨ahead, accounts⟩ := accounts
  rw [← List.append_assoc] at consistent
  cases phase with
  | seeding block => exact accounts.elim
  | refreshing call =>
      have read : (lastNumber (own ++ [.reading answer])).isSome := by simp
      exact accounts_prepare (le_counter_refresh ahead answer) read call
  | starting call =>
      have read := isSome_lastNumber_append accounts [⟨.clock, .ok answer⟩]
      exact accounts_await ahead read call answer
  | watching call deadline =>
      have read := isSome_lastNumber_append accounts [⟨.clock, .ok answer⟩]
      simp only [SequenceAllocator.answered]
      split
      · apply accounts_settle ahead read
        intro settled atLeast below
        omega
      · exact ⟨ahead, read⟩
  | polling call deadline =>
      have read : (lastNumber (own ++ [.reading answer])).isSome := by simp
      exact accounts_watch (le_counter_refresh ahead answer) read call deadline
  | settling call number last =>
      obtain ⟨before, rfl, settled⟩ := accounts
      have read := isSome_lastNumber_append before [⟨.status number, .ok answer⟩]
      simp only [SequenceAllocator.answered]
      split
      case isTrue committed =>
        have isTrue : answer = true := committed
        have now : Settled number (own ++ [⟨.status number, .ok answer⟩]) := by
          left
          rw [isTrue]
          exact List.mem_append_right _ (List.mem_singleton_self _)
        exact accounts_settle ahead read (fun _ => now.upto settled) call
      case isFalse =>
        refine ⟨ahead, read, rfl, ?_⟩
        intro candidate atLeast below
        exact (settled candidate atLeast below).append _
  | reseeding call =>
      -- Only here does a counter go back, and here consistency of the node is needed.
      obtain ⟨read, settled⟩ := accounts
      exact accounts_reseeded knows consistent ahead read settled

theorem accounts_refused
    {phase : Phase}
    (accounts : (Progress.waiting allocator phase).Accounts ceiling own)
    (error : Error) :
    (allocator.refused phase error).Accounts ceiling
      (own ++ [⟨phase.query, .error error⟩]) := by
  obtain ⟨ahead, accounts⟩ := accounts
  have failed : (Progress.ended allocator (.failed error)).Accounts ceiling
      (own ++ [⟨phase.query, .error error⟩]) := by
    intro number above below
    have notBack : allocator.counter.next ≤ number := above
    omega
  unfold refused
  split
  case h_1 call number last =>
    obtain ⟨before, rfl, settled⟩ := accounts
    split
    case isTrue unknown =>
      have now : Settled number (own ++ [⟨.status number, .error error⟩]) :=
        .inr ⟨error, unknown, List.mem_append_right _ (List.mem_singleton_self _)⟩
      have read := isSome_lastNumber_append before [⟨.status number, .error error⟩]
      exact accounts_settle ahead read (fun _ => now.upto settled) call
    case isFalse => exact failed
  case h_2 => exact failed

/-! ## Calls and runs -/

variable {history : List Record} {next : SequenceAllocator} {outcome : Outcome}

/-- With a consistent node, a call goes back only over numbers that the node did not know. -/
theorem Run.disowned_of_lt
    (run : Run limit wait history allocator)
    (seeded : allocator.seeded = true)
    (conversed : Converses (allocator.start call) replies next outcome)
    (consistent : Consistent (repliesOf history ++ replies))
    (above : (Progress.ended next outcome).floor ≤ number)
    (below : number < allocator.counter.next) :
    Disowned number replies := by
  have begins : (allocator.start call).Accounts allocator.counter.next [] := by
    cases call with
    | next block =>
        simp only [start, seeded, if_true]
        exact accounts_claim (Int.le_refl _) block
    | synchronize => exact ⟨Int.le_refl _, trivial⟩
  let Accounted (own : List Reply) (now : Progress) : Prop :=
    Consistent (repliesOf history ++ own) → now.Accounts allocator.counter.next own
  have ends : Accounted replies (.ended next outcome) := by
    refine run.keeps Accounted conversed ?_ fun _ => begins
    intro own before phase answer knows accounts longer
    have shorter : Consistent (repliesOf history ++ own) := by
      rw [← List.append_assoc] at longer
      exact longer.of_append
    cases answer with
    | ok value => exact knows.accounts_answered (accounts shorter) value longer
    | error error => exact accounts_refused (accounts shorter) error
  exact ends consistent number above below

theorem Progress.Informed.floor_le
    {progress : Progress}
    (informed : progress.Informed limit call replies) :
    progress.floor ≤ progress.allocator.counter.next := by
  unfold Progress.floor
  cases handedOut : progress.allocated? with
  | none => exact Int.le_refl _
  | some number =>
      have follows := (informed.allocated number handedOut).1
      show number ≤ progress.allocator.counter.next
      omega

/-- With a consistent node, a number that was handed out and is not behind the counter was asked
for since, and not known. -/
theorem Run.disowned_since
    (run : Run limit wait history allocator)
    (consistent : Consistent (repliesOf history))
    {before behind : List Record}
    {record : Record}
    (historyEq : history = before ++ record :: behind)
    (allocated : record.outcome = .allocated number)
    (notBehind : allocator.counter.next ≤ number) :
    ∃ later ∈ behind, Disowned number later.replies := by
  induction run generalizing behind with
  | fresh => simp at historyEq
  | @call history allocator next call replies outcome run conversed inductionHypothesis =>
      have informed := run.informed conversed
      rcases List.eq_nil_or_concat behind with rfl | ⟨earlier, last, rfl⟩
      · obtain ⟨_, lastEq⟩ := List.append_inj' historyEq rfl
        obtain rfl : ⟨call, replies, outcome⟩ = record := by simpa using lastEq
        obtain rfl : outcome = .allocated number := allocated
        have follows : next.counter.next = number + 1 := (informed.allocated number rfl).1
        omega
      · rw [List.concat_eq_append] at historyEq ⊢
        rw [← List.cons_append, ← List.append_assoc] at historyEq
        obtain ⟨rfl, lastEq⟩ := List.append_inj' historyEq rfl
        obtain rfl : ⟨call, replies, outcome⟩ = last := by simpa using lastEq
        have consistentNow : Consistent
            (repliesOf (before ++ record :: earlier) ++ replies) := by
          simpa using consistent
        -- Either the last call went back over the number, or a call before it did.
        by_cases back : number < allocator.counter.next
        · have isEarlier : record ∈ before ++ record :: earlier := by simp
          have seeded : allocator.seeded = true := run.seeded_of_allocated isEarlier allocated
          have above : (Progress.ended next outcome).floor ≤ number :=
            Int.le_trans informed.floor_le notBehind
          have disowned := run.disowned_of_lt seeded conversed consistentNow above back
          exact ⟨_, List.mem_append_right _ (List.mem_singleton_self _), disowned⟩
        · obtain ⟨later, member, disowned⟩ :=
            inductionHypothesis consistentNow.of_append rfl (by omega)
          exact ⟨later, List.mem_append_left _ member, disowned⟩

/-- With a node that does not go back on what it said, a number is handed out by two calls only if
in between, after the first call and before the second one ends, the node was asked for it and did
not know it. -/
theorem reissued_only_if_disowned
    (run : Run limit wait history allocator)
    (consistent : Consistent (repliesOf history))
    {before middle behind : List Record}
    {first second : Record}
    (historyEq : history = before ++ first :: (middle ++ second :: behind))
    (firstOutcome : first.outcome = .allocated number)
    (secondOutcome : second.outcome = .allocated number) :
    ∃ record ∈ middle ++ [second], Disowned number record.replies := by
  have split : history = (before ++ first :: middle ++ [second]) ++ behind := by
    simp [historyEq]
  rw [split] at run consistent
  obtain ⟨after, run⟩ := run.of_append
  obtain ⟨between, run, conversed⟩ := run.of_concat
  have consistentNow : Consistent
      (repliesOf (before ++ first :: middle) ++ second.replies) := by
    rw [repliesOf_append] at consistent
    simpa using consistent.of_append
  by_cases back : number < between.counter.next
  · have isEarlier : first ∈ before ++ first :: middle := by simp
    have seeded : between.seeded = true := run.seeded_of_allocated isEarlier firstOutcome
    rw [secondOutcome] at conversed
    have disowned : Disowned number second.replies :=
      run.disowned_of_lt seeded conversed consistentNow (Int.le_refl number) back
    exact ⟨second, List.mem_append_right _ (List.mem_singleton_self _), disowned⟩
  · obtain ⟨record, member, disowned⟩ :=
      run.disowned_since consistentNow.of_append rfl firstOutcome (by omega)
    exact ⟨record, List.mem_append_left _ member, disowned⟩

/-- What a node says that does not know a transaction. -/
def unknown : Error := .api (.ofMessage "not found" 404)

/-- A call that waits in vain with two numbers in flight: the node knows neither of them. -/
def stalledCall : Record where
  call := .next true
  replies :=
    [.reading 0, ⟨.clock, .ok (.ofInt 1)⟩, ⟨.clock, .ok (.ofInt 5)⟩, ⟨.status 0, .error unknown⟩,
      ⟨.status 1, .error unknown⟩, .reading 0]
  outcome := .allocated 0

theorem run_stalledCall :
    Run 2 (.int 3) (twoCalls ++ [stalledCall]) { twoInFlight with counter := ⟨1⟩ } := by
  have conversed : Converses (twoInFlight.start stalledCall.call) stalledCall.replies
      { twoInFlight with counter := ⟨1⟩ } stalledCall.outcome :=
    .answered (.answered (.answered (.answered (.answered (.answered .ended)))))
  exact run_twoInFlight.call conversed

theorem consistent_stalledCall : Consistent (repliesOf (twoCalls ++ [stalledCall])) := by
  simp [Consistent, Reply.Upholds, twoCalls, stalledCall, Reply.confirmed, Reply.reading,
    Reply.number?]

/-- Zero is handed out a second time when the node did not know it. -/
theorem reissued_only_if_disowned_stalledCall :
    Run 2 (.int 3) (twoCalls ++ [stalledCall]) { twoInFlight with counter := ⟨1⟩ } ∧
      Consistent (repliesOf (twoCalls ++ [stalledCall])) ∧
      ∃ record ∈ [⟨.next true, [], .allocated 1⟩] ++ [stalledCall], Disowned 0 record.replies :=
  ⟨run_stalledCall, consistent_stalledCall,
    reissued_only_if_disowned run_stalledCall consistent_stalledCall
      (show twoCalls ++ [stalledCall] =
        [] ++ ⟨.next true, [.reading 0], .allocated 0⟩ ::
          ([⟨.next true, [], .allocated 1⟩] ++ stalledCall :: []) from rfl)
      rfl rfl⟩

end MoveClient.SequenceAllocator
