import Mathlib.Data.List.Induction
import MoveClient.Sequence.Session

/-!
Calls of an allocator, with what the node replied.

A call is carried through by replies to its queries, and the next call starts where it left the
allocator, also if it failed. The replies are arbitrary: a node may say anything, and any request
may fail.

Owns:
- `Converses`, the calls that replies carry through, and `Run`, the calls of one allocator;
- that what every reply keeps is kept by whole calls;
- that the calls of the driver are calls of a run.

Does not own: what holds of runs; the other modules on allocators derive it from the replies.
-/

namespace MoveClient.SequenceAllocator

/-- A query with its answer, or with the failure of its request. -/
structure Reply where
  query : Query
  answer : Except Error query.Answer

/-- The reply that a number comes next on the ledger. -/
def Reply.reading (number : Int) : Reply := ⟨.committed, .ok number⟩

/-- The call that a phase is part of. -/
def Phase.call : Phase → Call
  | seeding block => .next block
  | refreshing call | starting call | watching call _ | polling call _ | settling call _ _
  | reseeding call => call

/-- Whether a call may end with an outcome. -/
def Outcome.Fits (call : Call) : Outcome → Prop
  | allocated _ => ∃ block, call = .next block
  | full => call = .next false
  | synchronized => call = .synchronize
  | failed _ => True

/-- The number that a call has handed out. -/
def Progress.allocated? : Progress → Option Int
  | .ended _ (.allocated number) => some number
  | _ => none

/-- Whether something is the progress of a call. -/
def Progress.Serves (call : Call) : Progress → Prop
  | .waiting _ phase => phase.call = call
  | .ended _ outcome => outcome.Fits call

/-! ## Calls -/

/-- A call that replies carry through, with the allocator that it leaves and its outcome. -/
inductive Converses : Progress → List Reply → SequenceAllocator → Outcome → Prop
  | ended
      {allocator : SequenceAllocator}
      {outcome : Outcome} :
      Converses (.ended allocator outcome) [] allocator outcome
  | answered
      {allocator final : SequenceAllocator}
      {phase : Phase}
      {answer : Except Error phase.query.Answer}
      {replies : List Reply}
      {outcome : Outcome}
      (rest : Converses (allocator.resume phase answer) replies final outcome) :
      Converses (.waiting allocator phase) (⟨phase.query, answer⟩ :: replies) final outcome

/-- What every reply keeps, a whole call keeps. -/
theorem Converses.keeps
    (Holds : List Reply → Progress → Prop)
    (seen : List Reply)
    {progress : Progress}
    {replies : List Reply}
    {final : SequenceAllocator}
    {outcome : Outcome}
    (conversed : Converses progress replies final outcome)
    (step : ∀ seen allocator phase answer, Holds seen (.waiting allocator phase) →
      Holds (seen ++ [⟨phase.query, answer⟩]) (allocator.resume phase answer))
    (holds : Holds seen progress) :
    Holds (seen ++ replies) (.ended final outcome) := by
  induction conversed generalizing seen with
  | ended => simpa using holds
  | answered rest inductionHypothesis =>
      rw [List.append_cons]
      exact inductionHypothesis _ (step _ _ _ _ holds)

/-! ## Runs -/

/-- A call that has ended. -/
structure Record where
  call : Call
  replies : List Reply
  outcome : Outcome

/-- All replies of a history, in order. -/
def repliesOf (history : List Record) : List Reply :=
  history.flatMap Record.replies

@[simp] theorem repliesOf_nil : repliesOf [] = [] := rfl

@[simp] theorem repliesOf_append (left right : List Record) :
    repliesOf (left ++ right) = repliesOf left ++ repliesOf right :=
  List.flatMap_append

@[simp] theorem repliesOf_cons (record : Record) (rest : List Record) :
    repliesOf (record :: rest) = record.replies ++ repliesOf rest :=
  List.flatMap_cons

/-- The allocator after a history of calls; at its beginning it has nothing but its limits. -/
inductive Run (limit : Int) (wait : Value) : List Record → SequenceAllocator → Prop
  | fresh : Run limit wait [] { maximumInFlight := limit, maximumWait := wait }
  | call
      {history : List Record}
      {allocator next : SequenceAllocator}
      {call : Call}
      {replies : List Reply}
      {outcome : Outcome}
      (run : Run limit wait history allocator)
      (conversed : Converses (allocator.start call) replies next outcome) :
      Run limit wait (history ++ [⟨call, replies, outcome⟩]) next

/-- Two calls for a number without anything committed between them. -/
def twoCalls : List Record :=
  [⟨.next true, [.reading 0], .allocated 0⟩, ⟨.next true, [], .allocated 1⟩]

/-- An allocator with two numbers in flight and room for no other. -/
def twoInFlight : SequenceAllocator :=
  { maximumInFlight := 2, maximumWait := .int 3, counter := ⟨2⟩, committed := 0, seeded := true }

theorem run_twoInFlight : Run 2 (.int 3) twoCalls twoInFlight := by
  have first : Converses
      (({ maximumInFlight := 2, maximumWait := .int 3 } : SequenceAllocator).start (.next true))
      [.reading 0] { twoInFlight with counter := ⟨1⟩ } (.allocated 0) :=
    .answered .ended
  have second : Converses ({ twoInFlight with counter := ⟨1⟩ }.start (.next true))
      [] twoInFlight (.allocated 1) :=
    .ended
  exact (Run.fresh.call first).call second

variable {limit : Int} {wait : Value} {history : List Record} {allocator : SequenceAllocator}

/-- The last call of a run. -/
theorem Run.of_concat
    {record : Record}
    (run : Run limit wait (history ++ [record]) allocator) :
    ∃ before, Run limit wait history before ∧
      Converses (before.start record.call) record.replies allocator record.outcome := by
  generalize whole : history ++ [record] = longer at run
  cases run with
  | fresh => simp at whole
  | @call earlier before _ call replies outcome run conversed =>
      obtain ⟨rfl, recordEq⟩ := List.append_inj' whole rfl
      obtain rfl : record = ⟨call, replies, outcome⟩ := by simpa using recordEq
      exact ⟨before, run, conversed⟩

/-- The beginning of a run is a run. -/
theorem Run.of_append
    {earlier later : List Record}
    (run : Run limit wait (earlier ++ later) allocator) :
    ∃ before, Run limit wait earlier before := by
  induction later using List.reverseRecOn generalizing allocator with
  | nil => exact ⟨allocator, by simpa using run⟩
  | append_singleton later record inductionHypothesis =>
      rw [← List.append_assoc] at run
      obtain ⟨before, run, _⟩ := run.of_concat
      exact inductionHypothesis run

/-! ## The driver -/

theorem converses_of_converse
    {σ : Type}
    {node : (query : Query) → σ → Except Error query.Answer × σ}
    {fuel : Nat}
    {progress : Progress}
    {state rest : σ}
    {final : SequenceAllocator}
    {outcome : Outcome}
    (ended : progress.converse node fuel state = (.ended final outcome, rest)) :
    ∃ replies, Converses progress replies final outcome := by
  induction fuel generalizing progress state with
  | zero =>
      cases progress with
      | waiting => cases ended
      | ended =>
          cases ended
          exact ⟨[], .ended⟩
  | succ fuel inductionHypothesis =>
      cases progress with
      | waiting before phase =>
          obtain ⟨replies, conversed⟩ := inductionHypothesis ended
          exact ⟨_, .answered conversed⟩
      | ended =>
          cases ended
          exact ⟨[], .ended⟩

/-- A call that the driver carries through with a node is a call of a run. -/
theorem Run.converse
    {σ : Type}
    {node : (query : Query) → σ → Except Error query.Answer × σ}
    {fuel : Nat}
    {call : Call}
    {state rest : σ}
    {next : SequenceAllocator}
    {outcome : Outcome}
    (run : Run limit wait history allocator)
    (ended : (allocator.start call).converse node fuel state = (.ended next outcome, rest)) :
    ∃ replies, Run limit wait (history ++ [⟨call, replies, outcome⟩]) next := by
  obtain ⟨replies, conversed⟩ := converses_of_converse ended
  exact ⟨replies, run.call conversed⟩

end MoveClient.SequenceAllocator
