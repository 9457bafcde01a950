import MoveClient.Proofs.Pipeline.Schedule
import MoveClient.Proofs.Transaction.Building

/-!
The numbers of a pipeline's transactions.

To its callers, a pipeline is a counter. They set it, and a transaction with a sequence number takes
the number that the counter stands at and moves it by one. The builder has its counter from the
ledger, and keeps the numbers that callers set on its desk until it takes the next submission. A
submission that cannot be built leaves the counter where it is, unless that is noticed too late:
additional signers are listed only when the number has been taken.

Owns:
- `CounterStep`, what a caller and a built submission do to the counter;
- the events of a schedule: what callers set and what the builder built;
- that the events of every schedule are a run of the counter from the ledger's number.

Does not own: that a transaction can be built; `MoveClient.Proofs.Transaction.Building` does.
-/

namespace MoveClient

/-! ## Submissions without a number -/

namespace Submission

/-- The options that came with a submission, or those for submissions without any. -/
def givenOptions (source : PipelineSource) (submission : Submission) :
    Except Error TransactionOptions :=
  match submission.options with
  | some options => .ok options
  | none => source.defaults

/-- Whether the payload or the options have a nonce. -/
def isOrderless (source : PipelineSource) (submission : Submission) : Bool :=
  submission.payload.nonce.isSome ||
    (submission.givenOptions source).toOption.any fun options => options.nonce.isSome

theorem optionsFor_eq_bind
    (source : PipelineSource)
    (submission : Submission) :
    BuilderDesk.optionsFor source submission =
      (submission.givenOptions source).bind submission.kind.restrict := by
  unfold BuilderDesk.optionsFor givenOptions
  cases submission.options <;> rfl

/-- What the kind of a submission makes of its options keeps the nonce, and has an expiration that
was checked. -/
theorem of_optionsFor_eq_ok
    {source : PipelineSource}
    {submission : Submission}
    {options : TransactionOptions}
    (wanted : BuilderDesk.optionsFor source submission = .ok options) :
    BuilderDesk.isOrderless options submission.payload = submission.isOrderless source ∧
      options.expirationSeconds.isNegative = .ok false := by
  rw [optionsFor_eq_bind] at wanted
  cases given : submission.givenOptions source with
  | error error =>
      rw [given] at wanted
      cases wanted
  | ok base =>
      rw [given] at wanted
      obtain ⟨nonceEq, compared⟩ := TransactionKind.of_restrict_eq_ok wanted
      refine ⟨?_, compared⟩
      unfold BuilderDesk.isOrderless isOrderless
      rw [nonceEq, given, Bool.or_comm]
      rfl

end Submission

/-! ## The counter -/

/-- What moves the counter of a pipeline: a caller sets it, or the builder has made something of a
submission. -/
inductive CounterEvent where
  | set (number : Int)
  | built (staged : Staged Submission Signable)

/-- The submission of an event with what was made of it. -/
def CounterEvent.staged? : CounterEvent → Option (Staged Submission Signable)
  | set _ => none
  | built staged => some staged

/-- An event with the number of the counter before and after it. -/
inductive CounterStep (source : PipelineSource) : Int → CounterEvent → Int → Prop
  /-- A caller's number takes the place of any other. -/
  | set
      {next : Int}
      (number : Int) :
      CounterStep source next (.set number) number
  /-- A transaction with a sequence number uses one up. -/
  | numbered
      {next : Int}
      {submission : Submission}
      {signable : Signable}
      (sequenceBased : submission.isOrderless source = false)
      (noNonce : signable.transaction.isOrderless = false)
      (number : signable.transaction.sequenceNumber = .int next) :
      CounterStep source next (.built ⟨submission, .ok signable⟩) (next + 1)
  /-- A transaction with a nonce carries a number of its own. -/
  | orderless
      {next : Int}
      {submission : Submission}
      {signable : Signable}
      (isOrderless : submission.isOrderless source = true)
      (nonce : signable.transaction.isOrderless = true)
      (number : signable.transaction.sequenceNumber =
        .int RawTransaction.orderlessSequenceNumber) :
      CounterStep source next (.built ⟨submission, .ok signable⟩) next
  /-- A submission whose options are refused uses no number up. -/
  | refused
      {next : Int}
      {submission : Submission}
      {error : Error}
      (unwanted : BuilderDesk.optionsFor source submission = .error error) :
      CounterStep source next (.built ⟨submission, .error error⟩) next
  /-- Signers that cannot be listed are noticed after the number was taken, so it is used up. -/
  | unlisted
      {next : Int}
      {submission : Submission}
      {options : TransactionOptions}
      {error : Error}
      (sequenceBased : submission.isOrderless source = false)
      (wanted : BuilderDesk.optionsFor source submission = .ok options)
      (cannotList : options.signers = .error error) :
      CounterStep source next (.built ⟨submission, .error error⟩) (next + 1)
  /-- With a nonce no number was taken. -/
  | unlistedOrderless
      {next : Int}
      {submission : Submission}
      {options : TransactionOptions}
      {error : Error}
      (isOrderless : submission.isOrderless source = true)
      (wanted : BuilderDesk.optionsFor source submission = .ok options)
      (cannotList : options.signers = .error error) :
      CounterStep source next (.built ⟨submission, .error error⟩) next

/-- Events in their order, with the number of the counter after them. -/
inductive CounterRun (source : PipelineSource) (start : Int) : List CounterEvent → Int → Prop
  | start : CounterRun source start [] start
  | step
      {log : List CounterEvent}
      {before after : Int}
      {event : CounterEvent}
      (run : CounterRun source start log before)
      (step : CounterStep source before event after) :
      CounterRun source start (log ++ [event]) after

/-! ## The builder's desk -/

namespace BuilderDesk

variable {source : PipelineSource} {desk : BuilderDesk}

theorem applyPending_of_pending_eq_nil (nonePending : desk.pending = []) :
    desk.applyPending = desk := by
  cases desk
  cases nonePending
  rfl

theorem applyPending_append
    (desk : BuilderDesk)
    (number : Int) :
    { desk with pending := desk.pending ++ [number] }.applyPending =
      { desk.applyPending with counter := ⟨number⟩ } := by
  simp [applyPending, SequenceCounter.update]

theorem seed_append
    (desk : BuilderDesk)
    (number : Int) :
    { desk with pending := desk.pending ++ [number] }.seed source =
      { desk.seed source with pending := (desk.seed source).pending ++ [number] } := by
  unfold seed
  cases source.sequenceNumber <;> rfl

/-- Building applies the numbers that were set, and changes nothing else but the counter. -/
theorem exists_counter_build
    (source : PipelineSource)
    (desk : BuilderDesk)
    (submission : Submission) :
    ∃ counter, (desk.build source submission).2 = { desk.applyPending with counter } := by
  simp only [build]
  split
  · exact ⟨desk.applyPending.counter, rfl⟩
  · split
    · exact ⟨desk.applyPending.counter, rfl⟩
    · simp only [number]
      split
      · exact ⟨desk.applyPending.counter, rfl⟩
      · exact ⟨desk.applyPending.counter.increment.2, rfl⟩

variable {submission : Submission} {options : TransactionOptions} {chainId seconds : Int}

/-- A submission with a nonce is put together as it is, and the counter stands. -/
theorem build_of_orderless
    (known : desk.chainId = .ok chainId)
    (wanted : optionsFor source submission = .ok options)
    (nonce : isOrderless options submission.payload = true) :
    desk.build source submission =
      (assemble source chainId options submission.payload, desk.applyPending) := by
  have stillKnown : desk.applyPending.chainId = .ok chainId := known
  simp only [build, stillKnown, wanted, number, nonce, if_true]

/-- A submission without a nonce is put together with the next number, and the counter moves by
one, whether or not a transaction comes of it. -/
theorem build_of_numbered
    (known : desk.chainId = .ok chainId)
    (wanted : optionsFor source submission = .ok options)
    (noNonce : isOrderless options submission.payload = false) :
    desk.build source submission =
      (assemble source chainId
          { options with sequenceNumber := some (.int desk.applyPending.counter.next) }
          submission.payload,
        { desk.applyPending with counter := ⟨desk.applyPending.counter.next + 1⟩ }) := by
  have stillKnown : desk.applyPending.chainId = .ok chainId := known
  simp [build, stillKnown, wanted, number, noNonce, SequenceCounter.increment]

/-- Building a submission with a nonce is a step of the counter. -/
theorem counterStep_of_orderless
    (clock : source.now.toWhole = .ok seconds)
    (wanted : optionsFor source submission = .ok options)
    (nonce : isOrderless options submission.payload = true)
    (next : Int) :
    CounterStep source next
      (.built ⟨submission, assemble source chainId options submission.payload⟩) next := by
  obtain ⟨orderlessEq, compared⟩ := Submission.of_optionsFor_eq_ok wanted
  have unnumbered : isOrderless options submission.payload = false →
      options.sequenceNumber = some .null := by
    simp [nonce]
  cases listed : options.signers with
  | error error =>
      rw [assemble_of_unlisted compared listed clock unnumbered chainId]
      exact .unlistedOrderless (orderlessEq ▸ nonce) wanted listed
  | ok others =>
      obtain ⟨signable, assembled, orderless, numberEq⟩ :=
        exists_assemble compared listed clock unnumbered chainId
      simp only [nonce, if_true] at orderless numberEq
      rw [assembled]
      exact .orderless (orderlessEq ▸ nonce) orderless numberEq

/-- Building a submission without a nonce is a step of the counter from the number it gets. -/
theorem counterStep_of_numbered
    (clock : source.now.toWhole = .ok seconds)
    (wanted : optionsFor source submission = .ok options)
    (noNonce : isOrderless options submission.payload = false)
    (next : Int) :
    CounterStep source next
      (.built ⟨submission,
        assemble source chainId { options with sequenceNumber := some (.int next) }
          submission.payload⟩) (next + 1) := by
  obtain ⟨orderlessEq, compared⟩ := Submission.of_optionsFor_eq_ok wanted
  let filled : TransactionOptions := { options with sequenceNumber := some (.int next) }
  have stillCompared : filled.expirationSeconds.isNegative = .ok false := compared
  have stillNoNonce : isOrderless filled submission.payload = false := noNonce
  have numbered : isOrderless filled submission.payload = false →
      filled.sequenceNumber = some (.int next) := fun _ => rfl
  cases listed : filled.signers with
  | error error =>
      rw [assemble_of_unlisted stillCompared listed clock numbered chainId]
      exact .unlisted (orderlessEq ▸ noNonce) wanted listed
  | ok others =>
      obtain ⟨signable, assembled, orderless, numberEq⟩ :=
        exists_assemble stillCompared listed clock numbered chainId
      simp only [stillNoNonce, Bool.false_eq_true, if_false] at orderless numberEq
      rw [assembled]
      exact .numbered (orderlessEq ▸ noNonce) orderless numberEq

/-- With a known chain and a clock that gives a number, building a submission is a step of the
counter from the number that was set last. -/
theorem counterStep_build
    (known : desk.chainId = .ok chainId)
    (clock : source.now.toWhole = .ok seconds)
    (submission : Submission) :
    CounterStep source desk.applyPending.counter.next
      (.built ⟨submission, (desk.build source submission).1⟩)
      (desk.build source submission).2.counter.next := by
  cases wanted : optionsFor source submission with
  | error error =>
      have stillKnown : desk.applyPending.chainId = .ok chainId := known
      have built : desk.build source submission = (.error error, desk.applyPending) := by
        simp only [build, stillKnown, wanted]
      rw [built]
      exact .refused wanted
  | ok options =>
      cases nonce : isOrderless options submission.payload with
      | true =>
          rw [build_of_orderless known wanted nonce]
          exact counterStep_of_orderless clock wanted nonce _
      | false =>
          rw [build_of_numbered known wanted nonce]
          exact counterStep_of_numbered clock wanted nonce _

end BuilderDesk

namespace Pipeline

/-! ## What an action does to the desk -/

/-- The desk that the builder has when it takes its next submission. -/
def readyDesk (source : PipelineSource) (pipeline : Pipeline) : BuilderDesk :=
  match pipeline.flow.builder with
  | .unprepared => pipeline.flow.desk.seed source
  | _ => pipeline.flow.desk

/-- The number that the next transaction gets, if it gets one. -/
def numberAhead (source : PipelineSource) (pipeline : Pipeline) : Int :=
  (pipeline.readyDesk source).applyPending.counter.next

/-- A builder that passes an entry on has prepared its desk. -/
theorem readyDesk_of_pass
    {source : PipelineSource}
    {pipeline : Pipeline}
    {entry : Entry (Staged Submission Signable)}
    {builder : Station (Staged Submission Signable)}
    (passed : pipeline.flow.builder.pass = some (entry, builder))
    (built : List (Entry (Staged Submission Signable))) :
    { pipeline with flow := { pipeline.flow with builder, built } }.readyDesk source =
      pipeline.readyDesk source := by
  unfold readyDesk
  cases station : pipeline.flow.builder with
  | unprepared | idle | done =>
      rw [station] at passed
      cases passed
  | holding content =>
      rw [station] at passed
      cases passed
      rfl
  | finishing marks =>
      rw [station] at passed
      cases marks with
      | zero => cases passed
      | succ marks =>
          cases passed
          by_cases last : marks = 0
          · simp [last]
          · simp [last]

namespace Scene

/-- What an action has done to the counter, by the scene after it. -/
def eventsOf (next : Scene) : Action → List CounterEvent
  | .setSequenceNumber number => [.set number]
  | .move .build => next.pipeline.flow.builder.held.map .built
  | _ => []

/-- The events of several actions. -/
def eventsAlong (stages : TransactionStages) (mayClose : Pipeline → Bool) :
    List Action → Scene → List CounterEvent
  | [], _ => []
  | action :: rest, scene =>
      match scene.act stages mayClose action with
      | some next => next.eventsOf action ++ eventsAlong stages mayClose rest next
      | none => []

/-- A scene with the events that led to it from another: there are none, a caller has set a number,
or the builder has taken a submission. -/
inductive Effect (source : PipelineSource) (scene next : Scene) : List CounterEvent → Prop
  | quiet
      (desk : next.pipeline.readyDesk source = scene.pipeline.readyDesk source)
      (taken : next.history.taken = scene.history.taken) :
      Effect source scene next []
  | set
      {number : Int}
      (desk : next.pipeline.readyDesk source =
        { scene.pipeline.readyDesk source with
          pending := (scene.pipeline.readyDesk source).pending ++ [number] })
      (taken : next.history.taken = scene.history.taken) :
      Effect source scene next [.set number]
  | built
      {ready : BuilderDesk}
      {submission : Submission}
      (before : scene.pipeline.readyDesk source = ready)
      (desk : next.pipeline.readyDesk source = (ready.build source submission).2)
      (taken : next.history.taken = scene.history.taken ++ [(submission, ready)]) :
      Effect source scene next [.built ⟨submission, (ready.build source submission).1⟩]

variable {source : PipelineSource} {signing : Signing}
  {send : SignedTransaction → Except Error String} {mayClose : Pipeline → Bool}

theorem effect_of_move
    {scene : Scene}
    {flow : TransactionFlow}
    {move : Flow.Move}
    (moved : scene.pipeline.flow.move (stages source signing send) move = some flow) :
    let next : Scene := ⟨{ scene.pipeline with flow },
      scene.history.after scene.pipeline.flow move⟩
    Effect source scene next (next.eventsOf (.move move)) := by
  cases Flow.change_of_move moved with
  | prepare unprepared =>
      refine .quiet ?_ rfl
      simp only [readyDesk, unprepared]
      rfl
  | @buildItem submission rest idle queued =>
      have ready : scene.pipeline.readyDesk source = scene.pipeline.flow.desk := by
        simp only [readyDesk, idle]
      exact .built ready rfl (by simp only [History.after, queued])
  | buildFinish idle queued =>
      refine .quiet ?_ (by simp only [History.after, queued])
      simp only [readyDesk, idle]
  | passBuilt passed => exact .quiet (readyDesk_of_pass passed _) rfl
  | _ => exact .quiet rfl rfl

theorem effect_of_act
    {scene next : Scene}
    {action : Action}
    (acted : scene.act (stages source signing send) mayClose action = some next) :
    Effect source scene next (next.eventsOf action) := by
  cases action with
  | start =>
      simp only [act, Pipeline.start] at acted
      split at acted
      · cases acted
      · cases acted
        exact .quiet rfl rfl
  | submit payload options kind id =>
      simp only [act, accept] at acted
      split at acted
      · cases acted
      · cases acted
        exact .quiet rfl rfl
  | setSequenceNumber number =>
      cases acted
      refine .set ?_ rfl
      -- A number set before the builder has asked the ledger is applied after the ledger's.
      unfold readyDesk setSequenceNumber
      cases scene.pipeline.flow.builder with
      | unprepared => exact BuilderDesk.seed_append _ number
      | _ => rfl
  | close =>
      simp only [act] at acted
      split at acted
      · cases acted
      · cases acted
        exact .quiet rfl rfl
  | move move =>
      simp only [act] at acted
      split at acted
      · obtain ⟨flow, moved, rfl⟩ := Option.map_eq_some_iff.mp acted
        exact effect_of_move moved
      · cases acted

/-! ## The builder is a counter -/

/-- What holds of a scene with the events that led to it: the chain is known to the builder, the
events are a run of the counter to the number ahead, and they have what the builder took. -/
structure Counted
    (source : PipelineSource)
    (start chainId : Int)
    (scene : Scene)
    (log : List CounterEvent) : Prop where
  chain : (scene.pipeline.readyDesk source).chainId = .ok chainId
  run : CounterRun source start log (scene.pipeline.numberAhead source)
  taken : log.filterMap CounterEvent.staged? =
    scene.history.taken.map fun pair => ⟨pair.1, (pair.2.build source pair.1).1⟩

theorem Counted.effect
    {scene next : Scene}
    {log events : List CounterEvent}
    {start chainId seconds : Int}
    (counted : Counted source start chainId scene log)
    (clock : source.now.toWhole = .ok seconds)
    (effect : Effect source scene next events) :
    Counted source start chainId next (log ++ events) := by
  obtain ⟨chain, run, taken⟩ := counted
  cases effect with
  | quiet desk sameTaken =>
      rw [List.append_nil]
      refine ⟨by rw [desk]; exact chain, ?_, by rw [sameTaken]; exact taken⟩
      unfold numberAhead
      rw [desk]
      exact run
  | @set number desk sameTaken =>
      refine ⟨by rw [desk]; exact chain, ?_, ?_⟩
      · unfold numberAhead
        rw [desk, BuilderDesk.applyPending_append]
        exact run.step (.set number)
      · rw [List.filterMap_append, sameTaken, taken]
        exact List.append_nil _
  | @built ready submission before desk moreTaken =>
      subst before
      -- Building leaves nothing pending, so the counter on the desk is the number ahead.
      obtain ⟨counter, deskEq⟩ :=
        BuilderDesk.exists_counter_build source (scene.pipeline.readyDesk source) submission
      have applied : (next.pipeline.readyDesk source).applyPending =
          ((scene.pipeline.readyDesk source).build source submission).2 := by
        rw [desk]
        apply BuilderDesk.applyPending_of_pending_eq_nil
        rw [deskEq]
        rfl
      refine ⟨?_, ?_, ?_⟩
      · rw [desk, deskEq]
        exact chain
      · unfold numberAhead
        rw [applied]
        exact run.step (BuilderDesk.counterStep_build chain clock submission)
      · rw [List.filterMap_append, moreTaken, List.map_append, taken]
        rfl

theorem Counted.perform
    {scene last : Scene}
    {actions : List Action}
    {log : List CounterEvent}
    {start chainId seconds : Int}
    (counted : Counted source start chainId scene log)
    (clock : source.now.toWhole = .ok seconds)
    (performed : Scene.perform (stages source signing send) mayClose actions scene = some last) :
    Counted source start chainId last
      (log ++ eventsAlong (stages source signing send) mayClose actions scene) := by
  induction actions generalizing scene log with
  | nil =>
      cases performed
      rw [eventsAlong, List.append_nil]
      exact counted
  | cons action rest inductionHypothesis =>
      obtain ⟨next, acted, performed⟩ := Option.bind_eq_some_iff.mp performed
      have continued :=
        inductionHypothesis (counted.effect clock (effect_of_act acted)) performed
      simp only [eventsAlong, acted]
      rw [← List.append_assoc]
      exact continued

theorem perform_concat
    (stages : TransactionStages)
    (mayClose : Pipeline → Bool)
    (actions : List Action)
    (action : Action)
    (scene : Scene) :
    Scene.perform stages mayClose (actions ++ [action]) scene =
      (Scene.perform stages mayClose actions scene).bind
        (fun last => last.act stages mayClose action) := by
  induction actions generalizing scene with
  | nil => exact Option.bind_fun_some _
  | cons first rest inductionHypothesis =>
      show (scene.act stages mayClose first).bind
          (Scene.perform stages mayClose (rest ++ [action])) =
        ((scene.act stages mayClose first).bind (Scene.perform stages mayClose rest)).bind _
      rw [Option.bind_assoc]
      exact Option.bind_congr fun next _ => inductionHypothesis next

/-- Every scene that can be reached is reached by a list of actions. -/
theorem Reachable.exists_perform
    {stages : TransactionStages}
    {scene : Scene}
    (reachable : Reachable stages mayClose scene) :
    ∃ signers capacity pipeline actions,
      Pipeline.make signers capacity = .ok pipeline ∧
        Scene.perform stages mayClose actions { pipeline } = some scene := by
  induction reachable with
  | make made => exact ⟨_, _, _, [], made, rfl⟩
  | @act scene next action _ acted inductionHypothesis =>
      obtain ⟨signers, capacity, pipeline, actions, made, performed⟩ := inductionHypothesis
      refine ⟨signers, capacity, pipeline, actions ++ [action], made, ?_⟩
      rw [perform_concat, performed]
      exact acted

end Scene

/-- A source that knows its chain and expects the number 5, with stages that sign nothing. -/
def knownSource : PipelineSource :=
  { sender := .one, now := .int 1000, sequenceNumber := .ok 5, chainId := .ok 4 }

def unsignedStages : TransactionStages :=
  stages knownSource (fun _ _ => .error .emptyAnswer) (fun _ => .error .emptyAnswer)

/-- A call without arguments is submitted, and the builder takes it. -/
def buildCall (options : TransactionOptions) (kind : TransactionKind := .single) : List Action :=
  [.submit (.entryFunction ⟨⟨.one, "account"⟩, "touch", [], []⟩) (some options) kind none,
    .move (.enter 0), .move .build, .move .passBuilt]

/-- The number is set between the first submission and one with a nonce. -/
def movedActions : List Action :=
  [.start, .move .prepare] ++ buildCall {} ++ [.setSequenceNumber 9] ++
    buildCall { nonce := some (.int 1) } ++ buildCall {}

/-- A pipeline with one signer and queues without a limit that was just made. -/
def unused : Scene :=
  { pipeline := { flow := .initial 0 1 {} } }

def moved : Scene :=
  (unused.perform unsignedStages (fun _ => true) movedActions).getD unused

end Pipeline

end MoveClient
