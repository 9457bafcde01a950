import Mathlib.Data.List.Nodup
import MoveClient.Pipeline
import MoveClient.Proofs.Pipeline.Course

/-!
Pipelines under every schedule.

Any number of callers use a pipeline at a time. What a caller does until it waits at the first
queue is one action, its way into the queue is another, and so is each move of a stage; they come
in any order. Only stopping is left out: it ends all stages at once.

Owns:
- the actions of callers and stages, and the states that they lead to;
- that tickets tell all submissions apart, and that a pipeline brings one finish mark when it is
  closed and none before;
- that the driver's own order of moves is one of the schedules.

Does not own: what comes of submissions; `MoveClient.Proofs.Pipeline.Outcomes` says that.
-/

namespace MoveClient.Pipeline

open scoped List

/-- A pipeline with its history. -/
structure Scene where
  pipeline : Pipeline
  history : History BuilderDesk Submission := {}

/-- What a caller or a stage does. -/
inductive Action where
  /-- The stages are set to work. -/
  | start
  /-- A caller submits a payload, until it waits at the first queue. -/
  | submit (payload : Payload) (options : Option TransactionOptions) (kind : TransactionKind)
      (id : Option Int)
  /-- A caller sets the sequence number of what is built next. -/
  | setSequenceNumber (number : Int)
  /-- A caller closes the pipeline, until it waits at the first queue. -/
  | close
  /-- A waiting caller comes into the first queue, or a stage makes a move. -/
  | move (move : Flow.Move)

/-- Whether a move is one of a waiting caller, who needs no stage for it. -/
def isCallers : Flow.Move → Bool
  | .enter _ => true
  | _ => false

namespace Scene

/-- The flow with its history. -/
def course (scene : Scene) :
    Course BuilderDesk Submission Signable SignedTransaction Receipt :=
  ⟨scene.pipeline.flow, scene.history⟩

/-- The submissions that were not refused, in the order of their tickets. -/
def accepted (scene : Scene) : List Submission :=
  Entry.items scene.history.brought

/-- The submissions that have come into the first queue: their callers wait no longer. -/
def submitted (scene : Scene) : List Submission :=
  Entry.items scene.history.entered

/-- The scene after an action, if it can happen; `mayClose` says when the pipeline is closed at
all. -/
def act (stages : TransactionStages) (mayClose : Pipeline → Bool) (scene : Scene) :
    Action → Option Scene
  | .start =>
      scene.pipeline.start.toOption.map fun pipeline => { scene with pipeline }
  | .submit payload options kind id =>
      (scene.pipeline.accept payload options kind id).toOption.map fun (submission, pipeline) =>
        { pipeline
          history := { scene.history with
            brought := scene.history.brought ++ [.item submission] } }
  | .setSequenceNumber number =>
      some { scene with pipeline := scene.pipeline.setSequenceNumber number }
  | .close =>
      if scene.pipeline.isClosed || !mayClose scene.pipeline then none
      else some
        { pipeline := scene.pipeline.shut
          history := { scene.history with brought := scene.history.brought ++ [.finish] } }
  | .move move =>
      if isCallers move || scene.pipeline.isRunning then
        (scene.pipeline.flow.move stages move).map fun flow =>
          { pipeline := { scene.pipeline with flow }
            history := scene.history.after scene.pipeline.flow move }
      else none

/-- The scene after several actions. -/
def perform (stages : TransactionStages) (mayClose : Pipeline → Bool) :
    List Action → Scene → Option Scene
  | [], scene => some scene
  | action :: rest, scene => (scene.act stages mayClose action).bind (perform stages mayClose rest)

/-- The scenes that some schedule leads to, from a pipeline that was just made. -/
inductive Reachable (stages : TransactionStages) (mayClose : Pipeline → Bool) : Scene → Prop
  | make
      {signers : Int}
      {capacity : Nat}
      {pipeline : Pipeline}
      (made : Pipeline.make signers capacity = .ok pipeline) :
      Reachable stages mayClose { pipeline }
  | act
      {scene next : Scene}
      {action : Action}
      (reachable : Reachable stages mayClose scene)
      (acted : scene.act stages mayClose action = some next) :
      Reachable stages mayClose next

variable {stages : TransactionStages} {mayClose : Pipeline → Bool}

theorem Reachable.perform
    {scene next : Scene}
    {actions : List Action}
    (reachable : Reachable stages mayClose scene)
    (performed : Scene.perform stages mayClose actions scene = some next) :
    Reachable stages mayClose next := by
  induction actions generalizing scene with
  | nil =>
      cases performed
      exact reachable
  | cons action rest inductionHypothesis =>
      obtain ⟨middle, acted, performed⟩ := Option.bind_eq_some_iff.mp performed
      exact inductionHypothesis (reachable.act acted) performed

/-- An action of a caller or a stage with the scene after it. -/
inductive Change
    (stages : TransactionStages)
    (mayClose : Pipeline → Bool)
    (scene : Scene) :
    Scene → Prop
  | start :
      Change stages mayClose scene
        { scene with pipeline :=
          { scene.pipeline with isStarted := true, isStopped := false } }
  | submit
      {submission : Submission}
      {nextId : Int}
      (isOpen : scene.pipeline.isClosed = false)
      (ticket : submission.ticket = scene.pipeline.submissions) :
      Change stages mayClose scene
        { pipeline := { scene.pipeline with
            flow := scene.pipeline.flow.bring (.item submission)
            nextId
            submissions := scene.pipeline.submissions + 1 }
          history := { scene.history with
            brought := scene.history.brought ++ [.item submission] } }
  | setSequenceNumber (number : Int) :
      Change stages mayClose scene
        { scene with pipeline := scene.pipeline.setSequenceNumber number }
  | close
      (isOpen : scene.pipeline.isClosed = false)
      (allowed : mayClose scene.pipeline = true) :
      Change stages mayClose scene
        { pipeline := scene.pipeline.shut
          history := { scene.history with brought := scene.history.brought ++ [.finish] } }
  | move
      {move : Flow.Move}
      {flow : TransactionFlow}
      (moved : scene.pipeline.flow.move stages move = some flow) :
      Change stages mayClose scene
        { pipeline := { scene.pipeline with flow }
          history := scene.history.after scene.pipeline.flow move }

theorem change_of_act
    {scene next : Scene}
    {action : Action}
    (acted : scene.act stages mayClose action = some next) :
    Change stages mayClose scene next := by
  cases action with
  | start =>
      simp only [act, Pipeline.start] at acted
      split at acted
      · cases acted
      · cases acted
        exact .start
  | submit payload options kind id =>
      simp only [act, accept] at acted
      split at acted
      case isTrue => cases acted
      case isFalse isOpen =>
        cases acted
        exact .submit (Bool.eq_false_iff.mpr isOpen) rfl
  | setSequenceNumber number =>
      cases acted
      exact .setSequenceNumber number
  | close =>
      simp only [act] at acted
      split at acted
      case isTrue => cases acted
      case isFalse closable =>
        cases acted
        simp only [Bool.or_eq_true, not_or, Bool.not_eq_true, Bool.not_eq_false'] at closable
        exact .close closable.1 closable.2
  | move move =>
      simp only [act] at acted
      split at acted
      · obtain ⟨flow, moved, rfl⟩ := Option.map_eq_some_iff.mp acted
        exact .move moved
      · cases acted

/-! ## What every schedule keeps -/

/-- What holds of every scene: the flow keeps its invariant, submissions are numbered by their
tickets, and there is a finish mark exactly if the pipeline is closed. -/
structure Invariant (stages : TransactionStages) (scene : Scene) : Prop where
  course : scene.course.Invariant stages
  tickets : scene.accepted.map Submission.ticket = List.range scene.pipeline.submissions
  marks : Entry.marks scene.history.brought = if scene.pipeline.isClosed then 1 else 0

theorem Invariant.change
    {scene next : Scene}
    (invariant : Invariant stages scene)
    (change : Change stages mayClose scene next) :
    Invariant stages next := by
  obtain ⟨course, tickets, marks⟩ := invariant
  cases change with
  | start => exact ⟨course, tickets, marks⟩
  | @submit submission nextId isOpen ticket =>
      refine ⟨course.step (.bring (.item submission)), ?_, ?_⟩
      · simp only [accepted] at tickets
        simp [accepted, tickets, ticket, List.range_succ]
      · simpa using marks
  | setSequenceNumber number =>
      exact ⟨course.step (.tune _), tickets, marks⟩
  | close isOpen allowed =>
      refine ⟨course.step (.bring .finish), ?_, ?_⟩
      · simpa [accepted, shut] using tickets
      · simp [marks, isOpen, shut]
  | @move move flow moved =>
      have brought : (scene.history.after scene.pipeline.flow move).brought =
          scene.history.brought := by
        unfold History.after
        split <;> try rfl
        split <;> rfl
      refine ⟨course.step (.move moved), ?_, ?_⟩
      · simpa only [accepted, brought] using tickets
      · simpa only [brought] using marks

theorem Reachable.invariant
    {scene : Scene}
    (reachable : Reachable stages mayClose scene) :
    Invariant stages scene := by
  induction reachable with
  | @make signers capacity pipeline made =>
      unfold Pipeline.make at made
      split at made
      case isTrue => cases made
      case isFalse someSigner =>
        cases made
        exact ⟨Course.invariant_initial (by omega), rfl, rfl⟩
  | act _ acted inductionHypothesis => exact inductionHypothesis.change (change_of_act acted)

/-- No two submissions are one. -/
theorem Reachable.nodup_accepted
    {scene : Scene}
    (reachable : Reachable stages mayClose scene) :
    scene.accepted.Nodup := by
  apply List.Nodup.of_map Submission.ticket
  rw [reachable.invariant.tickets]
  exact List.nodup_range

/-- The waiting callers and those that have come in are all that were not refused. -/
theorem Reachable.accepted_perm
    {scene : Scene}
    (reachable : Reachable stages mayClose scene) :
    scene.accepted ~ scene.submitted ++ Entry.items scene.pipeline.flow.entering := by
  have callers := Entry.perm_items reachable.invariant.course.callers
  rwa [Entry.items_append] at callers

/-! ## The driver -/

theorem Reachable.move
    {scene : Scene}
    (reachable : Reachable stages mayClose scene)
    {move : Flow.Move}
    {flow : TransactionFlow}
    (possible : isCallers move = true ∨ scene.pipeline.isRunning = true)
    (moved : scene.pipeline.flow.move stages move = some flow) :
    Reachable stages mayClose
      ⟨{ scene.pipeline with flow }, scene.history.after scene.pipeline.flow move⟩ := by
  have acted : scene.act stages mayClose (.move move) =
      some ⟨{ scene.pipeline with flow }, scene.history.after scene.pipeline.flow move⟩ := by
    have moves : (isCallers move || scene.pipeline.isRunning) = true := by simpa using possible
    simp only [Scene.act, moves, if_true, moved, Option.map_some]
  exact reachable.act acted

/-- As long as the stages are at work, the moves that the driver picks are a schedule. -/
theorem Reachable.settleWithin
    {scene : Scene}
    (reachable : Reachable stages mayClose scene)
    (running : scene.pipeline.isRunning = true)
    (more : List Flow.Move)
    (fuel : Nat) :
    ∃ history, Reachable stages mayClose
      ⟨{ scene.pipeline with flow := scene.pipeline.flow.settleWithin stages more fuel },
        history⟩ := by
  induction fuel generalizing scene with
  | zero => exact ⟨scene.history, reachable⟩
  | succ fuel inductionHypothesis =>
      unfold Flow.settleWithin
      split
      case h_1 flow found =>
        obtain ⟨before, move, behind, _, moved, _⟩ := List.findSome?_eq_some_iff.mp found
        exact inductionHypothesis (reachable.move (.inr running) moved) running
      case h_2 => exact ⟨scene.history, reachable⟩

theorem Reachable.letIn
    {scene : Scene}
    (reachable : Reachable stages mayClose scene) :
    ∃ history, Reachable stages mayClose ⟨scene.pipeline.letIn stages, history⟩ := by
  unfold Pipeline.letIn
  split
  case h_1 flow entered =>
    have moved : scene.pipeline.flow.move stages (.enter 0) = some flow := entered
    exact ⟨_, reachable.move (.inl rfl) moved⟩
  case h_2 =>
    split
    case isTrue running =>
      obtain ⟨history, settled⟩ :=
        reachable.settleWithin running [] scene.pipeline.flow.movesLeft
      change Reachable stages mayClose
        ⟨{ scene.pipeline with flow := scene.pipeline.flow.advance stages }, history⟩ at settled
      cases entered : (scene.pipeline.flow.advance stages).enter 0 with
      | none =>
          simp only [entered, Option.getD_none]
          exact ⟨history, settled⟩
      | some flow =>
          have moved : (scene.pipeline.flow.advance stages).move stages (.enter 0) = some flow :=
            entered
          simp only [entered, Option.getD_some]
          exact ⟨_, settled.move (.inl rfl) moved⟩
    case isFalse => exact ⟨scene.history, reachable⟩

/-- A submission by the driver is part of a schedule. -/
theorem Reachable.submit
    {scene : Scene}
    (reachable : Reachable stages mayClose scene)
    {payload : Payload}
    {options : Option TransactionOptions}
    {kind : TransactionKind}
    {id : Option Int}
    {given : Int}
    {pipeline : Pipeline}
    (submitted : scene.pipeline.submit stages payload options kind id = .ok (given, pipeline)) :
    ∃ history, Reachable stages mayClose ⟨pipeline, history⟩ := by
  unfold Pipeline.submit at submitted
  cases accepted : scene.pipeline.accept payload options kind id with
  | error error =>
      rw [accepted] at submitted
      cases submitted
  | ok admitted =>
      rw [accepted] at submitted
      cases submitted
      have acted : scene.act stages mayClose (.submit payload options kind id) =
          some ⟨admitted.2, { scene.history with
            brought := scene.history.brought ++ [.item admitted.1] }⟩ := by
        simp only [Scene.act, accepted]
        rfl
      exact (reachable.act acted).letIn

/-- Closing by the driver is part of a schedule. -/
theorem Reachable.close
    {scene : Scene}
    (reachable : Reachable stages mayClose scene)
    (allowed : mayClose scene.pipeline = true) :
    ∃ history, Reachable stages mayClose ⟨scene.pipeline.close stages, history⟩ := by
  unfold Pipeline.close
  split
  case isTrue => exact ⟨scene.history, reachable⟩
  case isFalse isOpen =>
    have acted : scene.act stages mayClose .close =
        some ⟨scene.pipeline.shut, { scene.history with
          brought := scene.history.brought ++ [.finish] }⟩ := by
      simp [Scene.act, isOpen, allowed]
    exact (reachable.act acted).letIn

/-- Letting the stages come to rest is part of a schedule. -/
theorem Reachable.settle
    {scene : Scene}
    (reachable : Reachable stages mayClose scene) :
    ∃ history, Reachable stages mayClose ⟨scene.pipeline.settle stages, history⟩ := by
  unfold Pipeline.settle
  split
  case isTrue running =>
    exact reachable.settleWithin running [.enter 0] scene.pipeline.flow.movesLeft
  case isFalse => exact ⟨scene.history, reachable⟩

end Scene

end MoveClient.Pipeline
