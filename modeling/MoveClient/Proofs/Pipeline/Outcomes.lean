import MoveClient.Proofs.Pipeline.Schedule

/-!
What comes of submissions.

Owns:
- `ComesOf`, which says what the outcome of a submission is: the first failure that it met, or the
  receipt of its own transaction;
- that a pipeline that is closed when no caller waits neither loses nor repeats a submission;
- that under every schedule the submissions with an outcome are those that came into the first
  queue ahead of the finish mark, and that a caller who waited may come in behind it.

Does not own: what building, signing and submitting do.
-/

namespace MoveClient.Pipeline

open scoped List

variable {stages : TransactionStages} {mayClose : Pipeline → Bool} {scene : Scene}

/-! ## Outcomes -/

/-- What comes of a submission that the builder took with a desk: the first failure among its
stages, or the receipt of what was built and signed for it. -/
inductive ComesOf
    (stages : TransactionStages)
    (desk : BuilderDesk)
    (submission : Submission) :
    Except Error Receipt → Prop
  | notBuilt
      {error : Error}
      (failed : (stages.build desk submission).1 = .error error) :
      ComesOf stages desk submission (.error error)
  | notSigned
      {signable : Signable}
      {error : Error}
      (built : (stages.build desk submission).1 = .ok signable)
      (failed : stages.sign submission signable = .error error) :
      ComesOf stages desk submission (.error error)
  | notSubmitted
      {signable : Signable}
      {signed : SignedTransaction}
      {error : Error}
      (built : (stages.build desk submission).1 = .ok signable)
      (isSigned : stages.sign submission signable = .ok signed)
      (failed : stages.submit submission signed = .error error) :
      ComesOf stages desk submission (.error error)
  | submitted
      {signable : Signable}
      {signed : SignedTransaction}
      {receipt : Receipt}
      (built : (stages.build desk submission).1 = .ok signable)
      (isSigned : stages.sign submission signable = .ok signed)
      (received : stages.submit submission signed = .ok receipt) :
      ComesOf stages desk submission (.ok receipt)

theorem comesOf_bind
    (stages : TransactionStages)
    (desk : BuilderDesk)
    (submission : Submission) :
    ComesOf stages desk submission
      (((stages.build desk submission).1.bind (stages.sign submission)).bind
        (stages.submit submission)) := by
  cases built : (stages.build desk submission).1 with
  | error error => exact .notBuilt built
  | ok signable =>
      simp only [Except.bind]
      cases isSigned : stages.sign submission signable with
      | error error => exact .notSigned built isSigned
      | ok signed =>
          simp only
          cases received : stages.submit submission signed with
          | error error => exact .notSubmitted built isSigned received
          | ok receipt => exact .submitted built isSigned received

/-- With the stages of a pipeline, a receipt has the transaction that was signed for its own
submission, and the hash that was given when that transaction was sent. -/
theorem ComesOf.of_receipt
    {source : PipelineSource}
    {signing : Signing}
    {send : SignedTransaction → Except Error String}
    {desk : BuilderDesk}
    {submission : Submission}
    {receipt : Receipt}
    (comes : ComesOf (Pipeline.stages source signing send) desk submission (.ok receipt)) :
    ∃ signable,
      (desk.build source submission).1 = .ok signable ∧
        signing submission.kind signable = .ok receipt.transaction ∧
        send receipt.transaction = .ok receipt.hash := by
  cases comes with
  | @submitted signable signed _ built isSigned received =>
      refine ⟨signable, built, ?_⟩
      change (send signed).bind (fun hash => .ok ⟨hash, signed⟩) = .ok receipt at received
      cases sent : send signed with
      | error error =>
          rw [sent] at received
          cases received
      | ok hash =>
          rw [sent] at received
          cases received
          exact ⟨isSigned, sent⟩

theorem comesOf_of_outcome
    (reachable : Scene.Reachable stages mayClose scene)
    {outcome : SubmissionOutcome}
    (isOut : .item outcome ∈ scene.pipeline.flow.outcomes) :
    ∃ desk, (outcome.job, desk) ∈ scene.history.taken ∧
      ComesOf stages desk outcome.job outcome.result := by
  have results := reachable.invariant.course.results
  obtain ⟨desk, taken, resultEq⟩ := results.outcomes outcome (Entry.mem_items.mpr isOut)
  exact ⟨desk, taken, resultEq ▸ comesOf_bind stages desk outcome.job⟩

/-! ## Where submissions are -/

theorem located_perm
    (reachable : Scene.Reachable stages mayClose scene) :
    scene.pipeline.flow.located.map Prod.snd ~ scene.accepted :=
  reachable.invariant.course.located_perm

/-- A submission is in one place only. -/
theorem place_unique
    (reachable : Scene.Reachable stages mayClose scene)
    {submission : Submission}
    {place other : Place}
    (here : (place, submission) ∈ scene.pipeline.flow.located)
    (there : (other, submission) ∈ scene.pipeline.flow.located) :
    other = place := by
  have nodup := (located_perm reachable).nodup_iff.mpr reachable.nodup_accepted
  exact congrArg Prod.fst (List.inj_on_of_nodup_map nodup there here rfl)

/-- A submission whose caller waits no longer is in a queue or with a stage. -/
theorem exists_place
    (reachable : Scene.Reachable stages mayClose scene)
    {submission : Submission}
    (isIn : submission ∈ scene.submitted) :
    ∃ place, place ≠ .caller ∧ (place, submission) ∈ scene.pipeline.flow.located := by
  have split := reachable.accepted_perm
  have nodup := split.nodup_iff.mp reachable.nodup_accepted
  have accepted : submission ∈ scene.accepted := split.symm.subset (List.mem_append_left _ isIn)
  obtain ⟨⟨place, _⟩, located, rfl⟩ :=
    List.mem_map.mp ((located_perm reachable).symm.subset accepted)
  refine ⟨place, ?_, located⟩
  rintro rfl
  have waiting := Flow.mem_located_caller.mp located
  exact (List.disjoint_of_nodup_append nodup) isIn waiting

/-! ## Pipelines that are closed when no caller waits -/

/-- No caller waits at the first queue. -/
def noneWaits (pipeline : Pipeline) : Bool :=
  pipeline.flow.entering.isEmpty

/-- Where the finish mark of a closed pipeline is: its caller is the only one that waits, or it
is behind all that has come in. -/
theorem finish_behind_submissions
    (reachable : Scene.Reachable stages noneWaits scene)
    (isClosed : scene.pipeline.isClosed = true) :
    (scene.pipeline.flow.entering = [.finish] ∧ Entry.marks scene.history.entered = 0) ∨
      (scene.pipeline.flow.entering = [] ∧
        ∃ items : List Submission, scene.history.entered = items.map .item ++ [.finish]) := by
  induction reachable with
  | make made =>
      unfold Pipeline.make at made
      split at made <;> cases made
      cases isClosed
  | @act scene next action reachable acted inductionHypothesis =>
      have marks := reachable.invariant.marks
      have callers := reachable.invariant.course.callers
      cases Scene.change_of_act acted with
      | start => exact inductionHypothesis isClosed
      | submit isOpen =>
          have stillOpen : scene.pipeline.isClosed = true := isClosed
          rw [isOpen] at stillOpen
          cases stillOpen
      | setSequenceNumber => exact inductionHypothesis isClosed
      | close isOpen allowed =>
          have entering : scene.pipeline.flow.entering = [] := List.isEmpty_iff.mp allowed
          have noMarks := Entry.perm_marks callers
          simp only [isOpen, Bool.false_eq_true, if_false] at marks
          simp only [Scene.course, entering, List.append_nil, marks] at noMarks
          exact .inl ⟨by simp [shut, Flow.bring, entering], noMarks.symm⟩
      | move moved =>
          have before := inductionHypothesis isClosed
          cases Flow.change_of_move moved with
          | @enter position entry waiting room =>
              rcases before with ⟨entering, noMarks⟩ | ⟨entering, _⟩
              · rw [entering] at waiting
                obtain ⟨inRange, entryEq⟩ := List.getElem?_eq_some_iff.mp waiting
                obtain rfl : position = 0 := by simpa using inRange
                have isFinish : entry = .finish := by simpa using entryEq.symm
                refine .inr ⟨by simp [entering], Entry.items scene.history.entered, ?_⟩
                simp [History.after, entering, ← Entry.eq_map_item_of_marks_eq_zero noMarks]
              · rw [entering] at waiting
                cases waiting
          | buildItem idle queued => simpa only [History.after, queued] using before
          | buildFinish idle queued => simpa only [History.after, queued] using before
          | _ => exact before

/-- When the finish mark is out, what has come in is what the builder took, the mark, and what
came in behind it; the outcomes are those of what the builder took. -/
theorem finished_split
    (reachable : Scene.Reachable stages mayClose scene)
    (finished : .finish ∈ scene.pipeline.flow.outcomes) :
    ∃ (outcomes : List SubmissionOutcome) (taken : List Submission),
      scene.pipeline.flow.outcomes = outcomes.map .item ++ [.finish] ∧
        taken ~ outcomes.map Staged.job ∧
        scene.history.entered = taken.map .item ++ .finish :: scene.pipeline.flow.jobs := by
  obtain ⟨outcomes, outcomesEq, takenPerm, enteredEq⟩ := reachable.invariant.course.finished finished
  refine ⟨outcomes, scene.history.taken.map Prod.fst, outcomesEq, takenPerm, ?_⟩
  rw [List.map_map]
  exact enteredEq

theorem isClosed_of_finished
    (reachable : Scene.Reachable stages mayClose scene)
    (finished : .finish ∈ scene.pipeline.flow.outcomes) :
    scene.pipeline.isClosed = true := by
  obtain ⟨_, taken, _, _, enteredEq⟩ := finished_split reachable finished
  have brought := Entry.perm_marks reachable.invariant.course.callers
  have marks := reachable.invariant.marks
  simp only [Scene.course, enteredEq, Entry.marks_append, Entry.marks_finish] at brought
  by_contra isOpen
  rw [if_neg isOpen] at marks
  omega

theorem outcome_of_finished
    (reachable : Scene.Reachable stages noneWaits scene)
    {before behind : List (Entry SubmissionOutcome)}
    (outcomesEq : scene.pipeline.flow.outcomes = before ++ .finish :: behind) :
    behind = [] ∧ .finish ∉ before ∧
      ∀ submission ∈ scene.accepted, ∃ result, .item ⟨submission, result⟩ ∈ before := by
  have finished : .finish ∈ scene.pipeline.flow.outcomes := by simp [outcomesEq]
  obtain ⟨outcomes, taken, outcomesEq', takenPerm, enteredEq⟩ := finished_split reachable finished
  rw [outcomesEq'] at outcomesEq
  obtain ⟨rfl, rfl⟩ := Entry.eq_of_append_finish_eq outcomesEq
  refine ⟨rfl, by simp, fun submission isAccepted => ?_⟩
  have isClosed := isClosed_of_finished reachable finished
  rcases finish_behind_submissions reachable isClosed with ⟨_, noMarks⟩ | ⟨entering, items, entered⟩
  · simp [enteredEq] at noMarks
  · rw [enteredEq] at entered
    obtain ⟨takenEq, noneBehind⟩ := Entry.eq_of_append_finish_eq entered.symm
    have isIn : submission ∈ Entry.items scene.history.entered := by
      have isIn := reachable.accepted_perm.subset isAccepted
      simpa [entering, Scene.submitted] using isIn
    rw [enteredEq, noneBehind] at isIn
    have isTaken : submission ∈ taken := by simpa using isIn
    obtain ⟨outcome, isOut, rfl⟩ := List.mem_map.mp (takenPerm.subset isTaken)
    exact ⟨outcome.result, List.mem_map_of_mem isOut⟩

/-- A pipeline neither loses nor repeats work. Under every schedule in which it is closed when no
caller waits: all submissions are different and each is found once in the flow; one whose caller
waits no longer is in exactly one place; the finish mark comes out at most once, behind an outcome
of every submission; and every outcome is what comes of its own submission. -/
theorem no_work_lost
    (reachable : Scene.Reachable stages noneWaits scene) :
    (scene.accepted.Nodup ∧ scene.pipeline.flow.located.map Prod.snd ~ scene.accepted) ∧
      (∀ submission ∈ scene.submitted,
        ∃ place, place ≠ .caller ∧ (place, submission) ∈ scene.pipeline.flow.located ∧
          ∀ other, (other, submission) ∈ scene.pipeline.flow.located → other = place) ∧
      (∀ before behind, scene.pipeline.flow.outcomes = before ++ .finish :: behind →
        behind = [] ∧ .finish ∉ before ∧
          ∀ submission ∈ scene.accepted, ∃ result, .item ⟨submission, result⟩ ∈ before) ∧
      ∀ outcome, .item outcome ∈ scene.pipeline.flow.outcomes →
        ∃ desk, (outcome.job, desk) ∈ scene.history.taken ∧
          ComesOf stages desk outcome.job outcome.result := by
  refine ⟨⟨reachable.nodup_accepted, located_perm reachable⟩, ?_, ?_, ?_⟩
  · intro submission isIn
    obtain ⟨place, notCaller, located⟩ := exists_place reachable isIn
    exact ⟨place, notCaller, located, fun other there => place_unique reachable located there⟩
  · intro before behind outcomesEq
    exact outcome_of_finished reachable outcomesEq
  · intro outcome isOut
    exact comesOf_of_outcome reachable isOut

/-- Stages that build nothing. -/
def refusing : TransactionStages where
  prepare desk := desk
  build desk _ := (.error .emptyAnswer, desk)
  sign _ _ := .error .emptyAnswer
  submit _ _ := .error .emptyAnswer

/-- The submission of a call without arguments. -/
def submitCall : Action :=
  .submit (.entryFunction ⟨⟨.one, "account"⟩, "touch", [], []⟩) none .single none

/-- A pipeline with one signer that was just made. -/
def fresh (capacity : Nat) : Scene :=
  { pipeline := { flow := .initial capacity 1 {} } }

theorem reachable_fresh (capacity : Nat) : Scene.Reachable stages mayClose (fresh capacity) :=
  .make (show Pipeline.make 1 capacity = .ok _ from rfl)

/-- One submission comes through and is not built, and the finish mark comes out behind it. -/
def refusedActions : List Action :=
  [.start, submitCall, .move (.enter 0), .move .prepare, .move .build, .close, .move (.enter 0),
    .move .passBuilt, .move .build, .move (.sign 0), .move .passBuilt, .move (.passSigned 0),
    .move (.sign 0), .move .submit, .move (.passSigned 0), .move .passOutcome, .move .submit,
    .move .passOutcome]

def refused : Scene :=
  ((fresh 1).perform refusing noneWaits refusedActions).getD (fresh 1)

theorem reachable_refused : Scene.Reachable refusing noneWaits refused :=
  have performed : (fresh 1).perform refusing noneWaits refusedActions = some refused := rfl
  (reachable_fresh 1).perform performed

theorem no_work_lost_refused :
    refused.accepted.length = 1 ∧ .finish ∈ refused.pipeline.flow.outcomes ∧
      ∀ submission ∈ refused.accepted,
        ∃ result, .item ⟨submission, result⟩ ∈ refused.pipeline.flow.outcomes := by
  have outcomesEq : refused.pipeline.flow.outcomes = [.item _] ++ .finish :: [] := rfl
  obtain ⟨_, _, haveOutcomes⟩ := (no_work_lost reachable_refused).2.2.1 _ _ outcomesEq
  refine ⟨rfl, by simp [outcomesEq], fun submission isAccepted => ?_⟩
  obtain ⟨result, isOut⟩ := haveOutcomes submission isAccepted
  exact ⟨result, by rw [outcomesEq]; exact List.mem_append_left _ isOut⟩

/-! ## Pipelines that are closed at any time -/

/-- Under every schedule, nothing is accepted once the pipeline is closed, no submission has two
outcomes, and when the finish mark is out it is behind all outcomes, which are those of the
submissions that came into the first queue ahead of the mark. -/
theorem outcome_iff_ahead
    (reachable : Scene.Reachable stages mayClose scene) :
    (scene.pipeline.isClosed = true → ∀ payload options kind id,
      scene.pipeline.accept payload options kind id = .error .channelClosed) ∧
      ((Entry.items scene.pipeline.flow.outcomes).map Staged.job).Nodup ∧
      (.finish ∈ scene.pipeline.flow.outcomes →
        ∃ outcomes : List SubmissionOutcome,
          scene.pipeline.flow.outcomes = outcomes.map .item ++ [.finish] ∧
            ∀ submission ∈ scene.submitted,
              (∃ outcome ∈ outcomes, outcome.job = submission) ↔
                submission ∈ Entry.ahead scene.history.entered) := by
  refine ⟨?_, ?_, ?_⟩
  · intro isClosed payload options kind id
    simp [accept, isClosed]
  · have nodup := (located_perm reachable).nodup_iff.mpr reachable.nodup_accepted
    rw [Flow.located_map_snd, Flow.underway] at nodup
    exact (nodup.of_append_right).of_append_right
  · intro finished
    obtain ⟨outcomes, taken, outcomesEq, takenPerm, enteredEq⟩ := finished_split reachable finished
    refine ⟨outcomes, outcomesEq, fun submission _ => ?_⟩
    rw [enteredEq, Entry.ahead_map_item_append_finish, takenPerm.mem_iff, List.mem_map]

/-- A caller who waited for room comes in behind the finish mark of one who came later. -/
theorem submission_behind_finish :
    ∃ scene submission,
      (fresh 1).perform refusing (fun _ => true) [.start, submitCall, .move (.enter 0), submitCall,
        .move .prepare, .move .build, .close, .move (.enter 1), .move .passBuilt, .move .build,
        .move (.enter 0), .move (.sign 0), .move .passBuilt, .move (.passSigned 0),
        .move (.sign 0), .move .submit, .move (.passSigned 0), .move .passOutcome, .move .submit,
        .move .passOutcome] = some scene ∧
      submission ∈ scene.submitted ∧ .finish ∈ scene.pipeline.flow.outcomes ∧
      ∀ result, .item ⟨submission, result⟩ ∉ scene.pipeline.flow.outcomes := by
  refine ⟨_, ⟨1, 1, .entryFunction ⟨⟨.one, "account"⟩, "touch", [], []⟩, none, .single⟩, rfl,
    List.mem_cons_of_mem _ (List.mem_cons_self ..), List.mem_cons_of_mem _ (List.mem_cons_self ..),
    ?_⟩
  intro result member
  rcases List.mem_cons.mp member with isFirst | member
  · cases isFirst
  · cases List.mem_singleton.mp member

end MoveClient.Pipeline
