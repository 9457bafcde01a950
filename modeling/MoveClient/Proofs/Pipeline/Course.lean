import MoveClient.Proofs.Pipeline.FinishMarks

/-!
Flows with their history.

A course is a flow together with what callers have brought to it and what its builder has taken.
Callers bring entries and change what is on the builder's desk at any time, and the stages move in
any order.

Owns:
- the steps of a course;
- the places in which a flow has its items, and that every item brought is in exactly as many of
  them as it was brought;
- what a stage has made of an item, from what the stages before it made of the same item;
- that the builder takes items in the order in which they came into the first queue.

Does not own: who may bring what; `MoveClient.Proofs.Pipeline.Schedule` continues with that.
-/

namespace MoveClient

open scoped List

variable {Desk Job Built Signed Receipt : Type}

/-! ## Courses -/

/-- What has happened to a flow: the entries that callers brought, those that came into the first
queue, and the items that the builder took, each with what was on its desk. -/
structure History (Desk Job : Type) where
  brought : List (Entry Job) := []
  entered : List (Entry Job) := []
  taken : List (Job × Desk) := []

/-- The history after a move of the flow. -/
def History.after (history : History Desk Job) (flow : Flow Desk Job Built Signed Receipt) :
    Flow.Move → History Desk Job
  | .enter position =>
      { history with entered := history.entered ++ flow.entering[position]?.toList }
  | .build =>
      match flow.jobs with
      | .item job :: _ => { history with taken := history.taken ++ [(job, flow.desk)] }
      | _ => history
  | _ => history

/-- A flow with its history. -/
structure Course (Desk Job Built Signed Receipt : Type) where
  flow : Flow Desk Job Built Signed Receipt
  history : History Desk Job := {}

namespace Course

/-- A step of a course: a caller brings an entry, the desk of the builder is changed, or a move is
made. -/
inductive Step (stages : Stages Desk Job Built Signed Receipt)
    (course : Course Desk Job Built Signed Receipt) :
    Course Desk Job Built Signed Receipt → Prop
  | bring (entry : Entry Job) :
      Step stages course
        ⟨course.flow.bring entry,
          { course.history with brought := course.history.brought ++ [entry] }⟩
  | tune (desk : Desk) :
      Step stages course ⟨{ course.flow with desk }, course.history⟩
  | move
      {move : Flow.Move}
      {flow : Flow Desk Job Built Signed Receipt}
      (moved : course.flow.move stages move = some flow) :
      Step stages course ⟨flow, course.history.after course.flow move⟩

end Course

/-! ## Where the items are -/

/-- The places of a flow. -/
inductive Place where
  | caller
  | firstQueue
  | builder
  | builtQueue
  | signer (position : Nat)
  | signedQueue
  | submitter
  | outcomes
deriving DecidableEq, Repr

namespace Flow

/-- The items of a flow with their places. -/
def located (flow : Flow Desk Job Built Signed Receipt) : List (Place × Job) :=
  (Entry.items flow.entering).map (Place.caller, ·) ++
    (Entry.items flow.jobs).map (Place.firstQueue, ·) ++
    flow.builder.held.map (fun staged => (Place.builder, staged.job)) ++
    (Entry.items flow.built).map (fun staged => (Place.builtQueue, staged.job)) ++
    flow.signers.zipIdx.flatMap (fun signer =>
      signer.1.held.map fun staged => (Place.signer signer.2, staged.job)) ++
    (Entry.items flow.signed).map (fun staged => (Place.signedQueue, staged.job)) ++
    flow.submitter.held.map (fun staged => (Place.submitter, staged.job)) ++
    (Entry.items flow.outcomes).map (fun staged => (Place.outcomes, staged.job))

/-- The items that the builder has taken, wherever they are. -/
def underway (flow : Flow Desk Job Built Signed Receipt) : List Job :=
  flow.builder.held.map Staged.job ++ (Entry.items flow.built).map Staged.job ++
    (flow.signers.flatMap Station.held).map Staged.job ++
    (Entry.items flow.signed).map Staged.job ++ flow.submitter.held.map Staged.job ++
    (Entry.items flow.outcomes).map Staged.job

theorem located_map_snd (flow : Flow Desk Job Built Signed Receipt) :
    flow.located.map Prod.snd =
      Entry.items flow.entering ++ Entry.items flow.jobs ++ flow.underway := by
  have signers : (flow.signers.zipIdx.flatMap fun signer => signer.1.held.map Staged.job) =
      (flow.signers.flatMap Station.held).map Staged.job := by
    rw [← List.zipIdx_map_fst 0 flow.signers, List.flatMap_map, List.map_flatMap]
    simp
  simp [located, underway, List.map_flatMap, Function.comp_def, signers]

theorem mem_located_caller
    {flow : Flow Desk Job Built Signed Receipt}
    {job : Job} :
    (Place.caller, job) ∈ flow.located ↔ job ∈ Entry.items flow.entering := by
  simp [located]

/-- Every move keeps what is underway, but the one with which the builder takes an item. -/
theorem Change.underway_perm
    {stages : Stages Desk Job Built Signed Receipt}
    {flow next : Flow Desk Job Built Signed Receipt}
    {move : Move}
    {history : History Desk Job}
    (change : Change stages flow move next)
    (conserved : history.taken.map Prod.fst ~ flow.underway) :
    (history.after flow move).taken.map Prod.fst ~ next.underway := by
  classical
  rw [List.perm_iff_count] at conserved ⊢
  intro job
  have counted := conserved job
  simp only [underway, List.count_append] at counted ⊢
  cases change with
  | enter => simpa only [History.after] using counted
  | prepare unprepared =>
      simpa only [History.after, unprepared, Station.held_unprepared, Station.held_idle]
        using counted
  | buildItem idle queued =>
      simp only [idle, Station.held_idle, List.map_nil, List.count_nil] at counted
      simp only [History.after, queued, Station.held_holding, List.map_append, List.map_cons,
        List.map_nil, List.count_append]
      omega
  | buildFinish idle queued =>
      simpa only [History.after, queued, idle, Station.held_idle, Station.held_finishing]
        using counted
  | passBuilt passed =>
      simp only [Station.held_of_pass passed, List.map_append, List.count_append] at counted
      simp only [History.after, Entry.items_append, List.map_append, List.count_append]
      omega
  | @signItem signer staged rest idle queued =>
      have exchanged := Station.flatMap_held_set_perm idle
        (.holding ⟨staged.job, staged.result.bind (stages.sign staged.job)⟩)
      have signers := (exchanged.map Staged.job).count_eq job
      simp only [queued, Entry.items_item, List.map_cons, List.count_cons] at counted
      simp only [Station.held_idle, Station.held_holding, List.append_nil, List.map_append,
        List.map_cons, List.map_nil, List.count_append, List.count_cons, List.count_nil] at signers
      simp only [History.after]
      omega
  | signFinish idle queued =>
      have exchanged := Station.flatMap_held_set_perm idle (.finishing 1)
      have signers := (exchanged.map Staged.job).count_eq job
      simp only [queued, Entry.items_finish] at counted
      simp only [Station.held_idle, Station.held_finishing, List.append_nil] at signers
      simp only [History.after]
      omega
  | @passSigned signer station nextStation entry found passed =>
      have exchanged := Station.flatMap_held_set_perm found nextStation
      have signers := (exchanged.map Staged.job).count_eq job
      simp only [Station.held_of_pass passed, List.map_append, List.count_append] at signers
      simp only [History.after, Entry.items_append, List.map_append, List.count_append]
      omega
  | submitItem idle working queued =>
      simp only [idle, queued, Station.held_idle, Entry.items_item, List.map_cons, List.map_nil,
        List.count_cons, List.count_nil] at counted
      simp only [History.after, Station.held_holding, List.map_cons, List.map_nil, List.count_cons,
        List.count_nil]
      omega
  | @submitFinish remaining rest idle _ queued =>
      have nothingHeld : (if remaining = 0 then Station.finishing 1 else .idle :
          Station (Staged Job Receipt)).held = [] := by
        split <;> rfl
      simpa only [History.after, nothingHeld, idle, queued, Station.held_idle, Entry.items_finish]
        using counted
  | passOutcome passed =>
      simp only [Station.held_of_pass passed, List.map_append, List.count_append] at counted
      simp only [History.after, Entry.items_append, List.map_append, List.count_append]
      omega

end Flow

/-! ## What the stages have made of the items -/

section Results

variable (stages : Stages Desk Job Built Signed Receipt) (taken : List (Job × Desk))

/-- The builder took the item and made this of it. -/
def Staged.IsBuilt (staged : Staged Job Built) : Prop :=
  ∃ desk, (staged.job, desk) ∈ taken ∧ staged.result = (stages.build desk staged.job).1

/-- A signer made this of what the builder had made of the item. -/
def Staged.IsSigned (staged : Staged Job Signed) : Prop :=
  ∃ desk, (staged.job, desk) ∈ taken ∧
    staged.result = (stages.build desk staged.job).1.bind (stages.sign staged.job)

/-- The submitter made this of what a signer had made of the item. -/
def Staged.IsSubmitted (staged : Staged Job Receipt) : Prop :=
  ∃ desk, (staged.job, desk) ∈ taken ∧
    staged.result = ((stages.build desk staged.job).1.bind (stages.sign staged.job)).bind
      (stages.submit staged.job)

/-- Everywhere in the flow is what the stages have made of items that the builder took. -/
structure Flow.Results (flow : Flow Desk Job Built Signed Receipt) : Prop where
  builder : ∀ staged ∈ flow.builder.held, staged.IsBuilt stages taken
  built : ∀ staged ∈ Entry.items flow.built, staged.IsBuilt stages taken
  signers : ∀ staged ∈ flow.signers.flatMap Station.held, staged.IsSigned stages taken
  signed : ∀ staged ∈ Entry.items flow.signed, staged.IsSigned stages taken
  submitter : ∀ staged ∈ flow.submitter.held, staged.IsSubmitted stages taken
  outcomes : ∀ staged ∈ Entry.items flow.outcomes, staged.IsSubmitted stages taken

end Results

variable {stages : Stages Desk Job Built Signed Receipt}

theorem History.subset_taken_after
    (history : History Desk Job)
    (flow : Flow Desk Job Built Signed Receipt)
    (move : Flow.Move) :
    history.taken ⊆ (history.after flow move).taken := by
  unfold History.after
  split
  case h_2 =>
    split
    · exact List.subset_append_left _ _
    · exact List.Subset.refl _
  all_goals exact List.Subset.refl _

namespace Flow

/-- Results stay what they are when the builder takes more items. -/
theorem Results.grow
    {flow : Flow Desk Job Built Signed Receipt}
    {taken taken' : List (Job × Desk)}
    (results : flow.Results stages taken)
    (grown : taken ⊆ taken') :
    flow.Results stages taken' := by
  constructor
  · exact fun staged member =>
      (results.builder staged member).imp fun _ from_ => ⟨grown from_.1, from_.2⟩
  · exact fun staged member =>
      (results.built staged member).imp fun _ from_ => ⟨grown from_.1, from_.2⟩
  · exact fun staged member =>
      (results.signers staged member).imp fun _ from_ => ⟨grown from_.1, from_.2⟩
  · exact fun staged member =>
      (results.signed staged member).imp fun _ from_ => ⟨grown from_.1, from_.2⟩
  · exact fun staged member =>
      (results.submitter staged member).imp fun _ from_ => ⟨grown from_.1, from_.2⟩
  · exact fun staged member =>
      (results.outcomes staged member).imp fun _ from_ => ⟨grown from_.1, from_.2⟩

theorem forall_of_eq_nil
    {α : Type}
    {P : α → Prop}
    {contents : List α}
    (empty : contents = []) :
    ∀ content ∈ contents, P content := by
  simp [empty]

/-- What holds of all that a station and the queue behind it hold is kept when the station passes
an entry on. -/
theorem forall_held_of_pass
    {α : Type}
    {P : α → Prop}
    {station next : Station α}
    {entry : Entry α}
    {queue : List (Entry α)}
    (passed : station.pass = some (entry, next))
    (held : ∀ content ∈ station.held, P content)
    (queued : ∀ content ∈ Entry.items queue, P content) :
    (∀ content ∈ next.held, P content) ∧
      ∀ content ∈ Entry.items (queue ++ [entry]), P content := by
  rw [Station.held_of_pass passed] at held
  obtain ⟨entryHolds, nextHolds⟩ := List.forall_mem_append.mp held
  exact ⟨nextHolds, by
    rw [Entry.items_append]
    exact List.forall_mem_append.mpr ⟨queued, entryHolds⟩⟩

/-- What holds of all that stations hold is kept when one of them comes to hold something of
which it holds. -/
theorem forall_held_set
    {α : Type}
    {P : α → Prop}
    {stations : List (Station α)}
    {position : Nat}
    {before after : Station α}
    (found : stations[position]? = some before)
    (held : ∀ content ∈ stations.flatMap Station.held, P content)
    (afterHolds : ∀ content ∈ after.held, P content) :
    ∀ content ∈ (stations.set position after).flatMap Station.held, P content := by
  intro content member
  have exchanged := Station.flatMap_held_set_perm found after
  rcases List.mem_append.mp (exchanged.subset (List.mem_append_left _ member)) with old | new
  · exact held content old
  · exact afterHolds content new

theorem Results.change
    {flow next : Flow Desk Job Built Signed Receipt}
    {move : Move}
    {history : History Desk Job}
    (results : flow.Results stages history.taken)
    (change : Change stages flow move next) :
    next.Results stages (history.after flow move).taken := by
  have grown := results.grow (history.subset_taken_after flow move)
  obtain ⟨builder, built, signers, signed, submitter, outcomes⟩ := grown
  cases change with
  | enter => exact ⟨builder, built, signers, signed, submitter, outcomes⟩
  | prepare => exact ⟨forall_of_eq_nil rfl, built, signers, signed, submitter, outcomes⟩
  | @buildItem job rest idle queued =>
      refine ⟨?_, built, signers, signed, submitter, outcomes⟩
      intro staged member
      cases List.mem_singleton.mp member
      exact ⟨flow.desk, by simp [History.after, queued], rfl⟩
  | buildFinish => exact ⟨forall_of_eq_nil rfl, built, signers, signed, submitter, outcomes⟩
  | passBuilt passed =>
      obtain ⟨builder, built⟩ := forall_held_of_pass passed builder built
      exact ⟨builder, built, signers, signed, submitter, outcomes⟩
  | signItem idle queued =>
      rw [queued] at built
      obtain ⟨⟨desk, isTaken, resultEq⟩, rest⟩ := List.forall_mem_cons.mp built
      refine ⟨builder, rest, forall_held_set idle signers ?_, signed, submitter, outcomes⟩
      intro staged member
      cases List.mem_singleton.mp member
      exact ⟨desk, isTaken, by rw [resultEq]⟩
  | signFinish idle queued =>
      rw [queued] at built
      exact ⟨builder, built, forall_held_set idle signers (forall_of_eq_nil rfl), signed,
        submitter, outcomes⟩
  | @passSigned signer station nextStation entry found passed =>
      have stationHeld : ∀ staged ∈ station.held, staged.IsSigned stages _ := fun staged member =>
        signers staged (List.mem_flatMap.mpr ⟨station, List.mem_of_getElem? found, member⟩)
      obtain ⟨nextHeld, signed⟩ := forall_held_of_pass passed stationHeld signed
      exact ⟨builder, built, forall_held_set found signers nextHeld, signed, submitter, outcomes⟩
  | submitItem idle working queued =>
      rw [queued] at signed
      obtain ⟨⟨desk, isTaken, resultEq⟩, rest⟩ := List.forall_mem_cons.mp signed
      refine ⟨builder, built, signers, rest, ?_, outcomes⟩
      intro staged member
      cases List.mem_singleton.mp member
      exact ⟨desk, isTaken, by rw [resultEq]⟩
  | @submitFinish remaining rest idle counted queued =>
      rw [queued] at signed
      refine ⟨builder, built, signers, signed, ?_, outcomes⟩
      intro staged member
      split at member <;> cases member
  | passOutcome passed =>
      obtain ⟨submitter, outcomes⟩ := forall_held_of_pass passed submitter outcomes
      exact ⟨builder, built, signers, signed, submitter, outcomes⟩

theorem Change.length_signers
    {flow next : Flow Desk Job Built Signed Receipt}
    {move : Move}
    (change : Change stages flow move next) :
    next.signers.length = flow.signers.length := by
  cases change <;> simp

end Flow

/-! ## The invariant -/

namespace Course

/-- The finish mark that the builder has taken, if it has taken one. -/
def finishTaken (builder : Station (Staged Job Built)) : List (Entry Job) :=
  if builder.isLive then [] else [.finish]

@[simp] theorem items_finishTaken (builder : Station (Staged Job Built)) :
    Entry.items (finishTaken builder : List (Entry Job)) = [] := by
  unfold finishTaken
  split <;> rfl

/-- What holds of every course: nothing that callers bring gets lost or comes twice, the builder
takes what has come in by its order, finish marks are in order, and the stages hold what they have
made of the items taken. -/
structure Invariant
    (stages : Stages Desk Job Built Signed Receipt)
    (course : Course Desk Job Built Signed Receipt) : Prop where
  someSigner : 0 < course.flow.signers.length
  callers : course.history.brought ~ course.history.entered ++ course.flow.entering
  inOrder : course.history.entered =
    course.history.taken.map (fun pair => .item pair.1) ++ finishTaken course.flow.builder ++
      course.flow.jobs
  marks : course.flow.FinishMarks
  conserved : course.history.taken.map Prod.fst ~ course.flow.underway
  results : course.flow.Results stages course.history.taken

theorem invariant_initial
    {capacity signers : Nat}
    {desk : Desk}
    (someSigner : 0 < signers) :
    Invariant stages ⟨(.initial capacity signers desk : Flow Desk Job Built Signed Receipt), {}⟩ := by
  have noneHeld : (List.replicate signers
      (Station.idle : Station (Staged Job Signed))).flatMap Station.held = [] := by
    simp
  refine ⟨by simpa [Flow.initial] using someSigner, .nil, rfl,
    Flow.finishMarks_initial desk someSigner, ?_, ?_⟩
  · simp only [Flow.underway, Flow.initial, noneHeld]
    exact .nil
  · exact ⟨Flow.forall_of_eq_nil rfl, Flow.forall_of_eq_nil rfl, Flow.forall_of_eq_nil noneHeld,
      Flow.forall_of_eq_nil rfl, Flow.forall_of_eq_nil rfl, Flow.forall_of_eq_nil rfl⟩

theorem callers_change
    {flow next : Flow Desk Job Built Signed Receipt}
    {move : Flow.Move}
    {history : History Desk Job}
    (callers : history.brought ~ history.entered ++ flow.entering)
    (change : Flow.Change stages flow move next) :
    (history.after flow move).brought ~ (history.after flow move).entered ++ next.entering := by
  cases change with
  | @enter position entry waiting room =>
      obtain ⟨inRange, rfl⟩ := List.getElem?_eq_some_iff.mp waiting
      simp only [History.after, waiting, Option.toList_some, List.append_assoc,
        List.singleton_append]
      exact callers.trans ((List.getElem_cons_eraseIdx_perm inRange).symm.append_left _)
  | buildItem idle queued => simpa only [History.after, queued] using callers
  | buildFinish idle queued => simpa only [History.after, queued] using callers
  | _ => exact callers

theorem inOrder_change
    {flow next : Flow Desk Job Built Signed Receipt}
    {move : Flow.Move}
    {history : History Desk Job}
    (inOrder : history.entered =
      history.taken.map (fun pair => .item pair.1) ++ finishTaken flow.builder ++ flow.jobs)
    (change : Flow.Change stages flow move next) :
    (history.after flow move).entered =
      (history.after flow move).taken.map (fun pair => .item pair.1) ++
        finishTaken next.builder ++ next.jobs := by
  cases change with
  | enter waiting =>
      simp only [History.after, waiting, Option.toList_some, inOrder, List.append_assoc]
  | prepare unprepared =>
      rw [unprepared] at inOrder
      exact inOrder
  | buildItem idle queued =>
      rw [idle, queued] at inOrder
      simpa [History.after, queued, finishTaken, Station.isLive] using inOrder
  | buildFinish idle queued =>
      rw [idle, queued] at inOrder
      simpa [History.after, queued, finishTaken, Station.isLive] using inOrder
  | passBuilt passed =>
      simpa only [History.after, finishTaken, Station.isLive_of_pass passed] using inOrder
  | _ => exact inOrder

/-- Every step keeps the invariant. -/
theorem Invariant.step
    {course next : Course Desk Job Built Signed Receipt}
    (invariant : Invariant stages course)
    (step : Step stages course next) :
    Invariant stages next := by
  obtain ⟨someSigner, callers, inOrder, marks, conserved, results⟩ := invariant
  cases step with
  | bring entry =>
      refine ⟨someSigner, ?_, inOrder, ⟨marks.builder, marks.signers, marks.submitter⟩, conserved,
        ⟨results.builder, results.built, results.signers, results.signed, results.submitter,
          results.outcomes⟩⟩
      simpa [Flow.bring] using callers.append_right [entry]
  | tune desk =>
      exact ⟨someSigner, callers, inOrder, ⟨marks.builder, marks.signers, marks.submitter⟩,
        conserved, ⟨results.builder, results.built, results.signers, results.signed,
          results.submitter, results.outcomes⟩⟩
  | move moved =>
      have change := Flow.change_of_move moved
      exact ⟨by rw [change.length_signers]; exact someSigner, callers_change callers change,
        inOrder_change inOrder change, marks.change change, change.underway_perm conserved,
        results.change change⟩

/-- Every item brought is in one place for each time that it was brought. -/
theorem Invariant.located_perm
    {course : Course Desk Job Built Signed Receipt}
    (invariant : Invariant stages course) :
    course.flow.located.map Prod.snd ~ Entry.items course.history.brought := by
  have brought := Entry.perm_items invariant.callers
  have entered : Entry.items course.history.entered =
      course.history.taken.map Prod.fst ++ Entry.items course.flow.jobs := by
    have taken : (course.history.taken.map fun pair => (Entry.item pair.1 : Entry Job)) =
        (course.history.taken.map Prod.fst).map Entry.item :=
      (List.map_map ..).symm
    rw [invariant.inOrder, taken, Entry.items_append, Entry.items_append, Entry.items_map_item,
      items_finishTaken, List.append_nil]
  rw [Flow.located_map_snd]
  refine .trans ?_ brought.symm
  rw [Entry.items_append, entered]
  calc Entry.items course.flow.entering ++ Entry.items course.flow.jobs ++ course.flow.underway
    _ ~ course.flow.underway ++
          (Entry.items course.flow.entering ++ Entry.items course.flow.jobs) :=
        List.perm_append_comm
    _ ~ course.history.taken.map Prod.fst ++
          (Entry.items course.flow.jobs ++ Entry.items course.flow.entering) :=
        invariant.conserved.symm.append List.perm_append_comm
    _ = course.history.taken.map Prod.fst ++ Entry.items course.flow.jobs ++
          Entry.items course.flow.entering :=
        (List.append_assoc ..).symm

/-- Once the finish mark is out, it is behind all outcomes, which are those of the items that came
in before the mark that the builder took. -/
theorem Invariant.finished
    {course : Course Desk Job Built Signed Receipt}
    (invariant : Invariant stages course)
    (finished : .finish ∈ course.flow.outcomes) :
    ∃ outcomes : List (Staged Job Receipt),
      course.flow.outcomes = outcomes.map .item ++ [.finish] ∧
        course.history.taken.map Prod.fst ~ outcomes.map Staged.job ∧
        course.history.entered =
          course.history.taken.map (fun pair => .item pair.1) ++ .finish :: course.flow.jobs := by
  obtain ⟨⟨outcomes, outcomesEq⟩, builderEnded, builtEmpty, signersDone, signedEmpty,
    submitterDone⟩ := invariant.marks.finished invariant.someSigner finished
  have builderEmpty : course.flow.builder.held = [] := by
    cases builder : course.flow.builder <;> simp_all [Station.isLive]
  have signersEmpty : course.flow.signers.flatMap Station.held = [] := by
    rw [List.flatMap_eq_nil_iff]
    intro station member
    have done := signersDone station member
    cases station <;> simp_all [Station.isDone]
  refine ⟨outcomes, outcomesEq, ?_, ?_⟩
  · have conserved := invariant.conserved
    simpa [Flow.underway, builderEmpty, builtEmpty, signersEmpty, signedEmpty, submitterDone,
      outcomesEq] using conserved
  · simpa [finishTaken, builderEnded] using invariant.inOrder

end Course

end MoveClient
