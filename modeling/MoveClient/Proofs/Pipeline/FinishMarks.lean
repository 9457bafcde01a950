import MoveClient.Proofs.Pipeline.Changes

/-!
Where the finish marks of a flow are.

The builder makes of one finish mark as many as there are signers, every signer takes exactly one
of them, and the submitter makes one of all that the signers pass on.

Owns:
- the invariants that tie the marks in flight to the stations that have still to take one, for the
  builder, the signers and the submitter;
- that every move keeps them;
- what they say once the submitter has put out its mark: nothing is left between the stages.

Does not own: which items come through.
-/

namespace MoveClient.Flow

variable {Desk Job Built Signed Receipt : Type}

/-- The marks between the builder and the signers. -/
structure BuilderMarks
    (builder : Station (Staged Job Built))
    (built : List (Entry (Staged Job Built)))
    (signers : List (Station (Staged Job Signed))) : Prop where
  /-- Before the builder has taken a mark there is none behind it. -/
  before : builder.isLive = true → Entry.marks built = 0 ∧ signers.countP Station.isLive = signers.length
  /-- Afterwards there is one for every signer that has not taken its own. -/
  after : builder.isLive = false →
    builder.owed + Entry.marks built = signers.countP Station.isLive
  marksLast : Entry.MarksLast built
  /-- Once a signer has taken its mark, only marks are left for the others. -/
  noItems : signers.countP Station.isLive < signers.length → Entry.items built = []

/-- The marks between the signers and the submitter. -/
structure SignerMarks
    (signers : List (Station (Staged Job Signed)))
    (signed : List (Entry (Staged Job Signed)))
    (remaining : Nat) : Prop where
  oneEach : ∀ marks, .finishing marks ∈ signers → marks = 1
  /-- The submitter waits for the marks on their way and those of the signers that go on. -/
  counted : remaining + signers.countP Station.isDone = signers.length + Entry.marks signed
  /-- The last signer to end leaves its mark behind all items. -/
  noItemLast : signers.countP Station.isDone = signers.length →
    ∀ earlier staged, signed ≠ earlier ++ [.item staged]

/-- The mark behind the submitter. -/
structure SubmitterMarks
    (submitter : Station (Staged Job Receipt))
    (remaining : Nat)
    (outcomes : List (Entry (Staged Job Receipt))) : Prop where
  working : 0 < remaining → submitter.isLive = true ∧ Entry.marks outcomes = 0
  ending : remaining = 0 →
    (submitter = .finishing 1 ∧ Entry.marks outcomes = 0) ∨
      (submitter = .done ∧ ∃ items : List (Staged Job Receipt),
        outcomes = items.map .item ++ [.finish])

/-- The marks of a flow are in order. -/
structure FinishMarks (flow : Flow Desk Job Built Signed Receipt) : Prop where
  builder : BuilderMarks flow.builder flow.built flow.signers
  signers : SignerMarks flow.signers flow.signed flow.remaining
  submitter : SubmitterMarks flow.submitter flow.remaining flow.outcomes

/-! ## Counting stations -/

theorem countP_set_of_getElem?
    {α : Type}
    {stations : List (Station α)}
    {position : Nat}
    {before : Station α}
    (found : stations[position]? = some before)
    (holds : Station α → Bool)
    (after : Station α) :
    (stations.set position after).countP holds + (if holds before then 1 else 0) =
      stations.countP holds + (if holds after then 1 else 0) := by
  obtain ⟨inRange, rfl⟩ := List.getElem?_eq_some_iff.mp found
  have positive : holds stations[position] = true → 0 < stations.countP holds :=
    fun holdsBefore => List.countP_pos_iff.mpr ⟨_, List.getElem_mem inRange, holdsBefore⟩
  rw [List.countP_set inRange]
  cases holdsBefore : holds stations[position] with
  | false => simp
  | true =>
      have := positive holdsBefore
      simp only [if_true]
      omega

/-! ## The builder -/

namespace BuilderMarks

variable {builder : Station (Staged Job Built)}
  {built : List (Entry (Staged Job Built))}
  {signers : List (Station (Staged Job Signed))}

theorem restart
    (marks : BuilderMarks builder built signers)
    (live : builder.isLive = true)
    {next : Station (Staged Job Built)}
    (nextLive : next.isLive = true) :
    BuilderMarks next built signers :=
  ⟨fun _ => marks.before live, fun ended => (by simp [nextLive] at ended), marks.marksLast,
    marks.noItems⟩

theorem takeFinish
    (marks : BuilderMarks builder built signers)
    (live : builder.isLive = true) :
    BuilderMarks (.finishing signers.length) built signers := by
  obtain ⟨noMarks, allLive⟩ := marks.before live
  refine ⟨fun live => (by cases live), fun _ => ?_, marks.marksLast,
    marks.noItems⟩
  simp only [Station.owed, noMarks, allLive, Nat.add_zero]

theorem pass
    (marks : BuilderMarks builder built signers)
    {entry : Entry (Staged Job Built)}
    {next : Station (Staged Job Built)}
    (passed : builder.pass = some (entry, next)) :
    BuilderMarks next (built ++ [entry]) signers := by
  obtain ⟨staged, rfl, rfl, rfl⟩ | ⟨owed, rfl, rfl, rfl⟩ := Station.pass_eq_some_iff.mp passed
  · obtain ⟨noMarks, allLive⟩ := marks.before rfl
    refine ⟨fun _ => ⟨by simpa using noMarks, allLive⟩,
      fun ended => (by cases ended), .of_marks_eq_zero (by simpa using noMarks), ?_⟩
    intro someEnded
    omega
  · have counted := marks.after rfl
    have ended : (if owed = 0 then Station.done else .finishing owed :
        Station (Staged Job Built)).isLive = false := by
      split <;> rfl
    have nextOwed : (if owed = 0 then Station.done else .finishing owed :
        Station (Staged Job Built)).owed = owed := by
      split <;> simp_all [Station.owed]
    refine ⟨fun live => ?_, fun _ => ?_, marks.marksLast.append_finish, ?_⟩
    · rw [ended] at live
      cases live
    · simp only [Station.owed] at counted
      simp only [nextOwed, Entry.marks_append, Entry.marks_finish, Entry.marks_nil]
      omega
    · intro someEnded
      simpa using marks.noItems someEnded

theorem signItem
    {staged : Staged Job Built}
    {rest : List (Entry (Staged Job Built))}
    {signer : Nat}
    (marks : BuilderMarks builder (.item staged :: rest) signers)
    (idle : signers[signer]? = some .idle)
    (signed : Staged Job Signed) :
    BuilderMarks builder rest (signers.set signer (.holding signed)) := by
  have live : (signers.set signer (.holding signed)).countP Station.isLive =
      signers.countP Station.isLive := by
    simpa [Station.isLive] using countP_set_of_getElem? idle Station.isLive (.holding signed)
  refine ⟨fun builderLive => ?_, fun ended => ?_, marks.marksLast.tail, fun someEnded => ?_⟩
  · simpa [live] using marks.before builderLive
  · simpa [live] using marks.after ended
  · rw [live, List.length_set] at someEnded
    have noItems := marks.noItems someEnded
    simp at noItems

theorem signFinish
    {rest : List (Entry (Staged Job Built))}
    {signer : Nat}
    (marks : BuilderMarks builder (.finish :: rest) signers)
    (idle : signers[signer]? = some .idle) :
    BuilderMarks builder rest (signers.set signer (.finishing 1)) := by
  have live : (signers.set signer (.finishing 1)).countP Station.isLive + 1 =
      signers.countP Station.isLive := by
    simpa [Station.isLive] using
      countP_set_of_getElem? idle Station.isLive (Station.finishing 1)
  refine ⟨fun builderLive => ?_, fun ended => ?_, marks.marksLast.tail, fun _ => ?_⟩
  · have noMarks := (marks.before builderLive).1
    simp at noMarks
  · have counted := marks.after ended
    simp only [Entry.marks_finish] at counted
    omega
  · exact marks.marksLast.items_behind_finish

theorem setSigner
    (marks : BuilderMarks builder built signers)
    {signer : Nat}
    {station next : Station (Staged Job Signed)}
    (found : signers[signer]? = some station)
    (sameLive : next.isLive = station.isLive) :
    BuilderMarks builder built (signers.set signer next) := by
  have live : (signers.set signer next).countP Station.isLive =
      signers.countP Station.isLive := by
    have counted := countP_set_of_getElem? found Station.isLive next
    rw [sameLive] at counted
    omega
  refine ⟨?_, ?_, marks.marksLast, ?_⟩
  · rw [live, List.length_set]
    exact marks.before
  · rw [live]
    exact marks.after
  · rw [live, List.length_set]
    exact marks.noItems

end BuilderMarks

/-! ## The signers -/

namespace SignerMarks

variable {signers : List (Station (Staged Job Signed))}
  {signed : List (Entry (Staged Job Signed))}
  {remaining : Nat}

/-- A signer that takes an entry has not ended, before and after. -/
theorem take
    (marks : SignerMarks signers signed remaining)
    {signer : Nat}
    {next : Station (Staged Job Signed)}
    (idle : signers[signer]? = some .idle)
    (nextAtWork : next.isDone = false)
    (oneMark : ∀ owed, next = .finishing owed → owed = 1) :
    SignerMarks (signers.set signer next) signed remaining := by
  have ended : (signers.set signer next).countP Station.isDone =
      signers.countP Station.isDone := by
    have changed := countP_set_of_getElem? idle Station.isDone next
    rw [nextAtWork] at changed
    exact changed
  have notAll : signers.countP Station.isDone ≠ signers.length := fun allDone => by
    have idleDone := List.countP_eq_length.mp allDone _ (List.mem_of_getElem? idle)
    cases idleDone
  refine ⟨fun owed member => ?_, ?_, ?_⟩
  · rcases List.mem_or_eq_of_mem_set member with member | rfl
    · exact marks.oneEach owed member
    · exact oneMark owed rfl
  · rw [ended, List.length_set]
    exact marks.counted
  · rw [ended, List.length_set]
    exact fun allDone => absurd allDone notAll

theorem pass
    (marks : SignerMarks signers signed remaining)
    {signer : Nat}
    {station next : Station (Staged Job Signed)}
    {entry : Entry (Staged Job Signed)}
    (found : signers[signer]? = some station)
    (passed : station.pass = some (entry, next)) :
    SignerMarks (signers.set signer next) (signed ++ [entry]) remaining := by
  have changed := countP_set_of_getElem? found Station.isDone next
  have counted := marks.counted
  obtain ⟨staged, rfl, rfl, rfl⟩ | ⟨owed, rfl, rfl, rfl⟩ := Station.pass_eq_some_iff.mp passed
  · have atWork := countP_set_of_getElem? found Station.isDone Station.idle
    refine ⟨fun owed member => ?_, ?_, fun allDone => ?_⟩
    · rcases List.mem_or_eq_of_mem_set member with member | isIdle
      · exact marks.oneEach owed member
      · cases isIdle
    · simp [Station.isDone] at changed ⊢
      omega
    · have inRange := (List.getElem?_eq_some_iff.mp found).1
      have idleDone := List.countP_eq_length.mp allDone _ (List.mem_set inRange .idle)
      cases idleDone
  · have single : owed = 0 := by
      have := marks.oneEach _ (List.mem_of_getElem? found)
      omega
    subst single
    refine ⟨fun owed member => ?_, ?_, fun _ earlier staged => ?_⟩
    · rcases List.mem_or_eq_of_mem_set member with member | isDone
      · exact marks.oneEach owed member
      · cases isDone
    · simp [Station.isDone] at changed ⊢
      omega
    · intro signedEq
      have lastEq := congrArg List.getLast? signedEq
      simp at lastEq

theorem submitItem
    {staged : Staged Job Signed}
    {rest : List (Entry (Staged Job Signed))}
    (marks : SignerMarks signers (.item staged :: rest) remaining) :
    SignerMarks signers rest remaining := by
  refine ⟨marks.oneEach, by simpa using marks.counted, fun allDone earlier last restEq => ?_⟩
  exact marks.noItemLast allDone (.item staged :: earlier) last (by rw [restEq]; rfl)

theorem submitFinish
    {rest : List (Entry (Staged Job Signed))}
    (marks : SignerMarks signers (.finish :: rest) (remaining + 1)) :
    SignerMarks signers rest remaining := by
  have counted := marks.counted
  refine ⟨marks.oneEach, ?_, fun allDone earlier last restEq => ?_⟩
  · simp only [Entry.marks_finish] at counted
    omega
  · exact marks.noItemLast allDone (.finish :: earlier) last (by rw [restEq]; rfl)

end SignerMarks

/-! ## The submitter -/

namespace SubmitterMarks

variable {submitter : Station (Staged Job Receipt)}
  {remaining : Nat}
  {outcomes : List (Entry (Staged Job Receipt))}

theorem takeItem
    (marks : SubmitterMarks submitter remaining outcomes)
    (working : 0 < remaining)
    (staged : Staged Job Receipt) :
    SubmitterMarks (.holding staged) remaining outcomes :=
  ⟨fun _ => ⟨rfl, (marks.working working).2⟩, fun ended => absurd ended (Nat.ne_of_gt working)⟩

theorem takeFinish
    (marks : SubmitterMarks submitter (remaining + 1) outcomes) :
    SubmitterMarks (if remaining = 0 then .finishing 1 else .idle) remaining outcomes := by
  have noMarks := (marks.working (Nat.succ_pos remaining)).2
  refine ⟨fun working => ?_, fun ended => ?_⟩
  · rw [if_neg (Nat.ne_of_gt working)]
    exact ⟨rfl, noMarks⟩
  · rw [if_pos ended]
    exact .inl ⟨rfl, noMarks⟩

theorem pass
    (marks : SubmitterMarks submitter remaining outcomes)
    {entry : Entry (Staged Job Receipt)}
    {next : Station (Staged Job Receipt)}
    (passed : submitter.pass = some (entry, next)) :
    SubmitterMarks next remaining (outcomes ++ [entry]) := by
  obtain ⟨staged, rfl, rfl, rfl⟩ | ⟨owed, rfl, rfl, rfl⟩ := Station.pass_eq_some_iff.mp passed
  · refine ⟨fun working => ?_, fun ended => ?_⟩
    · exact ⟨rfl, by simpa using (marks.working working).2⟩
    · rcases marks.ending ended with ⟨isFinishing, _⟩ | ⟨isDone, _⟩
      · cases isFinishing
      · cases isDone
  · have ended : remaining = 0 := by
      by_contra notEnded
      have live := (marks.working (Nat.pos_of_ne_zero notEnded)).1
      cases live
    rcases marks.ending ended with ⟨isFinishing, noMarks⟩ | ⟨isDone, _⟩
    · cases isFinishing
      refine ⟨fun working => absurd ended (Nat.ne_of_gt working), fun _ => .inr ⟨rfl, ?_⟩⟩
      exact ⟨Entry.items outcomes, by rw [← Entry.eq_map_item_of_marks_eq_zero noMarks]⟩
    · cases isDone

end SubmitterMarks

/-! ## The flow -/

theorem FinishMarks.change
    {stages : Stages Desk Job Built Signed Receipt}
    {flow next : Flow Desk Job Built Signed Receipt}
    {move : Move}
    (marks : FinishMarks flow)
    (change : Change stages flow move next) :
    FinishMarks next := by
  obtain ⟨builder, signers, submitter⟩ := marks
  cases change with
  | enter => exact ⟨builder, signers, submitter⟩
  | prepare unprepared =>
      exact ⟨builder.restart (by rw [unprepared]; rfl) rfl, signers, submitter⟩
  | buildItem idle =>
      exact ⟨builder.restart (by rw [idle]; rfl) rfl, signers, submitter⟩
  | buildFinish idle =>
      exact ⟨builder.takeFinish (by rw [idle]; rfl), signers, submitter⟩
  | passBuilt passed => exact ⟨builder.pass passed, signers, submitter⟩
  | signItem idle queued =>
      rw [queued] at builder
      exact ⟨builder.signItem idle _, signers.take idle rfl (by simp), submitter⟩
  | signFinish idle queued =>
      rw [queued] at builder
      refine ⟨builder.signFinish idle, signers.take idle rfl ?_, submitter⟩
      rintro _ ⟨⟩
      rfl
  | passSigned found passed =>
      exact ⟨builder.setSigner found (Station.isLive_of_pass passed), signers.pass found passed,
        submitter⟩
  | submitItem idle working queued =>
      rw [queued] at signers
      exact ⟨builder, signers.submitItem, submitter.takeItem working _⟩
  | submitFinish idle counted queued =>
      rw [queued, counted] at signers
      rw [counted] at submitter
      exact ⟨builder, signers.submitFinish, submitter.takeFinish⟩
  | passOutcome passed => exact ⟨builder, signers, submitter.pass passed⟩

theorem finishMarks_initial
    {capacity signers : Nat}
    (desk : Desk)
    (someSigner : 0 < signers) :
    FinishMarks (initial capacity signers desk : Flow Desk Job Built Signed Receipt) := by
  have allLive : (List.replicate signers (Station.idle : Station (Staged Job Signed))).countP
      Station.isLive = signers := by
    simp [List.countP_replicate, Station.isLive]
  have noneDone : (List.replicate signers (Station.idle : Station (Staged Job Signed))).countP
      Station.isDone = 0 := by
    simp [List.countP_replicate, Station.isDone]
  refine ⟨⟨fun _ => ⟨rfl, ?_⟩, fun ended => (by cases ended), .marks rfl, fun _ => rfl⟩, ⟨?_, ?_, ?_⟩, ⟨?_, ?_⟩⟩
  · simpa [initial] using allLive
  · intro marks member
    have isIdle := List.eq_of_mem_replicate member
    cases isIdle
  · simp [initial, noneDone]
  · intro allDone earlier staged signedEq
    simp [initial] at signedEq
  · exact fun _ => ⟨rfl, rfl⟩
  · exact fun ended => absurd ended (Nat.ne_of_gt someSigner)

/-- Once the finish mark is out, it is behind all outcomes, and nothing is on its way from the
builder to it. -/
theorem FinishMarks.finished
    {flow : Flow Desk Job Built Signed Receipt}
    (marks : FinishMarks flow)
    (someSigner : 0 < flow.signers.length)
    (finished : .finish ∈ flow.outcomes) :
    (∃ items : List (Staged Job Receipt), flow.outcomes = items.map .item ++ [.finish]) ∧
      flow.builder.isLive = false ∧ flow.built = [] ∧
      (∀ station ∈ flow.signers, station.isDone = true) ∧ flow.signed = [] ∧
      flow.submitter = .done := by
  have outcomeMarks := Entry.marks_pos_of_mem finished
  have noneRemaining : flow.remaining = 0 := by
    by_contra stillRemaining
    have noMarks := (marks.submitter.working (Nat.pos_of_ne_zero stillRemaining)).2
    omega
  rcases marks.submitter.ending noneRemaining with ⟨_, noMarks⟩ | ⟨submitterDone, outcomesEq⟩
  · omega
  have counted := marks.signers.counted
  have bounded : flow.signers.countP Station.isDone ≤ flow.signers.length :=
    List.countP_le_length
  have allDone : flow.signers.countP Station.isDone = flow.signers.length := by omega
  have signerDone := List.countP_eq_length.mp allDone
  have signedEmpty : flow.signed = [] := by
    rcases List.eq_nil_or_concat' flow.signed with empty | ⟨earlier, last, signedEq⟩
    · exact empty
    · cases last with
      | item staged => exact absurd signedEq (marks.signers.noItemLast allDone earlier staged)
      | finish =>
          have noMarks : Entry.marks flow.signed = 0 := by omega
          simp [signedEq] at noMarks
  have noneLive : flow.signers.countP Station.isLive = 0 := by
    rw [List.countP_eq_zero]
    intro station member live
    have done := signerDone station member
    cases station <;> simp_all [Station.isLive, Station.isDone]
  have builderEnded : flow.builder.isLive = false := by
    cases builderLive : flow.builder.isLive with
    | false => rfl
    | true =>
        have allLive := (marks.builder.before builderLive).2
        omega
  have builtEmpty : flow.built = [] := by
    have balanced := marks.builder.after builderEnded
    have noItems := marks.builder.noItems (by omega)
    have noMarks : Entry.marks flow.built = 0 := by omega
    rw [Entry.eq_map_item_of_marks_eq_zero noMarks, noItems]
    rfl
  exact ⟨outcomesEq, builderEnded, builtEmpty, signerDone, signedEmpty, submitterDone⟩

end MoveClient.Flow
