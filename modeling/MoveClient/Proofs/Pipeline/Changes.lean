import MoveClient.Proofs.Pipeline.Entries

/-!
What the moves of a flow do.

Owns:
- `Flow.Change`, the moves with what each needs and what each leaves;
- that every move that can be made is such a change.

Does not own: what all moves keep; the other modules on pipelines derive it from the changes.
-/

namespace MoveClient.Flow

variable {Desk Job Built Signed Receipt : Type}

/-- A move with the flow after it. -/
inductive Change
    (stages : Stages Desk Job Built Signed Receipt)
    (flow : Flow Desk Job Built Signed Receipt) :
    Move → Flow Desk Job Built Signed Receipt → Prop
  | enter
      {position : Nat}
      {entry : Entry Job}
      (waiting : flow.entering[position]? = some entry)
      (room : flow.hasRoom flow.jobs = true) :
      Change stages flow (.enter position)
        { flow with
          entering := flow.entering.eraseIdx position
          jobs := flow.jobs ++ [entry] }
  | prepare
      (unprepared : flow.builder = .unprepared) :
      Change stages flow .prepare
        { flow with desk := stages.prepare flow.desk, builder := .idle }
  | buildItem
      {job : Job}
      {rest : List (Entry Job)}
      (idle : flow.builder = .idle)
      (queued : flow.jobs = .item job :: rest) :
      Change stages flow .build
        { flow with
          desk := (stages.build flow.desk job).2
          jobs := rest
          builder := .holding ⟨job, (stages.build flow.desk job).1⟩ }
  | buildFinish
      {rest : List (Entry Job)}
      (idle : flow.builder = .idle)
      (queued : flow.jobs = .finish :: rest) :
      Change stages flow .build
        { flow with jobs := rest, builder := .finishing flow.signers.length }
  | passBuilt
      {entry : Entry (Staged Job Built)}
      {builder : Station (Staged Job Built)}
      (passed : flow.builder.pass = some (entry, builder))
      (room : flow.hasRoom flow.built = true) :
      Change stages flow .passBuilt
        { flow with builder, built := flow.built ++ [entry] }
  | signItem
      {signer : Nat}
      {staged : Staged Job Built}
      {rest : List (Entry (Staged Job Built))}
      (idle : flow.signers[signer]? = some .idle)
      (queued : flow.built = .item staged :: rest) :
      Change stages flow (.sign signer)
        { flow with
          built := rest
          signers := flow.signers.set signer
            (.holding ⟨staged.job, staged.result.bind (stages.sign staged.job)⟩) }
  | signFinish
      {signer : Nat}
      {rest : List (Entry (Staged Job Built))}
      (idle : flow.signers[signer]? = some .idle)
      (queued : flow.built = .finish :: rest) :
      Change stages flow (.sign signer)
        { flow with built := rest, signers := flow.signers.set signer (.finishing 1) }
  | passSigned
      {signer : Nat}
      {station next : Station (Staged Job Signed)}
      {entry : Entry (Staged Job Signed)}
      (found : flow.signers[signer]? = some station)
      (passed : station.pass = some (entry, next))
      (room : flow.hasRoom flow.signed = true) :
      Change stages flow (.passSigned signer)
        { flow with signers := flow.signers.set signer next, signed := flow.signed ++ [entry] }
  | submitItem
      {staged : Staged Job Signed}
      {rest : List (Entry (Staged Job Signed))}
      (idle : flow.submitter = .idle)
      (working : 0 < flow.remaining)
      (queued : flow.signed = .item staged :: rest) :
      Change stages flow .submit
        { flow with
          signed := rest
          submitter := .holding ⟨staged.job, staged.result.bind (stages.submit staged.job)⟩ }
  | submitFinish
      {remaining : Nat}
      {rest : List (Entry (Staged Job Signed))}
      (idle : flow.submitter = .idle)
      (counted : flow.remaining = remaining + 1)
      (queued : flow.signed = .finish :: rest) :
      Change stages flow .submit
        { flow with
          signed := rest
          remaining
          submitter := if remaining = 0 then .finishing 1 else .idle }
  | passOutcome
      {entry : Entry (Staged Job Receipt)}
      {submitter : Station (Staged Job Receipt)}
      (passed : flow.submitter.pass = some (entry, submitter)) :
      Change stages flow .passOutcome
        { flow with submitter, outcomes := flow.outcomes ++ [entry] }

/-- Every move that can be made is one of the changes. -/
theorem change_of_move
    {stages : Stages Desk Job Built Signed Receipt}
    {flow next : Flow Desk Job Built Signed Receipt}
    {move : Move}
    (moved : flow.move stages move = some next) :
    Change stages flow move next := by
  cases move with
  | enter position =>
      simp only [Flow.move, Flow.enter] at moved
      split at moved
      case h_1 entry waiting =>
        split at moved
        case isTrue room =>
          cases moved
          exact .enter waiting room
        case isFalse => cases moved
      case h_2 => cases moved
  | prepare =>
      simp only [Flow.move, prepareDesk] at moved
      split at moved
      case h_1 unprepared =>
        cases moved
        exact .prepare unprepared
      case h_2 => cases moved
  | build =>
      simp only [Flow.move, Flow.build] at moved
      split at moved
      case h_1 job rest idle queued =>
        cases moved
        exact .buildItem idle queued
      case h_2 rest idle queued =>
        cases moved
        exact .buildFinish idle queued
      case h_3 => cases moved
  | passBuilt =>
      simp only [Flow.move, Flow.passBuilt] at moved
      split at moved
      case h_1 entry builder passed =>
        split at moved
        case isTrue room =>
          cases moved
          exact .passBuilt passed room
        case isFalse => cases moved
      case h_2 => cases moved
  | sign signer =>
      simp only [Flow.move, Flow.sign] at moved
      split at moved
      case h_1 staged rest idle queued =>
        cases moved
        exact .signItem idle queued
      case h_2 rest idle queued =>
        cases moved
        exact .signFinish idle queued
      case h_3 => cases moved
  | passSigned signer =>
      simp only [Flow.move, Flow.passSigned] at moved
      split at moved
      case h_1 entry next passed =>
        obtain ⟨station, found, passed⟩ := Option.bind_eq_some_iff.mp passed
        split at moved
        case isTrue room =>
          cases moved
          exact .passSigned found passed room
        case isFalse => cases moved
      case h_2 => cases moved
  | submit =>
      simp only [Flow.move, Flow.submit] at moved
      split at moved
      case h_1 more staged rest idle working queued =>
        cases moved
        exact .submitItem idle (by omega) queued
      case h_2 remaining rest idle counted queued =>
        cases moved
        exact .submitFinish idle counted queued
      case h_3 => cases moved
  | passOutcome =>
      simp only [Flow.move, Flow.passOutcome] at moved
      split at moved
      case h_1 entry submitter passed =>
        cases moved
        exact .passOutcome passed
      case h_2 => cases moved

end MoveClient.Flow
