import MoveClient.Error

/-!
Flows: items on their way through three stages.

A flow has a builder, signers and a submitter, with a queue in front of each and one behind the
last. All queues but the last hold a limited number of entries: a stage that has a result while
the next queue is full keeps it, and a caller that brings an item while the first queue is full
waits. When nothing more follows, a finish mark goes through: the builder passes one on for every
signer, every signer passes its own on, and the submitter passes one on when it has seen all of
them.

Every move is by one caller or one stage, and moves can come in any order. `settle` picks one
order.
-/

namespace MoveClient

/-- What is in a queue: an item, or the mark that nothing follows. -/
inductive Entry (α : Type) where
  | item (content : α)
  | finish
deriving Repr

/-- An item with what a stage made of it. -/
structure Staged (Job Result : Type) where
  job : Job
  result : Except Error Result

/-- What the stages do. The builder keeps things on its desk; it prepares the desk before the
first item. -/
structure Stages (Desk Job Built Signed Receipt : Type) where
  prepare : Desk → Desk
  build : Desk → Job → Except Error Built × Desk
  sign : Job → Built → Except Error Signed
  submit : Job → Signed → Except Error Receipt

/-- What a stage is at. -/
inductive Station (α : Type) where
  /-- It has not begun. -/
  | unprepared
  /-- It waits for an entry. -/
  | idle
  /-- It has a result to pass on. -/
  | holding (content : α)
  /-- It has finish marks to pass on. -/
  | finishing (marks : Nat)
  /-- It has ended. -/
  | done
deriving Repr

/-- The next entry that a stage passes on, and what it is at then. -/
def Station.pass {α : Type} : Station α → Option (Entry α × Station α)
  | holding content => some (.item content, idle)
  | finishing (marks + 1) => some (.finish, if marks = 0 then done else finishing marks)
  | _ => none

/-- A flow. A capacity of zero is no limit. In `entering` are the entries of the callers that
wait; `remaining` is how many signers have not passed their finish mark to the submitter. -/
structure Flow (Desk Job Built Signed Receipt : Type) where
  capacity : Nat
  desk : Desk
  entering : List (Entry Job) := []
  jobs : List (Entry Job) := []
  builder : Station (Staged Job Built) := .unprepared
  built : List (Entry (Staged Job Built)) := []
  signers : List (Station (Staged Job Signed))
  signed : List (Entry (Staged Job Signed)) := []
  submitter : Station (Staged Job Receipt) := .idle
  remaining : Nat
  outcomes : List (Entry (Staged Job Receipt)) := []

namespace Flow

/-- A move of a flow. -/
inductive Move where
  /-- The waiting caller at a position puts its entry into the first queue. -/
  | enter (position : Nat)
  /-- The builder prepares its desk. -/
  | prepare
  /-- The builder takes an entry. -/
  | build
  /-- The builder passes an entry on. -/
  | passBuilt
  /-- A signer takes an entry. -/
  | sign (signer : Nat)
  /-- A signer passes an entry on. -/
  | passSigned (signer : Nat)
  /-- The submitter takes an entry. -/
  | submit
  /-- The submitter puts out an entry. -/
  | passOutcome
deriving DecidableEq, Repr

variable {Desk Job Built Signed Receipt : Type}

/-- A flow at its beginning. -/
def initial (capacity signers : Nat) (desk : Desk) : Flow Desk Job Built Signed Receipt :=
  { capacity, desk, signers := List.replicate signers .idle, remaining := signers }

/-- Whether a queue takes another entry. -/
def hasRoom {α : Type} (flow : Flow Desk Job Built Signed Receipt) (queue : List (Entry α)) : Bool :=
  flow.capacity == 0 || queue.length < flow.capacity

/-- A caller brings an entry. -/
def bring (flow : Flow Desk Job Built Signed Receipt) (entry : Entry Job) :
    Flow Desk Job Built Signed Receipt :=
  { flow with entering := flow.entering ++ [entry] }

/-- A waiting caller puts its entry into the first queue. -/
def enter (flow : Flow Desk Job Built Signed Receipt) (position : Nat) :
    Option (Flow Desk Job Built Signed Receipt) :=
  match flow.entering[position]? with
  | some entry =>
      if flow.hasRoom flow.jobs then
        some { flow with
          entering := flow.entering.eraseIdx position
          jobs := flow.jobs ++ [entry] }
      else none
  | none => none

/-- The builder prepares its desk. -/
def prepareDesk (stages : Stages Desk Job Built Signed Receipt)
    (flow : Flow Desk Job Built Signed Receipt) : Option (Flow Desk Job Built Signed Receipt) :=
  match flow.builder with
  | .unprepared => some { flow with desk := stages.prepare flow.desk, builder := .idle }
  | _ => none

/-- The builder takes an entry. -/
def build (stages : Stages Desk Job Built Signed Receipt)
    (flow : Flow Desk Job Built Signed Receipt) : Option (Flow Desk Job Built Signed Receipt) :=
  match flow.builder, flow.jobs with
  | .idle, .item job :: jobs =>
      let (result, desk) := stages.build flow.desk job
      some { flow with desk, jobs, builder := .holding ⟨job, result⟩ }
  | .idle, .finish :: jobs =>
      some { flow with jobs, builder := .finishing flow.signers.length }
  | _, _ => none

/-- The builder passes an entry on. -/
def passBuilt (flow : Flow Desk Job Built Signed Receipt) :
    Option (Flow Desk Job Built Signed Receipt) :=
  match flow.builder.pass with
  | some (entry, builder) =>
      if flow.hasRoom flow.built then some { flow with builder, built := flow.built ++ [entry] }
      else none
  | none => none

/-- A signer takes an entry. -/
def sign (stages : Stages Desk Job Built Signed Receipt)
    (flow : Flow Desk Job Built Signed Receipt) (signer : Nat) :
    Option (Flow Desk Job Built Signed Receipt) :=
  match flow.signers[signer]?, flow.built with
  | some .idle, .item staged :: built =>
      let result := staged.result.bind (stages.sign staged.job)
      some { flow with built, signers := flow.signers.set signer (.holding ⟨staged.job, result⟩) }
  | some .idle, .finish :: built =>
      some { flow with built, signers := flow.signers.set signer (.finishing 1) }
  | _, _ => none

/-- A signer passes an entry on. -/
def passSigned (flow : Flow Desk Job Built Signed Receipt) (signer : Nat) :
    Option (Flow Desk Job Built Signed Receipt) :=
  match flow.signers[signer]?.bind Station.pass with
  | some (entry, station) =>
      if flow.hasRoom flow.signed then
        some { flow with
          signers := flow.signers.set signer station
          signed := flow.signed ++ [entry] }
      else none
  | none => none

/-- The submitter takes an entry. -/
def submit (stages : Stages Desk Job Built Signed Receipt)
    (flow : Flow Desk Job Built Signed Receipt) : Option (Flow Desk Job Built Signed Receipt) :=
  match flow.submitter, flow.remaining, flow.signed with
  | .idle, _ + 1, .item staged :: signed =>
      let result := staged.result.bind (stages.submit staged.job)
      some { flow with signed, submitter := .holding ⟨staged.job, result⟩ }
  | .idle, remaining + 1, .finish :: signed =>
      some { flow with
        signed
        remaining
        submitter := if remaining = 0 then .finishing 1 else .idle }
  | _, _, _ => none

/-- The submitter puts out an entry; there is always room for outcomes. -/
def passOutcome (flow : Flow Desk Job Built Signed Receipt) :
    Option (Flow Desk Job Built Signed Receipt) :=
  match flow.submitter.pass with
  | some (entry, submitter) =>
      some { flow with submitter, outcomes := flow.outcomes ++ [entry] }
  | none => none

/-- The flow after a move, if it can be made. -/
def move (stages : Stages Desk Job Built Signed Receipt)
    (flow : Flow Desk Job Built Signed Receipt) : Move → Option (Flow Desk Job Built Signed Receipt)
  | .enter position => flow.enter position
  | .prepare => flow.prepareDesk stages
  | .build => flow.build stages
  | .passBuilt => flow.passBuilt
  | .sign signer => flow.sign stages signer
  | .passSigned signer => flow.passSigned signer
  | .submit => flow.submit stages
  | .passOutcome => flow.passOutcome

/-- The moves of the stages, from the last one back to the first. -/
def stageMoves (flow : Flow Desk Job Built Signed Receipt) : List Move :=
  let signers := List.range flow.signers.length
  [.passOutcome, .submit] ++ signers.map .passSigned ++ signers.map .sign ++
    [.passBuilt, .build, .prepare]

/-- How many moves are left at most: no entry is moved more than seven times, and the finish mark
becomes one for every signer. -/
def movesLeft (flow : Flow Desk Job Built Signed Receipt) : Nat :=
  (flow.entering.length + flow.jobs.length + flow.built.length + flow.signed.length +
    flow.signers.length + 3) * (7 + 4 * flow.signers.length)

/-- Makes the first move that can be made, as often as `fuel` says. -/
def settleWithin (stages : Stages Desk Job Built Signed Receipt) (more : List Move) :
    (fuel : Nat) → Flow Desk Job Built Signed Receipt → Flow Desk Job Built Signed Receipt
  | 0, flow => flow
  | fuel + 1, flow =>
      match (flow.stageMoves ++ more).findSome? (flow.move stages) with
      | some next => settleWithin stages more fuel next
      | none => flow

/-- Lets the stages go on until none can move. -/
def advance (stages : Stages Desk Job Built Signed Receipt)
    (flow : Flow Desk Job Built Signed Receipt) : Flow Desk Job Built Signed Receipt :=
  flow.settleWithin stages [] flow.movesLeft

/-- Lets the stages and the waiting callers go on until none can move. -/
def settle (stages : Stages Desk Job Built Signed Receipt)
    (flow : Flow Desk Job Built Signed Receipt) : Flow Desk Job Built Signed Receipt :=
  flow.settleWithin stages [.enter 0] flow.movesLeft

end Flow

end MoveClient
