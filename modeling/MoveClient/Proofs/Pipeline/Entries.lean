import Mathlib.Data.List.Perm.Basic
import MoveClient.Pipeline.Flow

/-!
What queues and stations hold.

Owns:
- the items and the finish marks of a queue, and queues whose marks are behind all items;
- the item that a station holds, and whether it still takes entries;
- what a station passes on.

Does not own: the moves of a flow; `MoveClient.Proofs.Pipeline.Changes` says what they do.
-/

namespace MoveClient

open scoped List

variable {α β : Type}

/-! ## Queues -/

namespace Entry

/-- The items of a queue, in order. -/
def items : List (Entry α) → List α
  | [] => []
  | .item content :: rest => content :: items rest
  | .finish :: rest => items rest

/-- The number of finish marks in a queue. -/
def marks : List (Entry α) → Nat
  | [] => 0
  | .item _ :: rest => marks rest
  | .finish :: rest => marks rest + 1

@[simp] theorem items_nil : items ([] : List (Entry α)) = [] := rfl

@[simp] theorem items_item
    {content : α}
    {rest : List (Entry α)} :
    items (.item content :: rest) = content :: items rest :=
  rfl

@[simp] theorem items_finish {rest : List (Entry α)} : items (.finish :: rest) = items rest := rfl

@[simp] theorem marks_nil : marks ([] : List (Entry α)) = 0 := rfl

@[simp] theorem marks_item
    {content : α}
    {rest : List (Entry α)} :
    marks (.item content :: rest) = marks rest :=
  rfl

@[simp] theorem marks_finish {rest : List (Entry α)} :
    marks (.finish :: rest) = marks rest + 1 :=
  rfl

@[simp] theorem items_append {left right : List (Entry α)} :
    items (left ++ right) = items left ++ items right := by
  induction left with
  | nil => rfl
  | cons first rest inductionHypothesis => cases first <;> simp [inductionHypothesis]

@[simp] theorem marks_append {left right : List (Entry α)} :
    marks (left ++ right) = marks left + marks right := by
  induction left with
  | nil => simp
  | cons first rest inductionHypothesis =>
      cases first <;> simp [inductionHypothesis, Nat.add_right_comm]

@[simp] theorem items_map_item {contents : List α} : items (contents.map item) = contents := by
  induction contents with
  | nil => rfl
  | cons first rest inductionHypothesis => simp [inductionHypothesis]

@[simp] theorem marks_map_item {contents : List α} : marks (contents.map item) = 0 := by
  induction contents with
  | nil => rfl
  | cons first rest inductionHypothesis => simp [inductionHypothesis]

theorem mem_items {content : α} {queue : List (Entry α)} :
    content ∈ items queue ↔ .item content ∈ queue := by
  induction queue with
  | nil => simp
  | cons first rest inductionHypothesis => cases first <;> simp [inductionHypothesis]

theorem eq_map_item_of_marks_eq_zero
    {queue : List (Entry α)}
    (noMarks : marks queue = 0) :
    queue = (items queue).map item := by
  induction queue with
  | nil => rfl
  | cons first rest inductionHypothesis =>
      cases first with
      | item content => simpa using inductionHypothesis noMarks
      | finish => simp at noMarks

theorem marks_pos_of_mem
    {queue : List (Entry α)}
    (member : .finish ∈ queue) :
    0 < marks queue := by
  obtain ⟨before, behind, rfl⟩ := List.append_of_mem member
  simp only [marks_append, marks_finish]
  omega

theorem perm_items
    {left right : List (Entry α)}
    (perm : left.Perm right) :
    (items left).Perm (items right) := by
  induction perm with
  | nil => exact .nil
  | cons entry _ inductionHypothesis =>
      cases entry with
      | item content => exact .cons content inductionHypothesis
      | finish => exact inductionHypothesis
  | swap first second rest =>
      cases first <;> cases second <;> simp [List.Perm.swap]
  | trans _ _ leftHypothesis rightHypothesis => exact leftHypothesis.trans rightHypothesis

theorem perm_marks
    {left right : List (Entry α)}
    (perm : left.Perm right) :
    marks left = marks right := by
  induction perm with
  | nil => rfl
  | cons entry _ inductionHypothesis => cases entry <;> simp [inductionHypothesis]
  | swap first second rest => cases first <;> cases second <;> simp
  | trans _ _ leftHypothesis rightHypothesis => exact leftHypothesis.trans rightHypothesis

/-- The items in front of the first finish mark. -/
def ahead : List (Entry α) → List α
  | [] | .finish :: _ => []
  | .item content :: rest => content :: ahead rest

theorem ahead_map_item_append_finish
    {contents : List α}
    {rest : List (Entry α)} :
    ahead (contents.map item ++ .finish :: rest) = contents := by
  induction contents with
  | nil => rfl
  | cons first others inductionHypothesis => simp [ahead, inductionHypothesis]

/-- Where a queue ends with its only finish mark, there is no other place for one. -/
theorem eq_of_append_finish_eq
    {contents : List α}
    {before behind : List (Entry α)}
    (same : contents.map item ++ [.finish] = before ++ .finish :: behind) :
    before = contents.map item ∧ behind = [] := by
  induction contents generalizing before with
  | nil => cases before <;> simp_all
  | cons first rest inductionHypothesis =>
      cases before with
      | nil => cases same
      | cons entry before =>
          obtain ⟨entryEq, restSame⟩ := List.cons.inj same
          obtain ⟨beforeEq, behindEq⟩ := inductionHypothesis restSame
          exact ⟨by rw [← entryEq, beforeEq, List.map_cons], behindEq⟩

/-- No item is behind a finish mark. -/
inductive MarksLast : List (Entry α) → Prop
  | item {content : α} {rest : List (Entry α)} (tail : MarksLast rest) :
      MarksLast (.item content :: rest)
  | marks {rest : List (Entry α)} (noItems : items rest = []) : MarksLast rest

namespace MarksLast

theorem tail
    {entry : Entry α}
    {rest : List (Entry α)}
    (marksLast : MarksLast (entry :: rest)) :
    MarksLast rest := by
  cases marksLast with
  | item tail => exact tail
  | marks noItems =>
      cases entry with
      | item => cases noItems
      | finish => exact .marks noItems

theorem items_behind_finish
    {rest : List (Entry α)}
    (marksLast : MarksLast (.finish :: rest)) :
    items rest = [] := by
  cases marksLast with
  | marks noItems => exact noItems

theorem append_finish
    {queue : List (Entry α)}
    (marksLast : MarksLast queue) :
    MarksLast (queue ++ [.finish]) := by
  induction marksLast with
  | item _ inductionHypothesis => exact .item inductionHypothesis
  | marks noItems => exact .marks (by simp [noItems])

theorem of_marks_eq_zero
    {queue : List (Entry α)}
    (noMarks : Entry.marks queue = 0) :
    MarksLast queue := by
  rw [eq_map_item_of_marks_eq_zero noMarks]
  induction items queue with
  | nil => exact .marks rfl
  | cons content rest inductionHypothesis => exact .item inductionHypothesis

end MarksLast

end Entry

/-! ## Stations -/

namespace Station

/-- What the station holds. -/
def held : Station α → List α
  | holding content => [content]
  | unprepared | idle | finishing _ | done => []

@[simp] theorem held_unprepared : (unprepared : Station α).held = [] := rfl

@[simp] theorem held_idle : (idle : Station α).held = [] := rfl

@[simp] theorem held_holding {content : α} : (holding content).held = [content] := rfl

@[simp] theorem held_finishing {marks : Nat} : (finishing marks : Station α).held = [] := rfl

@[simp] theorem held_done : (done : Station α).held = [] := rfl

/-- Whether the station has not taken its finish mark yet. -/
def isLive : Station α → Bool
  | unprepared | idle | holding _ => true
  | finishing _ | done => false

/-- Whether the station has passed on everything. -/
def isDone : Station α → Bool
  | done => true
  | unprepared | idle | holding _ | finishing _ => false

/-- How many finish marks the station has to pass on. -/
def owed : Station α → Nat
  | finishing marks => marks
  | unprepared | idle | holding _ | done => 0

/-- A station passes on the item that it holds, or one of its finish marks. -/
theorem pass_eq_some_iff
    {station next : Station α}
    {entry : Entry α} :
    station.pass = some (entry, next) ↔
      (∃ content, station = .holding content ∧ entry = .item content ∧ next = .idle) ∨
        ∃ marks, station = .finishing (marks + 1) ∧ entry = .finish ∧
          next = if marks = 0 then .done else .finishing marks := by
  cases station with
  | holding content => simp [pass, eq_comm]
  | finishing marks => cases marks <;> simp [pass, eq_comm]
  | unprepared | idle | done => simp [pass]

/-- What a station holds is either passed on or still held. -/
theorem held_of_pass
    {station next : Station α}
    {entry : Entry α}
    (passed : station.pass = some (entry, next)) :
    station.held = Entry.items [entry] ++ next.held := by
  obtain ⟨content, rfl, rfl, rfl⟩ | ⟨marks, rfl, rfl, rfl⟩ := pass_eq_some_iff.mp passed
  · rfl
  · split <;> rfl

/-- Passing on is not taking: a station is as live as before. -/
theorem isLive_of_pass
    {station next : Station α}
    {entry : Entry α}
    (passed : station.pass = some (entry, next)) :
    next.isLive = station.isLive := by
  obtain ⟨content, rfl, rfl, rfl⟩ | ⟨marks, rfl, rfl, rfl⟩ := pass_eq_some_iff.mp passed
  · rfl
  · split <;> rfl

end Station

/-! ## Stations side by side -/

/-- When one of many stations changes, what it held is exchanged for what it holds. -/
theorem Station.flatMap_held_set_perm
    {stations : List (Station α)}
    {position : Nat}
    {before : Station α}
    (found : stations[position]? = some before)
    (after : Station α) :
    ((stations.set position after).flatMap held ++ before.held).Perm
      (stations.flatMap held ++ after.held) := by
  induction stations generalizing position with
  | nil => cases found
  | cons first rest inductionHypothesis =>
      cases position with
      | zero =>
          cases found
          simp only [List.set_cons_zero, List.flatMap_cons, List.append_assoc]
          calc after.held ++ (rest.flatMap held ++ before.held)
            _ ~ (rest.flatMap held ++ before.held) ++ after.held := List.perm_append_comm
            _ ~ (before.held ++ rest.flatMap held) ++ after.held :=
                List.perm_append_comm.append_right _
            _ = before.held ++ (rest.flatMap held ++ after.held) := List.append_assoc ..
      | succ position =>
          simp only [List.set_cons_succ, List.flatMap_cons, List.append_assoc]
          exact (inductionHypothesis found).append_left _

end MoveClient
