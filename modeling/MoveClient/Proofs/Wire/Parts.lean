import Mathlib.Data.List.Forall2
import MoveClient.Proofs.Wire.Reading

/-!
Wire forms with parts that are read more leniently than they are written.

Owns:
- `WirePart`, a part of a wire form, with what is written for it and what is taken for it;
- `WirePart.Found`, which splits an input into what is taken for parts and what follows;
- the laws of parts for emissions, and for readers of counted values.

Does not own: which parts a value has.
-/

namespace MoveClient

/-- A part of a wire form: octets that are read as they are written, the coordinates of a public
key, or the marks of a multi-signature. -/
inductive WirePart where
  | plain (octets : Bytes)
  | point (coordinates : Bytes)
  | marks (bitmap : Bytes)

namespace WirePart

/-- What is written for a part. Coordinates of 64 octets get the octet `4` in front, marks are four
octets; both stand behind their length. -/
def octets : WirePart → Bytes
  | plain octets => octets
  | point coordinates => 65 :: 4 :: coordinates
  | marks bitmap => 4 :: bitmap

/-- What is taken for a part: coordinates also without the octet in front, and fewer than four
marks, where those that are missing are zero. -/
inductive Tolerates : WirePart → Bytes → Prop
  | written (part : WirePart) : Tolerates part part.octets
  | unmarked (coordinates : Bytes) : Tolerates (point coordinates) (64 :: coordinates)
  | short (given : Bytes) (missing : Nat) (whole : given.length + missing = 4) :
      Tolerates (marks (given ++ List.replicate missing 0)) (UInt8.ofNat given.length :: given)

/-- The input is what is taken for parts, followed by `rest`. -/
def Found (parts : List WirePart) (input rest : Bytes) : Prop :=
  ∃ taken, List.Forall₂ Tolerates parts taken ∧ input = taken.flatten ++ rest

variable {input rest : Bytes} {part : WirePart} {parts others : List WirePart}

@[simp] theorem found_nil_iff : Found [] input rest ↔ input = rest := by
  simp [Found]

theorem found_singleton_iff :
    Found [part] input rest ↔ ∃ taken, part.Tolerates taken ∧ input = taken ++ rest := by
  simp [Found, List.forall₂_cons_left_iff]

@[simp] theorem found_plain_iff {octets : Bytes} :
    Found [plain octets] input rest ↔ input = octets ++ rest := by
  rw [found_singleton_iff]
  constructor
  · rintro ⟨_, ⟨⟩, rfl⟩
    rfl
  · rintro rfl
    exact ⟨octets, .written (plain octets), rfl⟩

theorem found_cons_iff :
    Found (part :: parts) input rest ↔
      ∃ middle, Found [part] input middle ∧ Found parts middle rest := by
  simp only [found_singleton_iff]
  constructor
  · rintro ⟨_, tolerated, rfl⟩
    obtain ⟨first, second, firstTolerated, secondTolerated, rfl⟩ :=
      List.forall₂_cons_left_iff.mp tolerated
    exact ⟨second.flatten ++ rest, ⟨first, firstTolerated, by simp⟩, second, secondTolerated, rfl⟩
  · rintro ⟨_, ⟨first, firstTolerated, rfl⟩, second, secondTolerated, rfl⟩
    exact ⟨first :: second, .cons firstTolerated secondTolerated, by simp⟩

/-- Parts are found one behind the other. -/
@[simp] theorem found_append_iff :
    Found (parts ++ others) input rest ↔
      ∃ middle, Found parts input middle ∧ Found others middle rest := by
  induction parts generalizing input with
  | nil => simp
  | cons part parts inductionHypothesis =>
      rw [List.cons_append, found_cons_iff]
      simp only [inductionHypothesis]
      constructor
      · rintro ⟨afterPart, partFound, middle, partsFound, othersFound⟩
        exact ⟨middle, found_cons_iff.mpr ⟨afterPart, partFound, partsFound⟩, othersFound⟩
      · rintro ⟨middle, bothFound, othersFound⟩
        obtain ⟨afterPart, partFound, partsFound⟩ := found_cons_iff.mp bothFound
        exact ⟨afterPart, partFound, middle, partsFound, othersFound⟩

/-- What is written for parts is found. -/
theorem found_written (parts : List WirePart) (rest : Bytes) :
    Found parts (parts.flatMap octets ++ rest) rest := by
  refine ⟨parts.map octets, ?_, by rw [List.flatMap_def]⟩
  rw [List.forall₂_map_right_iff]
  exact List.forall₂_same.mpr fun part _ => .written part

end WirePart

namespace Emission

/-! ## Parts that are written -/

/-- The emission puts out what is written for the parts. -/
def Carries (emission : Emission) (parts : List WirePart) : Prop :=
  emission = .complete (parts.flatMap WirePart.octets)

variable {emission next : Emission} {parts others : List WirePart}

theorem carries_singleton_iff {part : WirePart} :
    emission.Carries [part] ↔ emission = .complete part.octets := by
  simp [Carries]

theorem Carries.isComplete (carries : emission.Carries parts) : emission.IsComplete :=
  ⟨_, carries⟩

theorem IsComplete.carries (complete : emission.IsComplete) :
    emission.Carries [.plain emission.octets] := by
  obtain ⟨octets, rfl⟩ := complete
  exact carries_singleton_iff.mpr rfl

theorem Carries.append
    (carries : emission.Carries parts)
    (nextCarries : next.Carries others) :
    (emission ++ next).Carries (parts ++ others) := by
  rw [Carries, List.flatMap_append]
  exact append_eq_complete_iff.mpr ⟨_, _, carries, nextCarries, rfl⟩

theorem carries_concat
    {α : Type}
    {write : α → Emission}
    {parts : α → List WirePart}
    {values : List α}
    (carries : ∀ value ∈ values, (write value).Carries (parts value)) :
    (concat (values.map write)).Carries (values.flatMap parts) := by
  induction values with
  | nil => rfl
  | cons value rest inductionHypothesis =>
      obtain ⟨valueCarries, restCarry⟩ := List.forall_mem_cons.mp carries
      exact valueCarries.append (inductionHypothesis restCarry)

/-- Values behind their count. -/
theorem carries_sequence
    {α : Type}
    {write : α → Emission}
    {parts : α → List WirePart}
    {values : List α}
    (few : values.length ≤ maxLength)
    (carries : ∀ value ∈ values, (write value).Carries (parts value)) :
    (sequence (values.map write)).Carries
      (.plain (length values.length).octets :: values.flatMap parts) := by
  have counted : (length values.length).IsComplete := isComplete_length_iff.mpr few
  have joined := counted.carries.append (carries_concat carries)
  rw [Carries, sequence_eq_complete_iff, List.length_map]
  exact joined

/-- Octets that are read as they are written are found exactly where they are spelled. -/
theorem IsComplete.found_iff
    {input rest : Bytes}
    (complete : emission.IsComplete) :
    WirePart.Found [.plain emission.octets] input rest ↔ emission.Spells input rest := by
  obtain ⟨octets, rfl⟩ := complete
  rw [WirePart.found_plain_iff, spells_complete_iff]
  rfl

end Emission

namespace Reader

/-! ## Parts that are read -/

/-- Two values that are read one behind the other. -/
theorem both_eq_ok_iff
    {α β γ : Type}
    {first : Reader α}
    {second : Reader β}
    {join : α → β → γ}
    {value : γ}
    {input rest : Bytes} :
    (do
      let left ← first
      let right ← second
      pure (join left right)) input = .ok value rest ↔
      ∃ left right, join left right = value ∧
        ∃ middle, first input = .ok left middle ∧ second middle = .ok right rest := by
  simp only [bind_eq_ok_iff, pure_eq_ok_iff]
  constructor
  · rintro ⟨left, middle, leftRead, right, end_, rightRead, joined, rfl⟩
    exact ⟨left, right, joined, middle, leftRead, rightRead⟩
  · rintro ⟨left, right, joined, middle, leftRead, rightRead⟩
    exact ⟨left, middle, leftRead, right, rest, rightRead, joined, rfl⟩

variable {α : Type} {element : Reader α} {parts : α → List WirePart} {input rest : Bytes}

theorem many_eq_ok_iff_found
    (law : ∀ input value rest,
      element input = .ok value rest ↔ WirePart.Found (parts value) input rest)
    {count : Nat}
    {values : List α} :
    many element count input = .ok values rest ↔
      values.length = count ∧ WirePart.Found (values.flatMap parts) input rest := by
  rw [many_eq_ok_iff_readsInTurn]
  apply and_congr_right'
  induction values generalizing input with
  | nil => simp [ReadsInTurn]
  | cons first others inductionHypothesis =>
      simp only [ReadsInTurn, law, inductionHypothesis, List.flatMap_cons,
        WirePart.found_append_iff]

/-- Counted values are read where the parts of their count and of each value are found. -/
theorem sequence_eq_ok_iff_found
    (law : ∀ input value rest,
      element input = .ok value rest ↔ WirePart.Found (parts value) input rest)
    {values : List α} :
    sequence element input = .ok values rest ↔
      values.length ≤ maxLength ∧
        WirePart.Found (.plain (Emission.length values.length).octets :: values.flatMap parts)
          input rest := by
  simp only [sequence, bind_eq_ok_iff, length_eq_ok_iff, many_eq_ok_iff_found law]
  constructor
  · rintro ⟨_, middle, counted, rfl, found⟩
    have few := counted.isComplete
    exact ⟨Emission.isComplete_length_iff.mp few,
      WirePart.found_cons_iff.mpr ⟨middle, few.found_iff.mpr counted, found⟩⟩
  · rintro ⟨few, found⟩
    obtain ⟨middle, counted, othersFound⟩ := WirePart.found_cons_iff.mp found
    exact ⟨values.length, middle, (Emission.isComplete_length_iff.mpr few).found_iff.mp counted,
      rfl, othersFound⟩

end Reader

end MoveClient
