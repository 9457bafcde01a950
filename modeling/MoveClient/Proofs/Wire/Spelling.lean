import MoveClient.Codec.Emission

/-!
When emissions are complete, and which octets they spell.

Owns:
- `Emission.IsComplete`, which says that a value has a wire form;
- `Emission.Spells`, which splits an input into the wire form of a value and what follows it;
- one law of each for joined emissions, sequences, options and the basic emissions.

Does not own: readers; `MoveClient.Proofs.Wire.Reading` ties them to `Spells`.
-/

namespace MoveClient.Emission

/-- Everything was put out. -/
def IsComplete (emission : Emission) : Prop :=
  ∃ octets, emission = .complete octets

/-- The emission is complete, and the input is what it put out followed by `rest`. -/
def Spells (emission : Emission) (input rest : Bytes) : Prop :=
  ∃ octets, emission = .complete octets ∧ input = octets ++ rest

theorem result_eq_ok_iff
    {emission : Emission}
    {octets : Bytes} :
    emission.result = .ok octets ↔ emission = .complete octets := by
  cases emission <;> simp [result]

theorem octets_eq_of_eq_complete
    {emission : Emission}
    {octets : Bytes}
    (emitted : emission = .complete octets) :
    emission.octets = octets := by
  rw [emitted, Emission.octets]

theorem IsComplete.eq_complete
    {emission : Emission}
    (complete : emission.IsComplete) :
    emission = .complete emission.octets := by
  obtain ⟨octets, rfl⟩ := complete
  rfl

/-- What an emission spells is never longer than the input it is found in. -/
theorem Spells.length_le
    {emission : Emission}
    {input rest : Bytes}
    (spelled : emission.Spells input rest) :
    rest.length ≤ input.length := by
  obtain ⟨octets, _, rfl⟩ := spelled
  simp

theorem Spells.isComplete
    {emission : Emission}
    {input rest : Bytes}
    (spelled : emission.Spells input rest) :
    emission.IsComplete := by
  obtain ⟨octets, emitted, _⟩ := spelled
  exact ⟨octets, emitted⟩

/-! ## Single emissions -/

@[simp] theorem isComplete_complete (octets : Bytes) : (complete octets).IsComplete :=
  ⟨octets, rfl⟩

@[simp] theorem not_isComplete_fail (error : Error) : ¬ (fail error).IsComplete := by
  rintro ⟨octets, emitted⟩
  cases emitted

@[simp] theorem spells_complete_iff
    {octets input rest : Bytes} :
    (complete octets).Spells input rest ↔ input = octets ++ rest := by
  simp [Spells]

theorem spells_nil_iff
    {emission : Emission}
    {octets : Bytes} :
    emission.Spells octets [] ↔ emission = .complete octets := by
  simp [Spells]

@[simp] theorem not_spells_fail
    (error : Error)
    (input rest : Bytes) :
    ¬ (fail error).Spells input rest :=
  fun spelled => not_isComplete_fail error spelled.isComplete

@[simp] theorem isComplete_length_iff {number : Nat} :
    (length number).IsComplete ↔ number ≤ maxLength := by
  by_cases small : number ≤ maxLength <;> simp [length, small]

@[simp] theorem isComplete_integer_iff
    {type : IntegerType}
    {number : Int} :
    (integer type number).IsComplete ↔ type.Holds number := by
  by_cases holds : type.Holds number <;> simp [integer, holds]

theorem length_integerOctets (type : IntegerType) (number : Int) :
    (integerOctets type number).length = type.octets := by
  unfold integerOctets Bytes.signedLittleEndian
  split
  · simp
  · simp

/-- An integer takes as many octets as its type has. -/
theorem length_of_integer_eq_complete
    {type : IntegerType}
    {number : Int}
    {octets : Bytes}
    (written : integer type number = .complete octets) :
    octets.length = type.octets := by
  have holds := isComplete_integer_iff.mp ⟨octets, written⟩
  rw [integer, if_pos holds] at written
  cases written
  exact length_integerOctets type number

@[simp] theorem isComplete_bool (b : Bool) : (bool b).IsComplete :=
  isComplete_complete _

/-! ## Joined emissions -/

theorem append_eq_complete_iff
    {left right : Emission}
    {octets : Bytes} :
    left ++ right = .complete octets ↔
      ∃ first second,
        left = .complete first ∧ right = .complete second ∧ octets = first ++ second := by
  change left.append right = _ ↔ _
  cases left <;> cases right <;> simp [append, eq_comm]

@[simp] theorem isComplete_append_iff
    {left right : Emission} :
    (left ++ right).IsComplete ↔ left.IsComplete ∧ right.IsComplete := by
  constructor
  · rintro ⟨octets, emitted⟩
    obtain ⟨first, second, leftEmitted, rightEmitted, _⟩ := append_eq_complete_iff.mp emitted
    exact ⟨⟨first, leftEmitted⟩, ⟨second, rightEmitted⟩⟩
  · rintro ⟨⟨first, leftEmitted⟩, ⟨second, rightEmitted⟩⟩
    exact ⟨first ++ second, append_eq_complete_iff.mpr
      ⟨first, second, leftEmitted, rightEmitted, rfl⟩⟩

/-- Joined emissions spell the input one behind the other. -/
@[simp] theorem spells_append_iff
    {left right : Emission}
    {input rest : Bytes} :
    (left ++ right).Spells input rest ↔
      ∃ middle, left.Spells input middle ∧ right.Spells middle rest := by
  constructor
  · rintro ⟨octets, emitted, rfl⟩
    obtain ⟨first, second, leftEmitted, rightEmitted, rfl⟩ := append_eq_complete_iff.mp emitted
    exact ⟨second ++ rest, ⟨first, leftEmitted, by simp⟩, ⟨second, rightEmitted, rfl⟩⟩
  · rintro ⟨middle, ⟨first, leftEmitted, rfl⟩, ⟨second, rightEmitted, rfl⟩⟩
    exact ⟨first ++ second,
      append_eq_complete_iff.mpr ⟨first, second, leftEmitted, rightEmitted, rfl⟩, by simp⟩

@[simp] theorem isComplete_bytes_iff {octets : Bytes} :
    (bytes octets).IsComplete ↔ octets.length ≤ maxLength := by
  simp [bytes]

/-- A byte string is written as its length and itself. -/
theorem bytes_eq_complete
    {octets : Bytes}
    (bounded : octets.length ≤ maxLength) :
    bytes octets = .complete ((length octets.length).octets ++ octets) := by
  obtain ⟨written, lengthWritten⟩ := isComplete_length_iff.mpr bounded
  rw [bytes, lengthWritten]
  rfl

@[simp] theorem isComplete_text_iff {s : String} :
    (text s).IsComplete ↔ (textOctets s).length ≤ maxLength := by
  simp [text]

/-! ## Sequences and options -/

theorem isComplete_concat_iff {emissions : List Emission} :
    (concat emissions).IsComplete ↔ ∀ emission ∈ emissions, emission.IsComplete := by
  induction emissions with
  | nil => simp [concat]
  | cons first rest inductionHypothesis => simp [concat, inductionHypothesis]

private theorem concat_of_collect_ok
    {emissions : List Emission}
    {parts : List Bytes}
    (collected : collect emissions = .ok parts) :
    parts.length = emissions.length ∧ concat emissions = .complete parts.flatten := by
  induction emissions generalizing parts with
  | nil =>
      cases collected
      exact ⟨rfl, rfl⟩
  | cons first rest inductionHypothesis =>
      cases first with
      | broken octets error => cases collected
      | complete octets =>
          cases restCollected : collect rest with
          | error error => simp [collect, result, restCollected, Except.map] at collected
          | ok others =>
              have parts_eq : octets :: others = parts := by
                simpa [collect, result, restCollected, Except.map] using collected
              obtain ⟨lengths, joined⟩ := inductionHypothesis restCollected
              subst parts_eq
              refine ⟨by simp [lengths], ?_⟩
              simp only [concat, joined, List.flatten_cons]
              rfl

private theorem not_isComplete_of_collect_error
    {emissions : List Emission}
    {error : Error}
    (collected : collect emissions = .error error) :
    ¬ (concat emissions).IsComplete := by
  induction emissions with
  | nil => cases collected
  | cons first rest inductionHypothesis =>
      intro complete
      obtain ⟨⟨octets, rfl⟩, restComplete⟩ := isComplete_append_iff.mp complete
      cases restCollected : collect rest with
      | ok others => simp [collect, result, restCollected, Except.map] at collected
      | error cause =>
          have cause_eq : cause = error := by
            simpa [collect, result, restCollected, Except.map] using collected
          exact inductionHypothesis (cause_eq ▸ restCollected) restComplete

/-- A sequence is its count and its items one behind the other, unless an item breaks off. -/
theorem sequence_eq_complete_iff
    {emissions : List Emission}
    {octets : Bytes} :
    sequence emissions = .complete octets ↔
      length emissions.length ++ concat emissions = .complete octets := by
  cases collected : collect emissions with
  | ok parts =>
      obtain ⟨lengths, joined⟩ := concat_of_collect_ok collected
      simp only [sequence, collected, lengths, joined]
  | error error =>
      constructor
      · intro emitted
        simp [sequence, collected, fail] at emitted
      · intro emitted
        exact absurd (isComplete_append_iff.mp ⟨octets, emitted⟩).2
          (not_isComplete_of_collect_error collected)

theorem collect_complete (parts : List Bytes) : collect (parts.map complete) = .ok parts := by
  induction parts with
  | nil => rfl
  | cons first rest inductionHypothesis =>
      rw [List.map_cons, collect, inductionHypothesis]
      rfl

theorem sequence_complete (parts : List Bytes) :
    sequence (parts.map complete) = length parts.length ++ complete parts.flatten := by
  rw [sequence, collect_complete]

@[simp] theorem isComplete_sequence_iff {emissions : List Emission} :
    (sequence emissions).IsComplete ↔
      emissions.length ≤ maxLength ∧ ∀ emission ∈ emissions, emission.IsComplete := by
  rw [← isComplete_length_iff, ← isComplete_concat_iff, ← isComplete_append_iff]
  simp only [IsComplete, sequence_eq_complete_iff]

@[simp] theorem spells_sequence_iff
    {emissions : List Emission}
    {input rest : Bytes} :
    (sequence emissions).Spells input rest ↔
      ∃ middle, (length emissions.length).Spells input middle ∧
        (concat emissions).Spells middle rest := by
  rw [← spells_append_iff]
  simp only [Spells, sequence_eq_complete_iff]

theorem option_some_eq_complete_iff
    {item : Emission}
    {octets : Bytes} :
    option (some item) = .complete octets ↔ length 1 ++ item = .complete octets := by
  cases item with
  | complete itemOctets => rfl
  | broken itemOctets error =>
      constructor
      · intro emitted
        cases emitted
      · intro emitted
        obtain ⟨_, _, _, emitted, _⟩ := append_eq_complete_iff.mp emitted
        cases emitted

@[simp] theorem isComplete_option_iff {item : Option Emission} :
    (option item).IsComplete ↔ ∀ emission ∈ item, emission.IsComplete := by
  cases item with
  | none => simp [option, maxLength]
  | some emission =>
      have joined : (option (some emission)).IsComplete ↔ (length 1 ++ emission).IsComplete := by
        simp only [IsComplete, option_some_eq_complete_iff]
      rw [joined, isComplete_append_iff, isComplete_length_iff]
      simp [maxLength]

@[simp] theorem spells_option_none_iff
    {input rest : Bytes} :
    (option none).Spells input rest ↔ (length 0).Spells input rest :=
  Iff.rfl

@[simp] theorem spells_option_some_iff
    {item : Emission}
    {input rest : Bytes} :
    (option (some item)).Spells input rest ↔
      ∃ middle, (length 1).Spells input middle ∧ item.Spells middle rest := by
  rw [← spells_append_iff]
  simp only [Spells, option_some_eq_complete_iff]

end MoveClient.Emission
