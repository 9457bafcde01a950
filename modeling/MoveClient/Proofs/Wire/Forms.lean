import MoveClient.Proofs.Wire.Domain

/-!
The wire forms that are read for the values of a layout.

Owns:
- `Layout.Spells`, which says which octets are a wire form of which value, and which of these forms
  are canonical;
- that the readers of layouts take exactly the wire forms, canonical or not.

Does not own: which of the wire forms is written.
-/

namespace MoveClient

open Reader

/-- An entry of a map as it stands on the wire. -/
structure WireEntry where
  keyOctets : Bytes
  key : Value
  valueOctets : Bytes
  value : Value

namespace WireEntry

/-- The octets of the key and behind them those of the value. -/
def octets (entry : WireEntry) : Bytes :=
  entry.keyOctets ++ entry.valueOctets

/-- The key and the value. -/
def pair (entry : WireEntry) : Value × Value :=
  (entry.key, entry.value)

end WireEntry

namespace Layout

/-- The octets are a wire form of the value. In a canonical form the entries of maps stand in the
order of their encoded keys, of which none is there twice, and what is there for an option is not
the value that stands for its absence. -/
def Spells (canonical : Prop) : Layout → Bytes → Value → Prop
  | .option element, octets, value =>
      (octets = [0] ∧ value = .null) ∨
        ∃ content, octets = 1 :: content ∧ element.Spells canonical content value ∧
          (canonical → value ≠ .null)
  | .sequence element, octets, value =>
      ∃ (items : List (Bytes × Value)) (count : Bytes),
        Emission.length items.length = .complete count ∧
          (∀ item ∈ items, element.Spells canonical item.1 item.2) ∧
            octets = count ++ items.flatMap Prod.fst ∧ value = .list (items.map Prod.snd)
  | .map keyLayout valueLayout, octets, value =>
      ∃ (entries : List WireEntry) (count : Bytes),
        Emission.length entries.length = .complete count ∧
          (∀ entry ∈ entries, (entry.key.isKey = true ∧
            keyLayout.Spells canonical entry.keyOctets entry.key) ∧
              valueLayout.Spells canonical entry.valueOctets entry.value) ∧
            (canonical → entries.Pairwise fun earlier later =>
              earlier.keyOctets < later.keyOctets) ∧
              octets = count ++ entries.flatMap WireEntry.octets ∧
                value = .map (Value.entriesOf (entries.map WireEntry.pair))
  | layout, octets, value =>
      (layout.Holds value ∧ value.frozen = value) ∧ layout.write value = .complete octets

variable {canonical : Prop} {layout : Layout} {octets input rest : Bytes} {value : Value}

theorem spells_iff_of_isPlain
    (plain : layout.IsPlain) :
    layout.Spells canonical octets value ↔
      (layout.Holds value ∧ value.frozen = value) ∧ layout.write value = .complete octets := by
  cases layout with
  | option element | sequence element | map keyLayout valueLayout => cases plain
  | bool | integer type | uleb128 | text | bytes | raw size | struct kind => exact Iff.rfl

/-- Layouts by their parts, those without parts together. -/
@[elab_as_elim]
theorem partsInduction
    {motive : Layout → Prop}
    (plain : ∀ layout : Layout, layout.IsPlain → motive layout)
    (option : ∀ element, motive element → motive (.option element))
    (sequence : ∀ element, motive element → motive (.sequence element))
    (map : ∀ key value, motive key → motive value → motive (.map key value))
    (layout : Layout) :
    motive layout := by
  induction layout with
  | option element inductionHypothesis => exact option element inductionHypothesis
  | sequence element inductionHypothesis => exact sequence element inductionHypothesis
  | map key value keyHypothesis valueHypothesis => exact map key value keyHypothesis valueHypothesis
  | bool | integer type | uleb128 | text | bytes | raw size | struct kind => exact plain _ trivial

/-- A wire form of a value is one, canonical or not. -/
theorem Spells.lenient
    (spelled : layout.Spells canonical octets value) :
    layout.Spells False octets value := by
  induction layout using partsInduction generalizing octets value with
  | plain layout plain =>
      rw [spells_iff_of_isPlain plain] at spelled ⊢
      exact spelled
  | option element inductionHypothesis =>
      rcases spelled with absent | ⟨content, octetsEq, contentSpelled, _⟩
      · exact .inl absent
      · exact .inr ⟨content, octetsEq, inductionHypothesis contentSpelled, False.elim⟩
  | sequence element inductionHypothesis =>
      obtain ⟨items, count, counted, itemsSpelled, octetsEq, valueEq⟩ := spelled
      exact ⟨items, count, counted, fun item member => inductionHypothesis (itemsSpelled item member),
        octetsEq, valueEq⟩
  | map keyLayout valueLayout keyHypothesis valueHypothesis =>
      obtain ⟨entries, count, counted, entriesSpelled, _, octetsEq, valueEq⟩ := spelled
      refine ⟨entries, count, counted, ?_, False.elim, octetsEq, valueEq⟩
      intro entry member
      obtain ⟨⟨key, keySpelled⟩, valueSpelled⟩ := entriesSpelled entry member
      exact ⟨⟨key, keyHypothesis keySpelled⟩, valueHypothesis valueSpelled⟩

/-- Only values of the layout have wire forms. -/
theorem Spells.holds
    (spelled : layout.Spells canonical octets value) :
    layout.Holds value := by
  induction layout using partsInduction generalizing octets value with
  | plain layout plain => exact ((spells_iff_of_isPlain plain).mp spelled).1.1
  | option element inductionHypothesis =>
      rcases spelled with ⟨_, valueEq⟩ | ⟨_, _, contentSpelled, _⟩
      · exact .inl valueEq
      · exact .inr (inductionHypothesis contentSpelled)
  | sequence element inductionHypothesis =>
      obtain ⟨items, count, counted, itemsSpelled, _, rfl⟩ := spelled
      have few := Emission.isComplete_length_iff.mp ⟨count, counted⟩
      refine ⟨_, rfl, by rw [List.length_map]; exact few, ?_⟩
      intro value member
      obtain ⟨item, itemMember, rfl⟩ := List.mem_map.mp member
      exact inductionHypothesis (itemsSpelled item itemMember)
  | map keyLayout valueLayout keyHypothesis valueHypothesis =>
      obtain ⟨entries, count, counted, entriesSpelled, _, _, rfl⟩ := spelled
      have few := Emission.isComplete_length_iff.mp ⟨count, counted⟩
      have hold : ∀ pair ∈ entries.map WireEntry.pair,
          (pair.1.isKey = true ∧ keyLayout.Holds pair.1) ∧ valueLayout.Holds pair.2 := by
        intro pair member
        obtain ⟨entry, entryMember, rfl⟩ := List.mem_map.mp member
        obtain ⟨⟨key, keySpelled⟩, valueSpelled⟩ := entriesSpelled entry entryMember
        exact ⟨⟨key, keyHypothesis keySpelled⟩, valueHypothesis valueSpelled⟩
      obtain ⟨entriesHold, distinct, shorter⟩ := Value.entriesOf_preserves
        (fun key => key.isKey = true ∧ keyLayout.Holds key) valueLayout.Holds hold
      rw [List.length_map] at shorter
      exact ⟨_, rfl, Nat.le_trans shorter few, distinct, entriesHold⟩

/-! ## Reading -/

/-- The reader takes exactly the wire forms of values. -/
def Takes
    {α : Type}
    (reader : Reader α)
    (Spelled : Bytes → α → Prop) : Prop :=
  ∀ input value rest,
    reader input = .ok value rest ↔ ∃ octets, Spelled octets value ∧ input = octets ++ rest

theorem many_eq_ok_iff_spelled
    {element : Reader Value}
    {Spelled : Bytes → Value → Prop}
    (takes : Takes element Spelled)
    {count : Nat}
    {values : List Value} :
    many element count input = .ok values rest ↔
      ∃ items : List (Bytes × Value), items.length = count ∧
        (∀ item ∈ items, Spelled item.1 item.2) ∧ values = items.map Prod.snd ∧
          input = items.flatMap Prod.fst ++ rest := by
  rw [many_eq_ok_iff_readsInTurn]
  apply Iff.intro
  · intro given
    rcases given with ⟨lengthEq, read⟩
    subst lengthEq
    induction values generalizing input with
    | nil => exact ⟨[], rfl, List.forall_mem_nil _, rfl, read⟩
    | cons first others inductionHypothesis =>
        obtain ⟨middle, firstRead, othersRead⟩ := read
        obtain ⟨octets, firstSpelled, inputEq⟩ := (takes _ _ _).mp firstRead
        obtain ⟨items, lengthEq, spelled, othersEq, middleEq⟩ := inductionHypothesis othersRead
        refine ⟨(octets, first) :: items, congrArg (· + 1) lengthEq, ?_, ?_, ?_⟩
        · exact List.forall_mem_cons.mpr ⟨firstSpelled, spelled⟩
        · rw [List.map_cons, othersEq]
        · rw [inputEq, middleEq, List.flatMap_cons, List.append_assoc]
  · intro given
    rcases given with ⟨items, lengthEq, spelled, valuesEq, inputEq⟩
    subst lengthEq valuesEq inputEq
    refine ⟨List.length_map _, ?_⟩
    induction items with
    | nil => rfl
    | cons first others inductionHypothesis =>
        obtain ⟨firstSpelled, othersSpelled⟩ := List.forall_mem_cons.mp spelled
        refine ⟨others.flatMap Prod.fst ++ rest, (takes _ _ _).mpr ⟨first.1, firstSpelled, ?_⟩,
          inductionHypothesis othersSpelled⟩
        rw [List.flatMap_cons, List.append_assoc]

/-- Entries are read from the wire forms of their keys and values, and set one after the other. -/
theorem readEntries_eq_ok_iff_spelled
    {key value : Reader Value}
    {KeySpelled ValueSpelled : Bytes → Value → Prop}
    (takesKey : Takes key KeySpelled)
    (takesValue : Takes value ValueSpelled)
    {count : Nat}
    {before result : List (Value × Value)} :
    readEntries key value count before input = .ok result rest ↔
      ∃ entries : List WireEntry, entries.length = count ∧
        (∀ entry ∈ entries, (entry.key.isKey = true ∧ KeySpelled entry.keyOctets entry.key) ∧
          ValueSpelled entry.valueOctets entry.value) ∧
          result = (entries.map WireEntry.pair).foldl
            (fun entries pair => Value.setEntry pair.1 pair.2 entries) before ∧
            input = entries.flatMap WireEntry.octets ++ rest := by
  -- The entries set before are arbitrary, because they grow with every entry that is read.
  induction count generalizing before input with
  | zero =>
      simp only [readEntries, pure_eq_ok_iff, List.length_eq_zero_iff]
      apply Iff.intro
      · intro given
        rcases given with ⟨resultEq, inputEq⟩
        exact ⟨[], rfl, List.forall_mem_nil _, resultEq.symm, inputEq⟩
      · intro given
        rcases given with ⟨entries, entriesEq, _, resultEq, inputEq⟩
        subst entriesEq
        exact ⟨resultEq.symm, inputEq⟩
  | succ count inductionHypothesis =>
      simp only [readEntries, readEntry, bind_eq_ok_iff, inductionHypothesis]
      apply Iff.intro
      · intro given
        rcases given with ⟨_, _, ⟨keyRead, _, keyReadEq, valueRead, _, valueReadEq, set⟩, others⟩
        obtain ⟨keyOctets, keySpelled, rfl⟩ := (takesKey _ _ _).mp keyReadEq
        obtain ⟨valueOctets, valueSpelled, rfl⟩ := (takesValue _ _ _).mp valueReadEq
        by_cases isKey : keyRead.isKey = true
        · rw [if_pos isKey, pure_eq_ok_iff] at set
          obtain ⟨rfl, rfl⟩ := set
          obtain ⟨entries, rfl, spelled, rfl, rfl⟩ := others
          refine ⟨⟨keyOctets, keyRead, valueOctets, valueRead⟩ :: entries, rfl, ?_, rfl, ?_⟩
          · exact List.forall_mem_cons.mpr ⟨⟨⟨isKey, keySpelled⟩, valueSpelled⟩, spelled⟩
          · simp [WireEntry.octets]
        · rw [if_neg isKey] at set
          exact absurd set throw_ne_ok
      · intro given
        rcases given with ⟨entries, lengthEq, spelled, resultEq, inputEq⟩
        cases entries with
        | nil => cases lengthEq
        | cons first entries =>
            obtain ⟨⟨⟨isKey, keySpelled⟩, valueSpelled⟩, othersSpelled⟩ :=
              List.forall_mem_cons.mp spelled
            rw [List.flatMap_cons, WireEntry.octets, List.append_assoc, List.append_assoc] at inputEq
            refine ⟨Value.setEntry first.key first.value before,
              entries.flatMap WireEntry.octets ++ rest, ⟨first.key, _,
              (takesKey _ _ _).mpr ⟨first.keyOctets, keySpelled, inputEq⟩, first.value, _,
              (takesValue _ _ _).mpr ⟨first.valueOctets, valueSpelled, rfl⟩, ?_⟩,
              entries, Nat.succ.inj lengthEq, othersSpelled, resultEq, rfl⟩
            rw [if_pos isKey, pure_eq_ok_iff]
            exact ⟨rfl, rfl⟩

theorem takes_option
    {element : Layout}
    (takes : Takes element.read (element.Spells False)) :
    Takes (Layout.option element).read ((Layout.option element).Spells False) := by
  intro input value rest
  have zeroTag : Emission.length 0 = .complete [0] := rfl
  have oneTag : Emission.length 1 = .complete [1] := rfl
  simp only [read, map_eq_ok_iff, option_eq_ok_iff_tagged, zeroTag, oneTag,
    Emission.spells_complete_iff]
  apply Iff.intro
  · intro given
    rcases given with ⟨_, ⟨found, tagged⟩ | ⟨content, found, middle, tagged, contentRead⟩, valueEq⟩
    · subst found valueEq
      exact ⟨_, .inl ⟨rfl, rfl⟩, tagged⟩
    · subst found valueEq
      obtain ⟨octets, spelled, middleEq⟩ := (takes _ _ _).mp contentRead
      rw [middleEq] at tagged
      exact ⟨_, .inr ⟨octets, rfl, spelled, False.elim⟩, tagged⟩
  · intro given
    rcases given with ⟨octets, ⟨octetsEq, valueEq⟩ | ⟨content, octetsEq, spelled, _⟩, inputEq⟩
    · subst octetsEq valueEq
      exact ⟨Option.none, .inl ⟨rfl, inputEq⟩, rfl⟩
    · subst octetsEq
      have contentRead := (takes (content ++ rest) value rest).mpr ⟨content, spelled, rfl⟩
      exact ⟨some value, .inr ⟨value, rfl, content ++ rest, inputEq, contentRead⟩, rfl⟩

theorem takes_sequence
    {element : Layout}
    (takes : Takes element.read (element.Spells False)) :
    Takes (Layout.sequence element).read ((Layout.sequence element).Spells False) := by
  intro input value rest
  simp only [read, map_eq_ok_iff, Reader.sequence, bind_eq_ok_iff, length_eq_ok_iff,
    many_eq_ok_iff_spelled takes]
  apply Iff.intro
  · intro given
    rcases given with ⟨_, ⟨_, _, ⟨count, counted, inputEq⟩, items, lengthEq, spelled, valuesEq,
      middleEq⟩, valueEq⟩
    subst lengthEq valuesEq middleEq inputEq valueEq
    exact ⟨_, ⟨items, count, counted, spelled, rfl, rfl⟩, (List.append_assoc _ _ _).symm⟩
  · intro given
    rcases given with ⟨_, ⟨items, count, counted, spelled, octetsEq, valueEq⟩, inputEq⟩
    subst octetsEq valueEq inputEq
    exact ⟨_, ⟨items.length, items.flatMap Prod.fst ++ rest,
      ⟨count, counted, List.append_assoc _ _ _⟩, items, rfl, spelled, rfl, rfl⟩, rfl⟩

theorem takes_map
    {keyLayout valueLayout : Layout}
    (takesKey : Takes keyLayout.read (keyLayout.Spells False))
    (takesValue : Takes valueLayout.read (valueLayout.Spells False)) :
    Takes (Layout.map keyLayout valueLayout).read
      ((Layout.map keyLayout valueLayout).Spells False) := by
  intro input value rest
  simp only [read, bind_eq_ok_iff, length_eq_ok_iff, pure_eq_ok_iff,
    readEntries_eq_ok_iff_spelled takesKey takesValue]
  apply Iff.intro
  · intro given
    rcases given with ⟨_, _, ⟨count, counted, inputEq⟩, _, _, ⟨entries, lengthEq, spelled, resultEq,
      middleEq⟩, valueEq, restEq⟩
    subst lengthEq resultEq middleEq inputEq valueEq restEq
    exact ⟨_, ⟨entries, count, counted, spelled, False.elim, rfl, rfl⟩,
      (List.append_assoc _ _ _).symm⟩
  · intro given
    rcases given with ⟨_, ⟨entries, count, counted, spelled, _, octetsEq, valueEq⟩, inputEq⟩
    subst octetsEq valueEq inputEq
    exact ⟨entries.length, _, ⟨count, counted, List.append_assoc _ _ _⟩, _, _,
      ⟨entries, rfl, spelled, rfl, rfl⟩, rfl, rfl⟩

/-- What is read is a wire form of the value, and every wire form is read. -/
theorem takes_spells
    (paired : layout.IsPaired) :
    Takes layout.read (layout.Spells False) := by
  induction layout using partsInduction with
  | plain layout plain =>
      intro input value rest
      simp only [read_eq_ok_iff_of_isPlain plain paired, spells_iff_of_isPlain plain,
        Emission.Spells, and_assoc, exists_and_left]
  | option element inductionHypothesis => exact takes_option (inductionHypothesis paired)
  | sequence element inductionHypothesis => exact takes_sequence (inductionHypothesis paired)
  | map keyLayout valueLayout keyHypothesis valueHypothesis =>
      exact takes_map (keyHypothesis paired.1) (valueHypothesis paired.2)

end Layout

end MoveClient
