import Mathlib.Tactic.Choose
import MoveClient.Proofs.Wire.Forms

/-!
Every value is written in its canonical form.

Owns:
- that writing a value of a layout succeeds, and puts out the canonical wire form of an equal value;
- that values that are written one behind the other are read back, whatever follows them;
- which octets that are read are put out again when the value is written: those of canonical forms.

Does not own: what a wire form is.
-/

namespace MoveClient

open Reader

namespace Value

theorem sameAll_map
    {items : List Value}
    {image : Value → Value}
    (same : ∀ item ∈ items, item.same (image item) = true) :
    sameAll items (items.map image) = true := by
  induction items with
  | nil => rfl
  | cons first rest inductionHypothesis =>
      obtain ⟨firstSame, restSame⟩ := List.forall_mem_cons.mp same
      simp [sameAll, firstSame, inductionHypothesis restSame]

theorem sameEntries_iff {entries others : List (Value × Value)} :
    sameEntries entries others = true ↔
      ∀ entry ∈ entries, ∃ other ∈ others,
        entry.1.same other.1 = true ∧ entry.2.same other.2 = true := by
  induction entries with
  | nil => simp [sameEntries]
  | cons first rest inductionHypothesis => simp [sameEntries, inductionHypothesis]

/-- Only the missing value is equal to the missing value. -/
theorem eq_null_of_same_null
    {value : Value}
    (same : value.same .null = true) :
    value = .null := by
  cases value with
  | null => rfl
  | _ => cases same

end Value

namespace WireEntry

variable {entries : List WireEntry}

/-- The octets of the key, and those of the value. -/
def encoded (entry : WireEntry) : Bytes × Bytes :=
  (entry.keyOctets, entry.valueOctets)

/-- The order in which maps put out their entries. -/
def atMost (left right : WireEntry) : Bool :=
  Emission.entryAtMost left.encoded right.encoded

/-- The entries in the order in which maps put them out. -/
def sort (entries : List WireEntry) : List WireEntry :=
  entries.mergeSort atMost

theorem sort_perm (entries : List WireEntry) : (sort entries).Perm entries :=
  List.mergeSort_perm entries atMost

/-- Sorted entries are in the strict order of their keys if no key is there twice. -/
theorem ascending_sort
    (distinct : entries.Pairwise fun left right => left.keyOctets ≠ right.keyOctets) :
    (sort entries).Pairwise fun left right => left.keyOctets < right.keyOctets := by
  have sorted : (sort entries).Pairwise fun left right => atMost left right = true := by
    apply List.pairwise_mergeSort
    · intro first second third
      exact Emission.entryAtMost_trans first.encoded second.encoded third.encoded
    · intro left right
      exact Emission.entryAtMost_total left.encoded right.encoded
  have sortedDistinct := ((sort_perm entries).pairwise_iff Ne.symm).mpr distinct
  refine (sorted.and sortedDistinct).imp ?_
  intro left right ordered
  rcases Emission.entryAtMost_iff.mp ordered.1 with before | ⟨same, _⟩
  · exact before
  · exact absurd same ordered.2

/-- Entries in the strict order of their keys are sorted. -/
theorem sort_of_ascending
    (ascending : entries.Pairwise fun left right => left.keyOctets < right.keyOctets) :
    sort entries = entries := by
  apply List.mergeSort_of_pairwise
  refine ascending.imp ?_
  intro left right before
  exact Emission.entryAtMost_iff.mpr (.inl before)

/-- A map of keys and values that are put out puts out the octets of its entries in order. -/
theorem map_emission
    {α : Type}
    (entryOf : α → WireEntry)
    {pairs : List α}
    {key value : α → Emission}
    (keys : ∀ pair ∈ pairs, key pair = .complete (entryOf pair).keyOctets)
    (values : ∀ pair ∈ pairs, value pair = .complete (entryOf pair).valueOctets) :
    Emission.map (pairs.map fun pair => (key pair, value pair)) =
      Emission.length pairs.length ++
        .complete ((sort (pairs.map entryOf)).flatMap octets) := by
  have emitted : pairs.map (fun pair => (key pair, value pair)) =
      ((pairs.map entryOf).map encoded).map fun part => (.complete part.1, .complete part.2) := by
    rw [List.map_map, List.map_map]
    apply List.map_congr_left
    intro pair member
    rw [keys pair member, values pair member]
    rfl
  have sorted : (sort (pairs.map entryOf)).map encoded =
      ((pairs.map entryOf).map encoded).mergeSort Emission.entryAtMost := by
    apply List.map_mergeSort
    intro left _ right _
    rfl
  rw [emitted, Emission.map_complete, ← sorted, List.flatMap_map, List.length_map, List.length_map]
  rfl

end WireEntry

namespace Layout

variable {layout keyLayout valueLayout : Layout} {octets input rest : Bytes} {value other : Value}

theorem write_option_of_ne_null
    (present : value ≠ .null) :
    (Layout.option layout).write value = .option (some (layout.write value)) := by
  cases value with
  | null => exact absurd rfl present
  | _ => rfl

/-- A sequence of items that are put out is their count and the octets of each. -/
theorem write_sequence
    {α : Type}
    {items : List α}
    {valueOf : α → Value}
    {octetsOf : α → Bytes}
    (written : ∀ item ∈ items, layout.write (valueOf item) = .complete (octetsOf item)) :
    (Layout.sequence layout).write (.list (items.map valueOf)) =
      Emission.length items.length ++ .complete (items.flatMap octetsOf) := by
  have emitted : (items.map valueOf).map (fun value => layout.write value) =
      (items.map octetsOf).map .complete := by
    rw [List.map_map, List.map_map]
    exact List.map_congr_left written
  rw [write, Value.items?]
  dsimp only
  rw [emitted, Emission.sequence_complete, List.length_map, ← List.flatMap_def]

/-- Keys whose octets are in strict order are different. -/
theorem distinctKeys_of_ascending
    (keyLayout : Layout)
    {entries : List WireEntry}
    (hold : ∀ entry ∈ entries, entry.key.isKey = true ∧ keyLayout.Holds entry.key)
    (written : ∀ entry ∈ entries, keyLayout.write entry.key = .complete entry.keyOctets)
    (ascending : entries.Pairwise fun left right => left.keyOctets < right.keyOctets) :
    Value.DistinctKeys (entries.map WireEntry.pair) := by
  apply List.pairwise_map.mpr
  refine ascending.imp_of_mem ?_
  intro left right leftMember rightMember before
  rw [Bool.eq_false_iff]
  intro same
  obtain ⟨leftKey, leftHolds⟩ := hold left leftMember
  obtain ⟨rightKey, rightHolds⟩ := hold right rightMember
  have keyEq : left.key = right.key := eq_of_same leftHolds rightHolds leftKey rightKey same
  have octetsEq : Emission.complete left.keyOctets = .complete right.keyOctets := by
    rw [← written left leftMember, ← written right rightMember, keyEq]
  rw [Emission.complete.inj octetsEq] at before
  exact List.lt_irrefl _ before

/-- The canonical form of a value is what is put out for it. -/
theorem write_of_spells
    (spelled : layout.Spells True octets value) :
    layout.write value = .complete octets := by
  induction layout using partsInduction generalizing octets value with
  | plain layout plain => exact ((spells_iff_of_isPlain plain).mp spelled).2
  | option element inductionHypothesis =>
      rcases spelled with ⟨rfl, rfl⟩ | ⟨content, rfl, contentSpelled, present⟩
      · rfl
      · rw [write_option_of_ne_null (present trivial), inductionHypothesis contentSpelled]
        rfl
  | sequence element inductionHypothesis =>
      obtain ⟨items, count, counted, itemsSpelled, rfl, rfl⟩ := spelled
      rw [write_sequence fun item member => inductionHypothesis (itemsSpelled item member), counted]
      rfl
  | map keyLayout valueLayout keyHypothesis valueHypothesis =>
      obtain ⟨entries, count, counted, entriesSpelled, ascending, rfl, rfl⟩ := spelled
      have keysWritten : ∀ entry ∈ entries, keyLayout.write entry.key = .complete entry.keyOctets :=
        fun entry member => keyHypothesis (entriesSpelled entry member).1.2
      have keysHold : ∀ entry ∈ entries, entry.key.isKey = true ∧ keyLayout.Holds entry.key :=
        fun entry member => ⟨(entriesSpelled entry member).1.1, (entriesSpelled entry member).1.2.holds⟩
      have distinct := distinctKeys_of_ascending keyLayout keysHold keysWritten (ascending trivial)
      have emitted := WireEntry.map_emission id keysWritten
        fun entry member => valueHypothesis (entriesSpelled entry member).2
      rw [List.map_id, WireEntry.sort_of_ascending (ascending trivial), counted] at emitted
      rw [Value.entriesOf_of_distinctKeys distinct, write, List.map_map]
      exact emitted

/-- Values of one layout with the same wire form are the same. -/
theorem Spells.unique
    {canonical otherCanonical : Prop}
    (paired : layout.IsPaired)
    (spelled : layout.Spells canonical octets value)
    (otherSpelled : layout.Spells otherCanonical octets other) :
    value = other := by
  have read := (takes_spells paired octets value []).mpr
    ⟨octets, spelled.lenient, (List.append_nil octets).symm⟩
  have otherRead := (takes_spells paired octets other []).mpr
    ⟨octets, otherSpelled.lenient, (List.append_nil octets).symm⟩
  rw [read] at otherRead
  cases otherRead
  rfl

/-- The value is written as the octets, which are the canonical form of an equal value. What is
read for it is the value itself, unless a buffer or a map occurs in it, so that it can be no key. -/
def WritesAs (layout : Layout) (value : Value) (octets : Bytes) (given : Value) : Prop :=
  layout.write value = .complete octets ∧ layout.Spells True octets given ∧
    value.same given = true ∧ (value.isKey = true → given = value)

/-- Different keys are written differently. -/
theorem keyOctets_distinct
    {entries : List (Value × Value)}
    {keyOctets : Value → Bytes}
    (paired : keyLayout.IsPaired)
    (distinct : Value.DistinctKeys entries)
    (writes : ∀ entry ∈ entries, keyLayout.WritesAs entry.1 (keyOctets entry.1) entry.1) :
    entries.Pairwise fun left right => keyOctets left.1 ≠ keyOctets right.1 := by
  refine distinct.imp_of_mem ?_
  intro left right leftMember rightMember different octetsEq
  obtain ⟨_, leftSpelled, leftSame, _⟩ := writes left leftMember
  obtain ⟨_, rightSpelled, _⟩ := writes right rightMember
  rw [← octetsEq] at rightSpelled
  rw [← leftSpelled.unique paired rightSpelled, leftSame] at different
  cases different

/-- A map is written in canonical form if its keys, which are different, and its values are. -/
theorem exists_writesAs_map
    {entries : List (Value × Value)}
    (few : entries.length ≤ maxLength)
    (distinct : Value.DistinctKeys entries)
    (pairedKey : keyLayout.IsPaired)
    (keys : ∀ entry ∈ entries, entry.1.isKey = true ∧ keyLayout.Holds entry.1)
    (keyOctets : Value → Bytes)
    (keyWrites : ∀ entry ∈ entries, keyLayout.WritesAs entry.1 (keyOctets entry.1) entry.1)
    (valueOctets : Value → Bytes)
    (valueGiven : Value → Value)
    (valueWrites : ∀ entry ∈ entries,
      valueLayout.WritesAs entry.2 (valueOctets entry.2) (valueGiven entry.2)) :
    ∃ octets given, (Layout.map keyLayout valueLayout).WritesAs (.map entries) octets given := by
  -- The writer sorts encoded entries; the same entries on the wire, sorted, are the canonical form.
  let entryOf (entry : Value × Value) : WireEntry :=
    ⟨keyOctets entry.1, entry.1, valueOctets entry.2, valueGiven entry.2⟩
  have distinctOctets : (entries.map entryOf).Pairwise fun left right =>
      left.keyOctets ≠ right.keyOctets :=
    List.pairwise_map.mpr (keyOctets_distinct pairedKey distinct keyWrites)
  have ascending := WireEntry.ascending_sort distinctOctets
  have sorted_mem {entry : WireEntry} :
      entry ∈ WireEntry.sort (entries.map entryOf) ↔ ∃ pair ∈ entries, entryOf pair = entry := by
    rw [(WireEntry.sort_perm _).mem_iff, List.mem_map]
  have keysDistinct : Value.DistinctKeys ((WireEntry.sort (entries.map entryOf)).map WireEntry.pair) := by
    refine distinctKeys_of_ascending keyLayout ?_ ?_ ascending
    · intro entry member
      obtain ⟨pair, pairMember, rfl⟩ := sorted_mem.mp member
      exact keys pair pairMember
    · intro entry member
      obtain ⟨pair, pairMember, rfl⟩ := sorted_mem.mp member
      exact (keyWrites pair pairMember).1
  obtain ⟨count, counted⟩ := Emission.isComplete_length_iff.mpr few
  refine ⟨count ++ (WireEntry.sort (entries.map entryOf)).flatMap WireEntry.octets,
    .map ((WireEntry.sort (entries.map entryOf)).map WireEntry.pair), ?_, ?_, ?_, nofun⟩
  · have emitted := WireEntry.map_emission entryOf
      (fun pair member => (keyWrites pair member).1) fun pair member => (valueWrites pair member).1
    rw [counted] at emitted
    rw [write]
    exact emitted
  · refine ⟨WireEntry.sort (entries.map entryOf), count, ?_, ?_, fun _ => ascending, rfl, ?_⟩
    · rw [(WireEntry.sort_perm _).length_eq, List.length_map]
      exact counted
    · intro entry member
      obtain ⟨pair, pairMember, rfl⟩ := sorted_mem.mp member
      exact ⟨⟨(keys pair pairMember).1, (keyWrites pair pairMember).2.1⟩,
        (valueWrites pair pairMember).2.1⟩
    · rw [Value.entriesOf_of_distinctKeys keysDistinct]
  · have lengthEq : ((WireEntry.sort (entries.map entryOf)).map WireEntry.pair).length =
        entries.length := by
      rw [List.length_map, (WireEntry.sort_perm _).length_eq, List.length_map]
    rw [Value.same, lengthEq, beq_self_eq_true, Bool.true_and, Value.sameEntries_iff]
    intro pair member
    refine ⟨(entryOf pair).pair, List.mem_map.mpr ⟨entryOf pair, ?_, rfl⟩, ?_, ?_⟩
    · exact sorted_mem.mpr ⟨pair, member, rfl⟩
    · exact (keyWrites pair member).2.2.1
    · exact (valueWrites pair member).2.2.1

/-- A list is written in canonical form if its items are. -/
theorem exists_writesAs_sequence
    {items : List Value}
    (few : items.length ≤ maxLength)
    (itemOctets : Value → Bytes)
    (itemGiven : Value → Value)
    (writes : ∀ item ∈ items, layout.WritesAs item (itemOctets item) (itemGiven item)) :
    ∃ octets given, (Layout.sequence layout).WritesAs (.list items) octets given := by
  obtain ⟨count, counted⟩ := Emission.isComplete_length_iff.mpr few
  refine ⟨count ++ items.flatMap itemOctets, .list (items.map itemGiven), ?_, ?_, ?_, nofun⟩
  · have written : (Layout.sequence layout).write (.list (items.map id)) = _ :=
      write_sequence fun item member => (writes item member).1
    rw [List.map_id, counted] at written
    exact written
  · refine ⟨items.map fun item => (itemOctets item, itemGiven item), count, ?_, ?_, ?_, ?_⟩
    · rw [List.length_map]
      exact counted
    · intro part member
      obtain ⟨item, itemMember, rfl⟩ := List.mem_map.mp member
      exact (writes item itemMember).2.1
    · rw [List.flatMap_map]
    · rw [List.map_map]
      rfl
  · rw [Value.same]
    exact Value.sameAll_map fun item member => (writes item member).2.2.1

/-- Every value of a layout is written in canonical form. -/
theorem exists_writesAs
    (paired : layout.IsPaired)
    (holds : layout.Holds value) :
    ∃ octets given, layout.WritesAs value octets given := by
  induction layout using partsInduction generalizing value with
  | plain layout plain =>
      obtain ⟨frozenHolds, writtenEq, ⟨octets, written⟩, same⟩ := frozen_of_holds plain holds
      refine ⟨octets, value.frozen, written, ?_, same, Value.frozen_of_isKey⟩
      rw [spells_iff_of_isPlain plain, writtenEq]
      exact ⟨⟨frozenHolds, value.frozen_frozen⟩, written⟩
  | option element inductionHypothesis =>
      by_cases absent : value = .null
      · subst absent
        exact ⟨[0], .null, rfl, .inl ⟨rfl, rfl⟩, rfl, fun _ => rfl⟩
      · obtain ⟨octets, given, written, spelled, same, keyGiven⟩ :=
          inductionHypothesis paired (holds.resolve_left absent)
        refine ⟨1 :: octets, given, ?_, .inr ⟨octets, rfl, spelled, ?_⟩, same, keyGiven⟩
        · rw [write_option_of_ne_null absent, written]
          rfl
        · intro _ givenNull
          rw [givenNull] at same
          exact absent (Value.eq_null_of_same_null same)
  | sequence element inductionHypothesis =>
      obtain ⟨items, rfl, few, itemsHold⟩ := holds
      have forms : ∀ item, element.Holds item → ∃ octets given, element.WritesAs item octets given :=
        fun _ itemHolds => inductionHypothesis paired itemHolds
      -- As functions of the item, so that they can be mapped over the list.
      choose! octets given writes using forms
      exact exists_writesAs_sequence few octets given
        fun item member => writes item (itemsHold item member)
  | map keyLayout valueLayout keyHypothesis valueHypothesis =>
      obtain ⟨entries, rfl, few, distinct, entriesHold⟩ := holds
      have keyForms : ∀ key, keyLayout.Holds key →
          ∃ octets given, keyLayout.WritesAs key octets given :=
        fun _ keyHolds => keyHypothesis paired.1 keyHolds
      have valueForms : ∀ value, valueLayout.Holds value →
          ∃ octets given, valueLayout.WritesAs value octets given :=
        fun _ valueHolds => valueHypothesis paired.2 valueHolds
      choose! keyOctets keyGiven keyWrites using keyForms
      choose! valueOctets valueGiven valueWrites using valueForms
      refine exists_writesAs_map few distinct paired.1 (fun entry member => (entriesHold entry member).1)
        keyOctets ?_ valueOctets valueGiven ?_
      · intro entry member
        obtain ⟨⟨key, keyHolds⟩, _⟩ := entriesHold entry member
        have writes := keyWrites entry.1 keyHolds
        -- A key is read as itself, which keeps different keys different.
        rw [writes.2.2.2 key] at writes
        exact writes
      · intro entry member
        exact valueWrites entry.2 (entriesHold entry member).2

/-! ## Writing and reading back -/

/-- What is read is written again, and exactly where its wire form was canonical the same octets
are put out. -/
theorem write_of_read
    (layout : Layout)
    (paired : layout.IsPaired)
    (input rest : Bytes)
    (value : Value)
    (read : layout.read input = .ok value rest) :
    ∃ octets, input = octets ++ rest ∧ layout.Spells False octets value ∧
      (layout.write value).IsComplete ∧
        (layout.write value = .complete octets ↔ layout.Spells True octets value) := by
  obtain ⟨octets, spelled, inputEq⟩ := (takes_spells paired input value rest).mp read
  obtain ⟨canonicalOctets, given, written, canonicalSpelled, _⟩ := exists_writesAs paired spelled.holds
  refine ⟨octets, inputEq, spelled, ⟨canonicalOctets, written⟩, ?_, write_of_spells⟩
  intro writtenAgain
  have octetsEq : octets = canonicalOctets :=
    Emission.complete.inj (writtenAgain.symm.trans written)
  rw [← octetsEq] at canonicalSpelled
  rw [spelled.unique paired canonicalSpelled]
  exact canonicalSpelled

/-- An absent option behind the mark of a present one is read, but no canonical form. -/
theorem not_canonical_presentAbsence :
    (Layout.option (.option .bool)).read [1, 0] = .ok .null [] ∧
      ¬ (Layout.option (.option .bool)).Spells True [1, 0] .null := by
  obtain ⟨octets, inputEq, _, _, canonical⟩ :=
    write_of_read (.option (.option .bool)) trivial [1, 0] [] .null rfl
  rw [List.append_nil] at inputEq
  subst inputEq
  refine ⟨rfl, ?_⟩
  intro spelled
  cases canonical.mpr spelled

/-- Entries of maps are accepted in any order and with repeated keys, and an absent option as the
content of an option; none of this is what is written for the value that is read. -/
theorem noncanonical_accepted :
    (Layout.map (.integer .u8) .bool).read [2, 2, 0, 1, 1] =
        .ok (.map [(.int 2, .bool false), (.int 1, .bool true)]) [] ∧
      (Layout.map (.integer .u8) .bool).write (.map [(.int 2, .bool false), (.int 1, .bool true)]) =
        .complete [2, 1, 1, 2, 0] ∧
      (Layout.map (.integer .u8) .bool).read [2, 1, 0, 1, 1] = .ok (.map [(.int 1, .bool true)]) [] ∧
      (Layout.map (.integer .u8) .bool).write (.map [(.int 1, .bool true)]) = .complete [1, 1, 1] ∧
      (Layout.option (.option .bool)).read [1, 0] = .ok .null [] ∧
      (Layout.option (.option .bool)).write .null = .complete [0] := by
  have sorted : [([2], [0]), ([1], [1])].mergeSort Emission.entryAtMost =
      [([1], [1]), ([2], [0])] := by
    have after : Emission.entryAtMost ([2], [0]) ([1], [1]) = false := rfl
    simp [List.mergeSort, after]
  refine ⟨rfl, ?_, rfl, ?_, rfl, rfl⟩
  · show Emission.map
      ([([2], [0]), ([1], [1])].map fun part => (.complete part.1, .complete part.2)) = _
    rw [Emission.map_complete, sorted]
    rfl
  · show Emission.map ([([1], [1])].map fun part => (.complete part.1, .complete part.2)) = _
    rw [Emission.map_complete, List.mergeSort_singleton]
    rfl

end Layout

end MoveClient
