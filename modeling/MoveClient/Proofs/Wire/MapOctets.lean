import Mathlib.Data.List.Perm.Basic
import MoveClient.Proofs.Wire.Contents
import MoveClient.Proofs.Wire.Interrupted
import MoveClient.Proofs.Wire.Lengths

/-!
The octets of maps tell their contents.

Owns:
- `Layout.Fits`, the sizes and kinds of values that writers leave unchecked;
- that the octets written for a value that fits tell its contents, and where what follows begins;
- in which order the entries of a map are put out, and that what a map puts out is settled by its
  contents and settles them.

Does not own: when values have the same contents.
-/

namespace MoveClient

namespace Emission

/-- Emissions one behind the other put out what each of them puts out. -/
theorem concat_eq_complete_iff
    {emissions : List Emission}
    {octets : Bytes} :
    concat emissions = .complete octets ↔
      (∀ emission ∈ emissions, emission.IsComplete) ∧
        octets = emissions.flatMap Emission.octets := by
  induction emissions generalizing octets with
  | nil => simp [concat, eq_comm]
  | cons first rest inductionHypothesis =>
      rw [concat, append_eq_complete_iff]
      simp only [inductionHypothesis, List.forall_mem_cons, List.flatMap_cons]
      constructor
      · rintro ⟨_, _, emitted, ⟨restComplete, rfl⟩, rfl⟩
        exact ⟨⟨⟨_, emitted⟩, restComplete⟩, by rw [octets_eq_of_eq_complete emitted]⟩
      · rintro ⟨⟨complete, restComplete⟩, rfl⟩
        exact ⟨_, _, complete.eq_complete, ⟨restComplete, rfl⟩, rfl⟩

/-- What stands behind a count is put out where the count is. -/
theorem length_append_eq_complete_iff
    {number : Nat}
    {next : Emission}
    {octets : Bytes} :
    length number ++ next = .complete octets ↔
      number ≤ maxLength ∧ next.IsComplete ∧
        octets = (length number).octets ++ next.octets := by
  rw [append_eq_complete_iff]
  constructor
  · rintro ⟨_, _, counted, emitted, rfl⟩
    refine ⟨isComplete_length_iff.mp ⟨_, counted⟩, ⟨_, emitted⟩, ?_⟩
    rw [octets_eq_of_eq_complete counted, octets_eq_of_eq_complete emitted]
  · rintro ⟨few, complete, rfl⟩
    exact ⟨_, _, (isComplete_length_iff.mpr few).eq_complete, complete.eq_complete, rfl⟩

end Emission

open Reader

namespace Layout

variable {layout keyLayout valueLayout : Layout} {left right : Value}

/-- What the writer does not check: raw octets are as many as the layout says, and what has a wire
form of its own is of the kind that the layout says. -/
def Fits : Layout → Value → Prop
  | .raw size, value => ∀ octets, value.frozen = .bytes octets → octets.length = size
  | .struct .address, value => ∀ tag, value ≠ .type tag
  | .struct _, value => ∀ address, value ≠ .address address
  | .option element, value => element.Fits value
  | .sequence element, value =>
      ∀ items, value.items? = some items → ∀ item ∈ items, element.Fits item
  | .map keyLayout valueLayout, value =>
      ∀ entries, value = .map entries → ∀ entry ∈ entries,
        keyLayout.Fits entry.1 ∧ valueLayout.Fits entry.2
  | _, _ => True

/-- A value without parts that is written belongs to the layout. -/
theorem holds_of_isComplete
    {value : Value}
    (plain : layout.IsPlain)
    (paired : layout.IsPaired)
    (fits : layout.Fits value)
    (complete : (layout.write value).IsComplete) :
    layout.Holds value := by
  cases layout with
  | option element | sequence element | map keyLayout valueLayout => cases plain
  | bool => cases value <;> simp_all [write, Value.writeBool, Holds]
  | integer type => cases value <;> simp_all [write, Value.writeInteger, Holds]
  | uleb128 =>
      cases value with
      | int v =>
          obtain ⟨octets, written⟩ := complete
          obtain ⟨number, rfl, small, _⟩ := write_uleb128_eq_complete_iff.mp written
          exact ⟨number, rfl, small⟩
      | _ => exact absurd complete (Emission.not_isComplete_fail _)
  | text => cases value <;> simp_all [write, Value.writeText, Holds]
  | bytes =>
      cases value <;>
        simp_all [write, Value.writeBytes, Value.items?, Value.writeRaw, Holds, Value.frozen]
  | raw size => cases value <;> simp_all [write, Value.writeRaw, Holds, Fits, Value.frozen]
  | struct kind =>
      cases kind with
      | address => cases value <;> simp_all [write, Value.writeStruct, Holds, Fits]
      | typeTag =>
          cases value <;>
            simp_all [write, Value.writeStruct, Holds, Fits, TypeTag.isComplete_write_iff]
      | structTag => cases paired

/-! ## Taking apart what is written -/

/-- Where the octets of items can be told from what follows them, a list of items can be. -/
theorem forall₂_of_flatMap_append_eq
    {α : Type}
    {Related : α → α → Prop}
    {octetsOf : α → Bytes}
    {items others : List α}
    {rest otherRest : Bytes}
    (splits : ∀ item ∈ items, ∀ other ∈ others, ∀ rest otherRest,
      octetsOf item ++ rest = octetsOf other ++ otherRest → Related item other ∧ rest = otherRest)
    (lengthEq : items.length = others.length)
    (same : items.flatMap octetsOf ++ rest = others.flatMap octetsOf ++ otherRest) :
    List.Forall₂ Related items others ∧ rest = otherRest := by
  induction items generalizing others with
  | nil =>
      cases List.length_eq_zero_iff.mp lengthEq.symm
      exact ⟨.nil, same⟩
  | cons first items inductionHypothesis =>
      cases others with
      | nil => cases lengthEq
      | cons other others =>
          rw [List.flatMap_cons, List.flatMap_cons, List.append_assoc, List.append_assoc] at same
          obtain ⟨related, sameRest⟩ :=
            splits first List.mem_cons_self other List.mem_cons_self _ _ same
          obtain ⟨restRelated, restEq⟩ := inductionHypothesis
            (fun item member other otherMember => splits item (List.mem_cons_of_mem _ member) other
              (List.mem_cons_of_mem _ otherMember))
            (Nat.succ.inj lengthEq) sameRest
          exact ⟨.cons related restRelated, restEq⟩

/-- What is put out for the key and the value of an entry. -/
def entryOctets (keyLayout valueLayout : Layout) (entry : Value × Value) : Bytes :=
  (keyLayout.write entry.1).octets ++ (valueLayout.write entry.2).octets

/-- The entries in the order in which they are put out. -/
def arrange
    (keyLayout valueLayout : Layout)
    (entries : List (Value × Value)) : List (Value × Value) :=
  entries.mergeSort fun left right =>
    Emission.entryAtMost
      (Emission.encodedEntry (keyLayout.write left.1, valueLayout.write left.2))
      (Emission.encodedEntry (keyLayout.write right.1, valueLayout.write right.2))

theorem arrange_perm (keyLayout valueLayout : Layout) (entries : List (Value × Value)) :
    (arrange keyLayout valueLayout entries).Perm entries :=
  List.mergeSort_perm entries _

theorem write_sequence_eq_complete_iff
    {value : Value}
    {items : List Value}
    {octets : Bytes}
    (itemsEq : value.items? = some items) :
    (Layout.sequence layout).write value = .complete octets ↔
      (∀ item ∈ items, (layout.write item).IsComplete) ∧ items.length ≤ maxLength ∧
        octets = (Emission.length items.length).octets ++
          items.flatMap fun item => (layout.write item).octets := by
  rw [write, itemsEq]
  dsimp only
  rw [Emission.sequence_eq_complete_iff, Emission.length_append_eq_complete_iff,
    List.length_map]
  constructor
  · rintro ⟨few, ⟨_, emitted⟩, rfl⟩
    obtain ⟨complete, rfl⟩ := Emission.concat_eq_complete_iff.mp emitted
    refine ⟨List.forall_mem_map.mp complete, few, ?_⟩
    rw [Emission.octets_eq_of_eq_complete emitted, List.flatMap_map]
  · rintro ⟨complete, few, rfl⟩
    have emitted := Emission.concat_eq_complete_iff.mpr ⟨List.forall_mem_map.mpr complete, rfl⟩
    refine ⟨few, ⟨_, emitted⟩, ?_⟩
    rw [Emission.octets_eq_of_eq_complete emitted, List.flatMap_map]

theorem write_map_eq_complete_iff
    {entries : List (Value × Value)}
    {octets : Bytes} :
    (Layout.map keyLayout valueLayout).write (.map entries) = .complete octets ↔
      (∀ entry ∈ entries,
        (keyLayout.write entry.1).IsComplete ∧ (valueLayout.write entry.2).IsComplete) ∧
        entries.length ≤ maxLength ∧
          octets = (Emission.length entries.length).octets ++
            (arrange keyLayout valueLayout entries).flatMap
              (entryOctets keyLayout valueLayout) := by
  have sorted : ((entries.map fun entry => (keyLayout.write entry.1, valueLayout.write entry.2)).map
        Emission.encodedEntry).mergeSort Emission.entryAtMost =
      (arrange keyLayout valueLayout entries).map fun entry =>
        Emission.encodedEntry (keyLayout.write entry.1, valueLayout.write entry.2) := by
    rw [List.map_map]
    refine (List.map_mergeSort ?_).symm
    intro left _ right _
    rfl
  rw [write, Emission.map_eq_complete_iff, sorted, Emission.length_append_eq_complete_iff,
    List.forall_mem_map, List.length_map, List.flatMap_map]
  exact and_congr_right fun _ => and_congr_right fun _ =>
    and_iff_right (Emission.isComplete_complete _)

/-- A map is written unless a key or a value of it is not, or it has too many entries. -/
theorem isComplete_write_map_iff {entries : List (Value × Value)} :
    ((Layout.map keyLayout valueLayout).write (.map entries)).IsComplete ↔
      (∀ entry ∈ entries,
        (keyLayout.write entry.1).IsComplete ∧ (valueLayout.write entry.2).IsComplete) ∧
        entries.length ≤ maxLength := by
  constructor
  · intro complete
    obtain ⟨entriesComplete, few, _⟩ := write_map_eq_complete_iff.mp complete.eq_complete
    exact ⟨entriesComplete, few⟩
  · rintro ⟨entriesComplete, few⟩
    exact ⟨_, write_map_eq_complete_iff.mpr ⟨entriesComplete, few, rfl⟩⟩

/-! ## Contents from octets -/

/-- What is read for a value without parts is the value, up to buffers. -/
theorem read_of_write_of_isPlain
    {value : Value}
    {octets : Bytes}
    (plain : layout.IsPlain)
    (paired : layout.IsPaired)
    (fits : layout.Fits value)
    (written : layout.write value = .complete octets)
    (rest : Bytes) :
    layout.read (octets ++ rest) = .ok value.frozen rest := by
  have holds := holds_of_isComplete plain paired fits ⟨octets, written⟩
  exact (read_eq_ok_iff_of_isPlain plain paired).mpr
    ⟨⟨(frozen_of_holds plain holds).1, value.frozen_frozen⟩, octets,
      (write_frozen plain value octets).mpr written, rfl⟩

/-- What is written for values that fit tells their contents, and where what follows begins. -/
def TellsContents (layout : Layout) : Prop :=
  ∀ (left right : Value) (rest otherRest : Bytes), layout.Fits left → layout.Fits right →
    (layout.write left).IsComplete → (layout.write right).IsComplete →
      (layout.write left).octets ++ rest = (layout.write right).octets ++ otherRest →
        layout.Alike left right ∧ rest = otherRest

theorem tellsContents_of_isPlain
    (plain : layout.IsPlain)
    (paired : layout.IsPaired) :
    layout.TellsContents := by
  intro left right rest otherRest leftFits rightFits leftComplete rightComplete same
  have leftRead := read_of_write_of_isPlain plain paired leftFits leftComplete.eq_complete rest
  have rightRead :=
    read_of_write_of_isPlain plain paired rightFits rightComplete.eq_complete otherRest
  rw [same, rightRead] at leftRead
  obtain ⟨frozenEq, restEq⟩ := EStateM.Result.ok.inj leftRead
  exact ⟨(alike_iff_of_isPlain plain).mpr frozenEq.symm, restEq.symm⟩

/-- A value that is there is written behind the tag `1`. -/
theorem write_option_complete
    {value : Value}
    (present : value ≠ .null)
    (complete : ((Layout.option layout).write value).IsComplete) :
    (layout.write value).IsComplete ∧
      ((Layout.option layout).write value).octets = 1 :: (layout.write value).octets := by
  obtain ⟨octets, written⟩ := complete
  have tagged := written
  rw [write_option_of_ne_null present, Emission.option_some_eq_complete_iff,
    Emission.length_append_eq_complete_iff] at tagged
  obtain ⟨_, contentComplete, octetsEq⟩ := tagged
  refine ⟨contentComplete, ?_⟩
  rw [Emission.octets_eq_of_eq_complete written, octetsEq]
  rfl

theorem tellsContents_option
    (tells : layout.TellsContents) :
    (Layout.option layout).TellsContents := by
  intro left right rest otherRest leftFits rightFits leftComplete rightComplete same
  have absentOctets : ((Layout.option layout).write .null).octets = [0] := rfl
  by_cases leftAbsent : left = .null
  · subst leftAbsent
    by_cases rightAbsent : right = .null
    · subst rightAbsent
      exact ⟨.inl ⟨rfl, rfl⟩, List.append_cancel_left same⟩
    · rw [absentOctets, (write_option_complete rightAbsent rightComplete).2] at same
      cases same
  · obtain ⟨leftContent, leftOctets⟩ := write_option_complete leftAbsent leftComplete
    by_cases rightAbsent : right = .null
    · subst rightAbsent
      rw [absentOctets, leftOctets] at same
      cases same
    · obtain ⟨rightContent, rightOctets⟩ := write_option_complete rightAbsent rightComplete
      rw [leftOctets, rightOctets] at same
      obtain ⟨alike, restEq⟩ := tells left right rest otherRest leftFits rightFits leftContent
        rightContent (List.cons.inj same).2
      exact ⟨.inr ⟨leftAbsent, rightAbsent, alike⟩, restEq⟩

theorem write_sequence_complete
    {value : Value}
    (complete : ((Layout.sequence layout).write value).IsComplete) :
    ∃ items, value.items? = some items ∧ (∀ item ∈ items, (layout.write item).IsComplete) ∧
      items.length ≤ maxLength ∧
        ((Layout.sequence layout).write value).octets =
          (Emission.length items.length).octets ++
            items.flatMap fun item => (layout.write item).octets := by
  cases itemsEq : value.items? with
  | none =>
      rw [write, itemsEq] at complete
      exact absurd complete (Emission.not_isComplete_fail _)
  | some items =>
      exact ⟨items, rfl, (write_sequence_eq_complete_iff itemsEq).mp complete.eq_complete⟩

theorem tellsContents_sequence
    (tells : layout.TellsContents) :
    (Layout.sequence layout).TellsContents := by
  intro left right rest otherRest leftFits rightFits leftComplete rightComplete same
  obtain ⟨items, itemsEq, itemsComplete, few, octetsEq⟩ := write_sequence_complete leftComplete
  obtain ⟨others, othersEq, othersComplete, otherFew, otherOctetsEq⟩ :=
    write_sequence_complete rightComplete
  rw [octetsEq, otherOctetsEq, List.append_assoc, List.append_assoc] at same
  obtain ⟨lengthEq, sameItems⟩ := Emission.length_append_injective few otherFew same
  obtain ⟨alike, restEq⟩ := forall₂_of_flatMap_append_eq
    (fun item member other otherMember rest otherRest =>
      tells item other rest otherRest (leftFits items itemsEq item member)
        (rightFits others othersEq other otherMember) (itemsComplete item member)
        (othersComplete other otherMember))
    lengthEq sameItems
  exact ⟨⟨items, others, itemsEq, othersEq, alike⟩, restEq⟩

theorem write_map_complete
    {value : Value}
    (complete : ((Layout.map keyLayout valueLayout).write value).IsComplete) :
    ∃ entries, value = .map entries ∧
      (∀ entry ∈ entries,
        (keyLayout.write entry.1).IsComplete ∧ (valueLayout.write entry.2).IsComplete) ∧
        entries.length ≤ maxLength ∧
          ((Layout.map keyLayout valueLayout).write value).octets =
            (Emission.length entries.length).octets ++
              (arrange keyLayout valueLayout entries).flatMap
                (entryOctets keyLayout valueLayout) := by
  cases value with
  | map entries => exact ⟨entries, rfl, write_map_eq_complete_iff.mp complete.eq_complete⟩
  | _ => exact absurd complete (Emission.not_isComplete_fail _)

theorem tellsContents_map
    (tellsKey : keyLayout.TellsContents)
    (tellsValue : valueLayout.TellsContents) :
    (Layout.map keyLayout valueLayout).TellsContents := by
  intro left right rest otherRest leftFits rightFits leftComplete rightComplete same
  obtain ⟨entries, rfl, entriesComplete, few, octetsEq⟩ := write_map_complete leftComplete
  obtain ⟨others, rfl, othersComplete, otherFew, otherOctetsEq⟩ := write_map_complete rightComplete
  rw [octetsEq, otherOctetsEq, List.append_assoc, List.append_assoc] at same
  obtain ⟨lengthEq, sameEntries⟩ := Emission.length_append_injective few otherFew same
  have perm := arrange_perm keyLayout valueLayout entries
  have otherPerm := arrange_perm keyLayout valueLayout others
  -- The entries are told apart in the order in which they are put out.
  have splits : ∀ entry ∈ arrange keyLayout valueLayout entries,
      ∀ other ∈ arrange keyLayout valueLayout others, ∀ rest otherRest,
        entryOctets keyLayout valueLayout entry ++ rest =
            entryOctets keyLayout valueLayout other ++ otherRest →
          (keyLayout.Alike entry.1 other.1 ∧ valueLayout.Alike entry.2 other.2) ∧
            rest = otherRest := by
    intro entry member other otherMember rest otherRest sameEntry
    have entryMember := perm.mem_iff.mp member
    have otherEntryMember := otherPerm.mem_iff.mp otherMember
    rw [entryOctets, entryOctets, List.append_assoc, List.append_assoc] at sameEntry
    obtain ⟨keyFits, valueFits⟩ := leftFits entries rfl entry entryMember
    obtain ⟨otherKeyFits, otherValueFits⟩ := rightFits others rfl other otherEntryMember
    obtain ⟨keyComplete, valueComplete⟩ := entriesComplete entry entryMember
    obtain ⟨otherKeyComplete, otherValueComplete⟩ := othersComplete other otherEntryMember
    obtain ⟨keyAlike, sameValue⟩ := tellsKey entry.1 other.1 _ _ keyFits otherKeyFits keyComplete
      otherKeyComplete sameEntry
    obtain ⟨valueAlike, restEq⟩ := tellsValue entry.2 other.2 _ _ valueFits otherValueFits
      valueComplete otherValueComplete sameValue
    exact ⟨⟨keyAlike, valueAlike⟩, restEq⟩
  have arrangedLength : (arrange keyLayout valueLayout entries).length =
      (arrange keyLayout valueLayout others).length := by
    rw [perm.length_eq, otherPerm.length_eq, lengthEq]
  obtain ⟨alike, restEq⟩ := forall₂_of_flatMap_append_eq splits arrangedLength sameEntries
  obtain ⟨arranged, alike, arrangedPerm⟩ := List.perm_comp_forall₂ perm.symm alike
  exact ⟨⟨entries, arranged, others, rfl, rfl, arrangedPerm.trans otherPerm, alike⟩, restEq⟩

theorem tellsContents (layout : Layout) : layout.TellsContents := by
  induction layout using partsInduction with
  | plain layout plain =>
      cases layout with
      | option element | sequence element | map keyLayout valueLayout => cases plain
      | struct kind =>
          cases kind with
          | address | typeTag => exact tellsContents_of_isPlain trivial trivial
          | structTag =>
              -- It is written like a type.
              have tells : (Layout.struct .typeTag).TellsContents :=
                tellsContents_of_isPlain trivial trivial
              exact tells
      | bool | integer type | uleb128 | text | bytes | raw size =>
          exact tellsContents_of_isPlain trivial trivial
  | option element inductionHypothesis => exact tellsContents_option inductionHypothesis
  | sequence element inductionHypothesis => exact tellsContents_sequence inductionHypothesis
  | map keyLayout valueLayout keyHypothesis valueHypothesis =>
      exact tellsContents_map keyHypothesis valueHypothesis

/-! ## Maps -/

/-- Emissions that agree put out the same octets, if they put out nothing when they break off. -/
theorem octets_eq_of_agrees
    {emission other : Emission}
    (atomic : emission.IsAtomic)
    (otherAtomic : other.IsAtomic)
    (agrees : emission.Agrees other) :
    emission.octets = other.octets := by
  cases emission with
  | complete octets => rw [← (agrees octets).mp rfl]
  | broken octets error =>
      cases other with
      | complete otherOctets => cases (agrees otherOctets).mpr rfl
      | broken otherOctets otherError =>
          rw [atomic octets error rfl, otherAtomic otherOctets otherError rfl]
          rfl

variable {entries others : List (Value × Value)}

/-- Entries are put out in the order of the octets of their keys, where only keys with the same
contents have the same octets. -/
theorem ascending_arrange
    (fits : (Layout.map keyLayout valueLayout).Fits (.map entries))
    (complete : ∀ entry ∈ entries,
      (keyLayout.write entry.1).IsComplete ∧ (valueLayout.write entry.2).IsComplete) :
    (arrange keyLayout valueLayout entries).Pairwise fun earlier later =>
      (keyLayout.write earlier.1).octets < (keyLayout.write later.1).octets ∨
        keyLayout.Alike earlier.1 later.1 := by
  have sorted : (arrange keyLayout valueLayout entries).Pairwise fun left right =>
      Emission.entryAtMost
        (Emission.encodedEntry (keyLayout.write left.1, valueLayout.write left.2))
        (Emission.encodedEntry (keyLayout.write right.1, valueLayout.write right.2)) = true := by
    apply List.pairwise_mergeSort
    · exact fun _ _ _ => Emission.entryAtMost_trans _ _ _
    · exact fun _ _ => Emission.entryAtMost_total _ _
  refine List.Pairwise.imp_of_mem ?_ sorted
  intro earlier later earlierMember laterMember atMost
  rcases Emission.entryAtMost_iff.mp atMost with before | ⟨sameKey, _⟩
  · exact .inl before
  · have perm := arrange_perm keyLayout valueLayout entries
    have earlierEntry := perm.mem_iff.mp earlierMember
    have laterEntry := perm.mem_iff.mp laterMember
    exact .inr (tellsContents keyLayout earlier.1 later.1 [] []
      (fits entries rfl earlier earlierEntry).1 (fits entries rfl later laterEntry).1
      (complete earlier earlierEntry).1 (complete later laterEntry).1
      (congrArg (· ++ []) sameKey)).1

/-- No two keys of a map that belongs to the layout have the same contents. -/
theorem pairwise_not_alike_of_holds
    (holds : (Layout.map keyLayout valueLayout).Holds (.map entries)) :
    entries.Pairwise fun earlier later => ¬ keyLayout.Alike earlier.1 later.1 := by
  obtain ⟨_, entriesEq, _, distinct, entriesHold⟩ := holds
  cases entriesEq
  refine distinct.imp_of_mem ?_
  intro earlier later earlierMember laterMember different alike
  obtain ⟨⟨_, earlierHolds⟩, _⟩ := entriesHold earlier earlierMember
  obtain ⟨⟨_, laterHolds⟩, _⟩ := entriesHold later laterMember
  rw [same_of_alike earlierHolds laterHolds alike] at different
  cases different

/-- What a map puts out is settled by its contents, and settles them. -/
theorem map_canonical
    (keyLayout valueLayout : Layout)
    (entries others : List (Value × Value))
    (fits : (Layout.map keyLayout valueLayout).Fits (.map entries))
    (otherFits : (Layout.map keyLayout valueLayout).Fits (.map others)) :
    let layout := Layout.map keyLayout valueLayout
    ((layout.write (.map entries)).IsComplete ↔
      (∀ entry ∈ entries,
        (keyLayout.write entry.1).IsComplete ∧ (valueLayout.write entry.2).IsComplete) ∧
        entries.length ≤ maxLength) ∧
    (entries.Perm others →
      (layout.write (.map entries)).Agrees (layout.write (.map others)) ∧
        (layout.write (.map entries)).octets = (layout.write (.map others)).octets) ∧
    (∀ octets, layout.write (.map entries) = .complete octets →
      (∃ arranged : List (Value × Value), arranged.Perm entries ∧
        (arranged.Pairwise fun earlier later =>
          (keyLayout.write earlier.1).octets < (keyLayout.write later.1).octets ∨
            keyLayout.Alike earlier.1 later.1) ∧
        octets = (Emission.length entries.length).octets ++
          arranged.flatMap fun entry =>
            (keyLayout.write entry.1).octets ++ (valueLayout.write entry.2).octets) ∧
      (layout.write (.map others) = .complete octets ↔
        layout.Alike (.map entries) (.map others))) ∧
    (layout.Holds (.map entries) → layout.Holds (.map others) →
      (entries.Pairwise fun earlier later => ¬ keyLayout.Alike earlier.1 later.1) ∧
        (layout.Alike (.map entries) (.map others) ↔
          (Value.map entries).same (.map others) = true)) := by
  intro layout
  refine ⟨isComplete_write_map_iff, fun perm => ?_, fun octets written => ⟨?_, ?_, ?_⟩,
    fun holds otherHolds => ⟨pairwise_not_alike_of_holds holds, ?_, ?_⟩⟩
  · have agrees : (layout.write (.map entries)).Agrees (layout.write (.map others)) :=
      fun _ => Emission.map_eq_complete_iff_of_perm (perm.map _)
    exact ⟨agrees, octets_eq_of_agrees (Emission.isAtomic_map _) (Emission.isAtomic_map _) agrees⟩
  · obtain ⟨complete, _, octetsEq⟩ := write_map_eq_complete_iff.mp written
    exact ⟨arrange keyLayout valueLayout entries, arrange_perm keyLayout valueLayout entries,
      ascending_arrange fits complete, octetsEq⟩
  · intro otherWritten
    refine (tellsContents _ _ _ [] [] fits otherFits ⟨_, written⟩ ⟨_, otherWritten⟩ ?_).1
    rw [written, otherWritten]
  · intro alike
    exact (write_agrees_of_alike alike octets).mp written
  · exact same_of_alike holds otherHolds
  · exact alike_of_same holds otherHolds

/-- The longer key comes last, whatever its letters, and a tuple is written like a list. -/
theorem map_canonical_lookup :
    let layout := Layout.map .text (.sequence (.integer .u8))
    let entries := [(Value.text "aa", Value.list [.int 1, .int 2]), (.text "b", .tuple [.int 3])]
    let others := [(Value.text "b", Value.list [.int 3]), (.text "aa", .tuple [.int 1, .int 2])]
    let octets := [2, 1, 98, 1, 3, 2, 97, 97, 2, 1, 2]
    layout.Fits (.map entries) ∧ layout.Fits (.map others) ∧
      layout.write (.map entries) = .complete octets ∧
        layout.Alike (.map entries) (.map others) ∧
          layout.write (.map others) = .complete octets := by
  intro layout entries others octets
  have fits : layout.Fits (.map entries) := by
    rintro _ ⟨⟩ entry member
    exact ⟨trivial, fun _ _ _ _ => trivial⟩
  have otherFits : layout.Fits (.map others) := by
    rintro _ ⟨⟩ entry member
    exact ⟨trivial, fun _ _ _ _ => trivial⟩
  have written : layout.write (.map entries) = .complete octets := by
    have sorted : [(([2, 97, 97] : Bytes), ([2, 1, 2] : Bytes)), ([1, 98], [1, 3])].mergeSort
        Emission.entryAtMost = [([1, 98], [1, 3]), ([2, 97, 97], [2, 1, 2])] := by
      have after : Emission.entryAtMost ([2, 97, 97], [2, 1, 2]) ([1, 98], [1, 3]) = false := rfl
      simp [List.mergeSort, after]
    show Emission.map ([([2, 97, 97], [2, 1, 2]), ([1, 98], [1, 3])].map fun part =>
      (.complete part.1, .complete part.2)) = _
    rw [Emission.map_complete, sorted]
    rfl
  have alike : layout.Alike (.map entries) (.map others) := by
    refine ⟨entries, others.reverse, others, rfl, rfl, List.reverse_perm others, ?_⟩
    exact .cons ⟨rfl, _, _, rfl, rfl, .cons rfl (.cons rfl .nil)⟩
      (.cons ⟨rfl, _, _, rfl, rfl, .cons rfl .nil⟩ .nil)
  obtain ⟨_, _, canonical, _⟩ := map_canonical _ _ entries others fits otherFits
  exact ⟨fits, otherFits, written, alike, (canonical octets written).2.mpr alike⟩

/-- The kinds of sequences, and of what has a wire form of its own, are not told apart. -/
theorem map_kinds_not_told_apart :
    let lists := Layout.map (.integer .u8) (.sequence (.integer .u8))
    let list := Value.map [(.int 0, .list [.int 7])]
    let tuple := Value.map [(.int 0, .tuple [.int 7])]
    let keyed := Layout.map (.sequence (.integer .u8)) (.integer .u8)
    let twofold := [(Value.tuple [.int 7], Value.int 1), (.bytes [7], .int 2)]
    let structs := Layout.map (.integer .u8) (.struct .address)
    let nested := (List.range 31).foldl (fun element _ => TypeTag.vector element) .u8
    let typed := Value.map [(.int 0, .type nested)]
    let addressed := Value.map [(.int 0, .address ⟨List.replicate 31 6 ++ [1], rfl⟩)]
    (lists.write list = .complete [1, 0, 1, 7] ∧ lists.write tuple = .complete [1, 0, 1, 7] ∧
      list.same tuple = false) ∧
    (Value.DistinctKeys twofold ∧ (∀ entry ∈ twofold, entry.1.isKey = true) ∧
      keyed.write (.map twofold) = .complete [2, 1, 7, 1, 1, 7, 2]) ∧
    (∃ octets, structs.write typed = .complete octets ∧ structs.write addressed = .complete octets ∧
      typed.same addressed = false) := by
  intro lists list tuple keyed twofold structs nested typed addressed
  refine ⟨⟨?_, ?_, ?_⟩, ⟨?_, ?_, ?_⟩, ?_⟩
  · exact Emission.map_singleton [0] [1, 7]
  · exact Emission.map_singleton [0] [1, 7]
  · rfl
  · exact List.pairwise_pair.mpr rfl
  · simp [twofold, Value.isKey, Value.areKeys]
  · have sorted : [(([1, 7] : Bytes), ([1] : Bytes)), ([1, 7], [2])].mergeSort
        Emission.entryAtMost = [([1, 7], [1]), ([1, 7], [2])] := by
      have before : Emission.entryAtMost ([1, 7], [1]) ([1, 7], [2]) = true := rfl
      simp [List.mergeSort, before]
    show Emission.map ([([1, 7], [1]), ([1, 7], [2])].map fun part =>
      (.complete part.1, .complete part.2)) = _
    rw [Emission.map_complete, sorted]
    rfl
  · have nestedWritten : nested.write = .complete (List.replicate 31 6 ++ [1]) := rfl
    refine ⟨_, ?_, Emission.map_singleton [0] (List.replicate 31 6 ++ [1]), rfl⟩
    show Emission.map [(.complete [0], nested.write)] = _
    rw [nestedWritten]
    exact Emission.map_singleton [0] (List.replicate 31 6 ++ [1])

end Layout

end MoveClient
