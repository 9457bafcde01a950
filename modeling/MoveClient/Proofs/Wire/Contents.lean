import Mathlib.Data.List.Perm.Subperm
import MoveClient.Proofs.Wire.Canonical

/-!
Values with the same contents.

Owns:
- `Layout.Alike`, which says when two values have the same contents in a layout, whichever kind of
  value gives the items of a sequence and in whichever order the entries of a map are given;
- that values with the same contents are written alike;
- that for the values of a layout to have the same contents is to be equal.

Does not own: that the octets that are written tell the contents.
-/

namespace MoveClient

namespace Emission

/-! ## Emissions that agree -/

/-- Where one of the emissions is complete, so is the other, with the same octets. -/
def Agrees (left right : Emission) : Prop :=
  ∀ octets, left = .complete octets ↔ right = .complete octets

variable {left right left' right' : Emission} {entries others : List (Emission × Emission)}

theorem Agrees.refl (emission : Emission) : emission.Agrees emission :=
  fun _ => Iff.rfl

theorem Agrees.symm
    (agrees : left.Agrees right) :
    right.Agrees left :=
  fun octets => (agrees octets).symm

theorem Agrees.eq_of_isComplete
    (agrees : left.Agrees right)
    (complete : left.IsComplete) :
    left = right := by
  obtain ⟨octets, emitted⟩ := complete
  rw [emitted, (agrees octets).mp emitted]

theorem Agrees.append
    (agrees : left.Agrees right)
    (agrees' : left'.Agrees right') :
    (left ++ left').Agrees (right ++ right') := by
  intro octets
  simp only [append_eq_complete_iff, agrees _, agrees' _]

theorem Agrees.option
    (agrees : left.Agrees right) :
    (option (some left)).Agrees (option (some right)) := by
  intro octets
  rw [option_some_eq_complete_iff, option_some_eq_complete_iff]
  exact (Agrees.refl _).append agrees octets

theorem Agrees.concat
    {emissions others : List Emission}
    (agree : List.Forall₂ Agrees emissions others) :
    (concat emissions).Agrees (concat others) := by
  induction agree with
  | nil => exact Agrees.refl _
  | cons agrees _ inductionHypothesis => exact agrees.append inductionHypothesis

theorem Agrees.sequence
    {emissions others : List Emission}
    (agree : List.Forall₂ Agrees emissions others) :
    (sequence emissions).Agrees (sequence others) := by
  intro octets
  rw [sequence_eq_complete_iff, sequence_eq_complete_iff, agree.length_eq]
  exact (Agrees.refl _).append (Agrees.concat agree) octets

/-- Keys of two entries agree, and their values do. -/
def EntriesAgree (left right : Emission × Emission) : Prop :=
  left.1.Agrees right.1 ∧ left.2.Agrees right.2

theorem eq_of_entriesAgree
    (agree : List.Forall₂ EntriesAgree entries others)
    (complete : ∀ entry ∈ entries, entry.1.IsComplete ∧ entry.2.IsComplete) :
    entries = others := by
  induction agree with
  | nil => rfl
  | cons agrees _ inductionHypothesis =>
      obtain ⟨⟨keyComplete, valueComplete⟩, restComplete⟩ := List.forall_mem_cons.mp complete
      rw [inductionHypothesis restComplete, Prod.ext (agrees.1.eq_of_isComplete keyComplete)
        (agrees.2.eq_of_isComplete valueComplete)]

theorem agrees_map
    (agree : List.Forall₂ EntriesAgree entries others) :
    (map entries).Agrees (map others) := by
  intro octets
  constructor
  · intro emitted
    rw [← eq_of_entriesAgree agree (map_eq_complete_iff.mp emitted).1, emitted]
  · intro emitted
    have agree' : List.Forall₂ EntriesAgree others entries :=
      (agree.imp fun _ _ agrees => ⟨agrees.1.symm, agrees.2.symm⟩).flip
    rw [← eq_of_entriesAgree agree' (map_eq_complete_iff.mp emitted).1, emitted]

end Emission

open Reader

namespace Layout

/-- The values have the same contents: the same items in a sequence, whatever kind of value gives
them, the same octets in a byte string, and the same entries in a map, in any order. -/
def Alike : Layout → Value → Value → Prop
  | .option element, left, right =>
      left = .null ∧ right = .null ∨ left ≠ .null ∧ right ≠ .null ∧ element.Alike left right
  | .sequence element, left, right =>
      ∃ items others, left.items? = some items ∧ right.items? = some others ∧
        List.Forall₂ element.Alike items others
  | .map keyLayout valueLayout, left, right =>
      ∃ entries arranged others, left = .map entries ∧ right = .map others ∧
        arranged.Perm others ∧
          List.Forall₂ (fun entry other =>
            keyLayout.Alike entry.1 other.1 ∧ valueLayout.Alike entry.2 other.2) entries arranged
  | _, left, right => left.frozen = right.frozen

variable {layout keyLayout valueLayout : Layout} {left right : Value}

theorem alike_iff_of_isPlain
    (plain : layout.IsPlain) :
    layout.Alike left right ↔ left.frozen = right.frozen := by
  cases layout with
  | option element | sequence element | map keyLayout valueLayout => cases plain
  | bool | integer type | uleb128 | text | bytes | raw size | struct kind => exact Iff.rfl

/-- A buffer is written like the byte string that it holds. -/
theorem write_frozen
    (plain : layout.IsPlain)
    (value : Value) :
    (layout.write value.frozen).Agrees (layout.write value) := by
  cases value with
  | buffer octets =>
      intro result
      cases layout with
      | option element | sequence element | map keyLayout valueLayout => cases plain
      | bool | integer type | uleb128 | text | struct kind =>
          constructor <;> intro written <;> cases written
      | bytes | raw size => rfl
  | _ => exact Emission.Agrees.refl _

/-- Values with the same contents are written alike. -/
theorem write_agrees_of_alike
    (alike : layout.Alike left right) :
    (layout.write left).Agrees (layout.write right) := by
  induction layout using partsInduction generalizing left right with
  | plain layout plain =>
      intro octets
      rw [← write_frozen plain left, (alike_iff_of_isPlain plain).mp alike,
        write_frozen plain right]
  | option element inductionHypothesis =>
      rcases alike with ⟨rfl, rfl⟩ | ⟨leftPresent, rightPresent, alike⟩
      · exact Emission.Agrees.refl _
      · rw [write_option_of_ne_null leftPresent, write_option_of_ne_null rightPresent]
        exact (inductionHypothesis alike).option
  | sequence element inductionHypothesis =>
      obtain ⟨items, others, itemsEq, othersEq, alike⟩ := alike
      rw [write, itemsEq, write, othersEq]
      apply Emission.Agrees.sequence
      rw [List.forall₂_map_left_iff, List.forall₂_map_right_iff]
      exact alike.imp fun _ _ => inductionHypothesis
  | map keyLayout valueLayout keyHypothesis valueHypothesis =>
      obtain ⟨entries, arranged, others, rfl, rfl, perm, alike⟩ := alike
      intro octets
      rw [write, write, ← Emission.map_eq_complete_iff_of_perm (perm.map _)]
      apply Emission.agrees_map
      rw [List.forall₂_map_left_iff, List.forall₂_map_right_iff]
      exact alike.imp fun _ _ alike => ⟨keyHypothesis alike.1, valueHypothesis alike.2⟩

/-! ## Contents and equality -/

theorem forall₂_imp_of_mem
    {α : Type}
    {Related Implied : α → α → Prop}
    {items others : List α}
    (related : List.Forall₂ Related items others)
    (imp : ∀ item ∈ items, ∀ other ∈ others, Related item other → Implied item other) :
    List.Forall₂ Implied items others := by
  rw [List.forall₂_iff_zip] at related ⊢
  refine ⟨related.1, ?_⟩
  intro item other member
  obtain ⟨itemMember, otherMember⟩ := List.of_mem_zip member
  exact imp item itemMember other otherMember (related.2 member)

theorem exists_mem_of_forall₂
    {α : Type}
    {Related : α → α → Prop}
    {items others : List α}
    {item : α}
    (related : List.Forall₂ Related items others)
    (member : item ∈ items) :
    ∃ other ∈ others, Related item other := by
  induction related with
  | nil => cases member
  | cons related _ inductionHypothesis =>
      rcases List.mem_cons.mp member with rfl | member
      · exact ⟨_, List.mem_cons_self, related⟩
      · obtain ⟨other, otherMember, otherRelated⟩ := inductionHypothesis member
        exact ⟨other, List.mem_cons_of_mem _ otherMember, otherRelated⟩

theorem sameAll_iff {items others : List Value} :
    Value.sameAll items others = true ↔
      List.Forall₂ (fun item other => item.same other = true) items others := by
  induction items generalizing others with
  | nil => cases others <;> simp [Value.sameAll]
  | cons first items inductionHypothesis =>
      cases others <;> simp [Value.sameAll, inductionHypothesis]

theorem alike_refl_of_holds
    {value : Value}
    (holds : layout.Holds value) :
    layout.Alike value value := by
  induction layout using partsInduction generalizing value with
  | plain layout plain => exact (alike_iff_of_isPlain plain).mpr rfl
  | option element inductionHypothesis =>
      by_cases absent : value = .null
      · exact .inl ⟨absent, absent⟩
      · exact .inr ⟨absent, absent, inductionHypothesis (holds.resolve_left absent)⟩
  | sequence element inductionHypothesis =>
      obtain ⟨items, rfl, _, itemsHold⟩ := holds
      exact ⟨items, items, rfl, rfl, List.forall₂_same.mpr fun item member =>
        inductionHypothesis (itemsHold item member)⟩
  | map keyLayout valueLayout keyHypothesis valueHypothesis =>
      obtain ⟨entries, rfl, _, _, entriesHold⟩ := holds
      refine ⟨entries, entries, entries, rfl, rfl, .refl _, List.forall₂_same.mpr ?_⟩
      intro entry member
      obtain ⟨⟨_, keyHolds⟩, valueHolds⟩ := entriesHold entry member
      exact ⟨keyHypothesis keyHolds, valueHypothesis valueHolds⟩

theorem same_frozen_right (left right : Value) : left.same right.frozen = left.same right := by
  cases right with
  | buffer octets => cases left <;> rfl
  | _ => rfl

theorem same_frozen_left (left right : Value) : left.frozen.same right = left.same right := by
  cases left with
  | buffer octets => cases right <;> rfl
  | _ => rfl

theorem isKey_frozen_of_holds
    {value : Value}
    (plain : layout.IsPlain)
    (holds : layout.Holds value) :
    value.frozen.isKey = true := by
  cases layout with
  | option element | sequence element | map keyLayout valueLayout => cases plain
  | bool =>
      obtain ⟨b, rfl⟩ := holds
      rfl
  | integer type =>
      obtain ⟨number, rfl, _⟩ := holds
      rfl
  | uleb128 =>
      obtain ⟨number, rfl, _⟩ := holds
      rfl
  | text =>
      obtain ⟨s, rfl, _⟩ := holds
      rfl
  | bytes | raw size =>
      obtain ⟨octets, frozenEq, _⟩ := holds
      rw [frozenEq]
      rfl
  | struct kind =>
      cases kind with
      | address =>
          obtain ⟨address, rfl⟩ := holds
          rfl
      | typeTag =>
          obtain ⟨tag, rfl, _⟩ := holds
          rfl
      | structTag => cases holds

/-- Values of the layout with the same contents are equal. -/
theorem same_of_alike
    (leftHolds : layout.Holds left)
    (rightHolds : layout.Holds right)
    (alike : layout.Alike left right) :
    left.same right = true := by
  induction layout using partsInduction generalizing left right with
  | plain layout plain =>
      rw [← same_frozen_right, ← (alike_iff_of_isPlain plain).mp alike]
      exact (frozen_of_holds plain leftHolds).2.2.2
  | option element inductionHypothesis =>
      rcases alike with ⟨rfl, rfl⟩ | ⟨leftPresent, rightPresent, alike⟩
      · rfl
      · exact inductionHypothesis (leftHolds.resolve_left leftPresent)
          (rightHolds.resolve_left rightPresent) alike
  | sequence element inductionHypothesis =>
      obtain ⟨items, rfl, _, itemsHold⟩ := leftHolds
      obtain ⟨others, rfl, _, othersHold⟩ := rightHolds
      obtain ⟨_, _, itemsEq, othersEq, alike⟩ := alike
      cases itemsEq
      cases othersEq
      rw [Value.same, sameAll_iff]
      exact forall₂_imp_of_mem alike fun item member other otherMember =>
        inductionHypothesis (itemsHold item member) (othersHold other otherMember)
  | map keyLayout valueLayout keyHypothesis valueHypothesis =>
      obtain ⟨entries, rfl, _, _, entriesHold⟩ := leftHolds
      obtain ⟨others, rfl, _, _, othersHold⟩ := rightHolds
      obtain ⟨_, arranged, _, entriesEq, othersEq, perm, alike⟩ := alike
      cases entriesEq
      cases othersEq
      rw [Value.same, alike.length_eq, perm.length_eq, beq_self_eq_true, Bool.true_and,
        Value.sameEntries_iff]
      intro entry member
      obtain ⟨other, arrangedMember, keyAlike, valueAlike⟩ := exists_mem_of_forall₂ alike member
      have otherMember := perm.mem_iff.mp arrangedMember
      obtain ⟨⟨_, keyHolds⟩, valueHolds⟩ := entriesHold entry member
      obtain ⟨⟨_, otherKeyHolds⟩, otherValueHolds⟩ := othersHold other otherMember
      exact ⟨other, otherMember, keyHypothesis keyHolds otherKeyHolds keyAlike,
        valueHypothesis valueHolds otherValueHolds valueAlike⟩

/-- Maps of one size hold the same entries if each entry of one has an equal key and contents in the
other. -/
theorem exists_perm_of_partners
    {Related : Value × Value → Value × Value → Prop}
    {entries others : List (Value × Value)}
    (distinct : entries.Pairwise fun earlier later => earlier.1 ≠ later.1)
    (lengthEq : entries.length = others.length)
    (partners : ∀ entry ∈ entries, ∃ other ∈ others, entry.1 = other.1 ∧ Related entry other) :
    ∃ arranged : List (Value × Value), arranged.Perm others ∧
      List.Forall₂ Related entries arranged := by
  choose! partner partnerMember sameKey related using partners
  have partnersDistinct : (entries.map partner).Nodup := by
    refine List.pairwise_map.mpr (distinct.imp_of_mem ?_)
    intro earlier later earlierMember laterMember different partnerEq
    rw [sameKey earlier earlierMember, sameKey later laterMember, partnerEq] at different
    exact different rfl
  have partnersAmong : entries.map partner ⊆ others := by
    intro other member
    obtain ⟨entry, entryMember, rfl⟩ := List.mem_map.mp member
    exact partnerMember entry entryMember
  have partnersEnough : others.length ≤ (entries.map partner).length := by
    rw [List.length_map]
    exact Nat.le_of_eq lengthEq.symm
  have perm : (entries.map partner).Perm others :=
    (List.subperm_of_subset partnersDistinct partnersAmong).perm_of_length_le partnersEnough
  refine ⟨entries.map partner, perm, ?_⟩
  rw [List.forall₂_map_right_iff]
  exact List.forall₂_same.mpr related

theorem ne_of_distinctKeys
    {entries : List (Value × Value)}
    (keysHold : ∀ entry ∈ entries, keyLayout.Holds entry.1)
    (distinct : Value.DistinctKeys entries) :
    entries.Pairwise fun earlier later => earlier.1 ≠ later.1 := by
  refine distinct.imp_of_mem ?_
  intro earlier later earlierMember _ different keyEq
  have keyHolds := keysHold earlier earlierMember
  rw [← keyEq, same_of_alike keyHolds keyHolds (alike_refl_of_holds keyHolds)] at different
  cases different

/-- Equal values of the layout have the same contents. -/
theorem alike_of_same
    (leftHolds : layout.Holds left)
    (rightHolds : layout.Holds right)
    (same : left.same right = true) :
    layout.Alike left right := by
  induction layout using partsInduction generalizing left right with
  | plain layout plain =>
      rw [← same_frozen_left, ← same_frozen_right] at same
      exact (alike_iff_of_isPlain plain).mpr (eq_of_same (frozen_of_holds plain leftHolds).1
        (frozen_of_holds plain rightHolds).1 (isKey_frozen_of_holds plain leftHolds)
        (isKey_frozen_of_holds plain rightHolds) same)
  | option element inductionHypothesis =>
      by_cases rightAbsent : right = .null
      · subst rightAbsent
        exact .inl ⟨Value.eq_null_of_same_null same, rfl⟩
      · by_cases leftAbsent : left = .null
        · subst leftAbsent
          cases right with
          | null => exact absurd rfl rightAbsent
          | _ => cases same
        · exact .inr ⟨leftAbsent, rightAbsent,
            inductionHypothesis (leftHolds.resolve_left leftAbsent)
              (rightHolds.resolve_left rightAbsent) same⟩
  | sequence element inductionHypothesis =>
      obtain ⟨items, rfl, _, itemsHold⟩ := leftHolds
      obtain ⟨others, rfl, _, othersHold⟩ := rightHolds
      rw [Value.same, sameAll_iff] at same
      exact ⟨items, others, rfl, rfl, forall₂_imp_of_mem same fun item member other otherMember =>
        inductionHypothesis (itemsHold item member) (othersHold other otherMember)⟩
  | map keyLayout valueLayout keyHypothesis valueHypothesis =>
      obtain ⟨entries, rfl, _, distinct, entriesHold⟩ := leftHolds
      obtain ⟨others, rfl, _, _, othersHold⟩ := rightHolds
      rw [Value.same, Bool.and_eq_true, beq_iff_eq, Value.sameEntries_iff] at same
      obtain ⟨lengthEq, partners⟩ := same
      have alikePartners : ∀ entry ∈ entries, ∃ other ∈ others, entry.1 = other.1 ∧
          keyLayout.Alike entry.1 other.1 ∧ valueLayout.Alike entry.2 other.2 := by
        intro entry member
        obtain ⟨other, otherMember, sameKey, sameValue⟩ := partners entry member
        obtain ⟨⟨key, keyHolds⟩, valueHolds⟩ := entriesHold entry member
        obtain ⟨⟨otherKey, otherKeyHolds⟩, otherValueHolds⟩ := othersHold other otherMember
        exact ⟨other, otherMember, eq_of_same keyHolds otherKeyHolds key otherKey sameKey,
          keyHypothesis keyHolds otherKeyHolds sameKey,
          valueHypothesis valueHolds otherValueHolds sameValue⟩
      have keysHold : ∀ entry ∈ entries, keyLayout.Holds entry.1 :=
        fun entry member => (entriesHold entry member).1.2
      have different := ne_of_distinctKeys keysHold distinct
      obtain ⟨arranged, perm, alike⟩ := exists_perm_of_partners different lengthEq alikePartners
      exact ⟨entries, arranged, others, rfl, rfl, perm, alike⟩

end Layout

end MoveClient
