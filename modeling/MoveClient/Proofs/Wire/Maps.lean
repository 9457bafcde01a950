import MoveClient.Proofs.Wire.Spelling
import MoveClient.Value

/-!
The wire form of maps, and the entries that are read for them.

Owns:
- that encoded keys are in the lexicographic order of their octets, and entries in that order of
  key and value;
- when a map is put out, and what, in whichever order its entries are given;
- what setting the values of keys one after the other makes of pairs.

Does not own: how keys and values are written.
-/

namespace MoveClient

/-! ## The order of entries -/

theorem Bytes.isBefore_iff_lt {left right : Bytes} :
    isBefore left right = true ↔ left < right := by
  induction left generalizing right with
  | nil => cases right <;> simp [isBefore]
  | cons first rest inductionHypothesis =>
      cases right with
      | nil => simp [isBefore]
      | cons other others =>
          rw [isBefore, List.cons_lt_cons_iff]
          by_cases same : first = other
          · subst same
            simp [inductionHypothesis]
          · simp [same]

namespace Emission

theorem entryAtMost_iff {left right : Bytes × Bytes} :
    entryAtMost left right = true ↔
      left.1 < right.1 ∨ left.1 = right.1 ∧ left.2 ≤ right.2 := by
  rw [entryAtMost]
  by_cases same : left.1 = right.1
  · rw [if_pos same, Bool.not_eq_true', ← Bool.not_eq_true, Bytes.isBefore_iff_lt, List.not_lt]
    simp [same, List.lt_irrefl]
  · rw [if_neg same, Bytes.isBefore_iff_lt]
    simp [same]

theorem entryAtMost_trans
    (first second third : Bytes × Bytes)
    (left : entryAtMost first second = true)
    (right : entryAtMost second third = true) :
    entryAtMost first third = true := by
  rw [entryAtMost_iff] at left right ⊢
  rcases left with before | ⟨same, atMost⟩
  · rcases right with before' | ⟨same', _⟩
    · exact .inl (List.lt_trans before before')
    · exact .inl (same' ▸ before)
  · rcases right with before' | ⟨same', atMost'⟩
    · exact .inl (same ▸ before')
    · exact .inr ⟨same.trans same', List.le_trans atMost atMost'⟩

theorem entryAtMost_total (left right : Bytes × Bytes) :
    (entryAtMost left right || entryAtMost right left) = true := by
  rw [Bool.or_eq_true, entryAtMost_iff, entryAtMost_iff]
  rcases Std.lt_trichotomy left.1 right.1 with before | same | after
  · exact .inl (.inl before)
  · rcases Std.le_total (a := left.2) (b := right.2) with atMost | atMost
    · exact .inl (.inr ⟨same, atMost⟩)
    · exact .inr (.inr ⟨same.symm, atMost⟩)
  · exact .inr (.inl after)

theorem entryAtMost_antisymm
    {left right : Bytes × Bytes}
    (atMost : entryAtMost left right = true)
    (atLeast : entryAtMost right left = true) :
    left = right := by
  rw [entryAtMost_iff] at atMost atLeast
  rcases atMost with before | ⟨same, valueAtMost⟩
  · rcases atLeast with after | ⟨same, _⟩
    · exact absurd after (List.lt_asymm before)
    · rw [same] at before
      exact absurd before (List.lt_irrefl _)
  · rcases atLeast with after | ⟨_, valueAtLeast⟩
    · rw [same] at after
      exact absurd after (List.lt_irrefl _)
    · exact Prod.ext same (List.le_antisymm valueAtMost valueAtLeast)

/-! ## Maps that are put out -/

theorem collectEntries_complete (parts : List (Bytes × Bytes)) :
    collectEntries (parts.map fun part => (complete part.1, complete part.2)) = .ok parts := by
  induction parts with
  | nil => rfl
  | cons first rest inductionHypothesis =>
      rw [List.map_cons, collectEntries, inductionHypothesis]
      rfl

/-- A map puts out its count, and behind it the octets of its entries in their order. -/
theorem map_complete (parts : List (Bytes × Bytes)) :
    map (parts.map fun part => (complete part.1, complete part.2)) =
      length parts.length ++
        complete ((parts.mergeSort entryAtMost).flatMap fun part => part.1 ++ part.2) := by
  rw [map, collectEntries_complete]
  simp only [List.length_mergeSort]

theorem map_singleton (key value : Bytes) :
    map [(complete key, complete value)] = complete (1 :: (key ++ value)) := by
  have emitted := map_complete [(key, value)]
  rw [List.mergeSort_singleton, List.flatMap_singleton] at emitted
  exact emitted

variable {entries others : List (Emission × Emission)} {octets : Bytes}

/-- The octets that are put out for a key and for its value. -/
def encodedEntry (entry : Emission × Emission) : Bytes × Bytes :=
  (entry.1.octets, entry.2.octets)

/-- Entries are collected if all their keys and values are complete. -/
theorem collectEntries_eq_ok_iff {parts : List (Bytes × Bytes)} :
    collectEntries entries = .ok parts ↔
      (∀ entry ∈ entries, entry.1.IsComplete ∧ entry.2.IsComplete) ∧
        parts = entries.map encodedEntry := by
  constructor
  · intro collected
    induction entries generalizing parts with
    | nil =>
        cases collected
        exact ⟨List.forall_mem_nil _, rfl⟩
    | cons first rest inductionHypothesis =>
        obtain ⟨key, value⟩ := first
        cases key with
        | broken octets error => cases collected
        | complete keyOctets =>
            cases value with
            | broken octets error => cases collected
            | complete valueOctets =>
                cases restCollected : collectEntries rest with
                | error error =>
                    rw [collectEntries, restCollected] at collected
                    cases collected
                | ok restParts =>
                    rw [collectEntries, restCollected] at collected
                    cases collected
                    obtain ⟨complete, rfl⟩ := inductionHypothesis restCollected
                    exact ⟨List.forall_mem_cons.mpr
                      ⟨⟨isComplete_complete _, isComplete_complete _⟩, complete⟩, rfl⟩
  · rintro ⟨complete, rfl⟩
    have entriesEq : entries =
        (entries.map encodedEntry).map fun part => (.complete part.1, .complete part.2) := by
      rw [List.map_map]
      refine (List.map_id entries).symm.trans (List.map_congr_left ?_)
      intro entry member
      exact Prod.ext (complete entry member).1.eq_complete (complete entry member).2.eq_complete
    rw [entriesEq, collectEntries_complete, ← entriesEq]

/-- A map is put out if all its keys and values are, behind their count and in their order. -/
theorem map_eq_complete_iff :
    map entries = .complete octets ↔
      (∀ entry ∈ entries, entry.1.IsComplete ∧ entry.2.IsComplete) ∧
        length entries.length ++
          complete (((entries.map encodedEntry).mergeSort entryAtMost).flatMap fun part =>
            part.1 ++ part.2) = .complete octets := by
  rw [map]
  split
  case h_1 error failed =>
    constructor
    · intro emitted
      cases emitted
    · rintro ⟨complete, _⟩
      rw [collectEntries_eq_ok_iff.mpr ⟨complete, rfl⟩] at failed
      cases failed
  case h_2 parts collected =>
    obtain ⟨complete, rfl⟩ := collectEntries_eq_ok_iff.mp collected
    simp only [List.length_mergeSort, List.length_map]
    exact (and_iff_right complete).symm

theorem sorted_eq_of_perm
    {parts otherParts : List (Bytes × Bytes)}
    (perm : parts.Perm otherParts) :
    parts.mergeSort entryAtMost = otherParts.mergeSort entryAtMost := by
  have permSorted : (parts.mergeSort entryAtMost).Perm (otherParts.mergeSort entryAtMost) :=
    (List.mergeSort_perm parts _).trans (perm.trans (List.mergeSort_perm otherParts _).symm)
  refine permSorted.eq_of_pairwise ?_
    (List.pairwise_mergeSort entryAtMost_trans entryAtMost_total parts)
    (List.pairwise_mergeSort entryAtMost_trans entryAtMost_total otherParts)
  intro left right _ _ atMost atLeast
  exact entryAtMost_antisymm atMost atLeast

/-- In which order the entries are given makes no difference. -/
theorem map_eq_complete_iff_of_perm
    (perm : entries.Perm others) :
    map entries = .complete octets ↔ map others = .complete octets := by
  rw [map_eq_complete_iff, map_eq_complete_iff, perm.length_eq,
    sorted_eq_of_perm (perm.map encodedEntry)]
  simp only [perm.mem_iff]

end Emission

/-! ## Entries that are set one after the other -/

namespace Value

variable {key value : Value} {entries pairs : List (Value × Value)} {entry : Value × Value}

/-- No two keys of the entries are equal. -/
def DistinctKeys (entries : List (Value × Value)) : Prop :=
  entries.Pairwise fun earlier later => same earlier.1 later.1 = false

/-- Where the key is new, its entry comes last. -/
theorem setEntry_of_new
    (new : ∀ entry ∈ entries, same entry.1 key = false) :
    setEntry key value entries = entries ++ [(key, value)] := by
  induction entries with
  | nil => rfl
  | cons first rest inductionHypothesis =>
      obtain ⟨firstNew, restNew⟩ := List.forall_mem_cons.mp new
      simp [setEntry, firstNew, inductionHypothesis restNew]

/-- Pairs of different keys are set one behind the other. -/
theorem foldl_setEntry_of_distinctKeys
    (distinct : DistinctKeys (entries ++ pairs)) :
    pairs.foldl (fun entries pair => setEntry pair.1 pair.2 entries) entries = entries ++ pairs := by
  induction pairs generalizing entries with
  | nil => exact (List.append_nil entries).symm
  | cons first rest inductionHypothesis =>
      have new : ∀ entry ∈ entries, same entry.1 first.1 = false := by
        intro entry member
        exact (List.pairwise_append.mp distinct).2.2 entry member first List.mem_cons_self
      rw [List.append_cons] at distinct
      rw [List.foldl_cons, setEntry_of_new new, inductionHypothesis distinct, ← List.append_cons]

theorem entriesOf_of_distinctKeys
    (distinct : DistinctKeys pairs) :
    entriesOf pairs = pairs :=
  foldl_setEntry_of_distinctKeys distinct

/-- Setting the value of a key puts no other keys and values into the entries. -/
theorem forall_mem_setEntry
    (IsKey IsValue : Value → Prop)
    (keyHolds : IsKey key)
    (valueHolds : IsValue value)
    (hold : ∀ entry ∈ entries, IsKey entry.1 ∧ IsValue entry.2) :
    ∀ entry ∈ setEntry key value entries, IsKey entry.1 ∧ IsValue entry.2 := by
  induction entries with
  | nil => exact List.forall_mem_singleton.mpr ⟨keyHolds, valueHolds⟩
  | cons first rest inductionHypothesis =>
      obtain ⟨firstHolds, restHold⟩ := List.forall_mem_cons.mp hold
      rw [setEntry]
      split
      · exact List.forall_mem_cons.mpr ⟨⟨firstHolds.1, valueHolds⟩, restHold⟩
      · exact List.forall_mem_cons.mpr ⟨firstHolds, inductionHypothesis restHold⟩

theorem distinctKeys_setEntry
    (distinct : DistinctKeys entries) :
    DistinctKeys (setEntry key value entries) := by
  induction entries with
  | nil => exact List.pairwise_singleton _ _
  | cons first rest inductionHypothesis =>
      obtain ⟨firstNew, restDistinct⟩ := List.pairwise_cons.mp distinct
      rw [setEntry]
      by_cases found : same first.1 key = true
      · rw [if_pos found]
        exact List.pairwise_cons.mpr ⟨firstNew, restDistinct⟩
      · rw [if_neg found]
        refine List.pairwise_cons.mpr ⟨?_, inductionHypothesis restDistinct⟩
        intro entry member
        have others : ∀ entry ∈ rest, same first.1 entry.1 = false ∧ True := fun entry member =>
          ⟨firstNew entry member, trivial⟩
        exact (forall_mem_setEntry (fun key => same first.1 key = false) (fun _ => True)
          (Bool.eq_false_iff.mpr found) trivial others entry member).1

theorem length_setEntry_le : (setEntry key value entries).length ≤ entries.length + 1 := by
  induction entries with
  | nil => exact Nat.le_refl _
  | cons first rest inductionHypothesis =>
      rw [setEntry]
      split
      · exact Nat.le_succ _
      · exact Nat.succ_le_succ inductionHypothesis

/-- The entries of pairs have the keys and values of the pairs only, and no key twice. -/
theorem entriesOf_preserves
    (IsKey IsValue : Value → Prop)
    (hold : ∀ pair ∈ pairs, IsKey pair.1 ∧ IsValue pair.2) :
    (∀ entry ∈ entriesOf pairs, IsKey entry.1 ∧ IsValue entry.2) ∧
      DistinctKeys (entriesOf pairs) ∧ (entriesOf pairs).length ≤ pairs.length := by
  -- The invariant of the entries set so far, from which none are set at first.
  have run (entries : List (Value × Value))
      (entriesHold : ∀ entry ∈ entries, IsKey entry.1 ∧ IsValue entry.2)
      (distinct : DistinctKeys entries) :
      let result := pairs.foldl (fun entries pair => setEntry pair.1 pair.2 entries) entries
      (∀ entry ∈ result, IsKey entry.1 ∧ IsValue entry.2) ∧ DistinctKeys result ∧
        result.length ≤ entries.length + pairs.length := by
    induction pairs generalizing entries with
    | nil => exact ⟨entriesHold, distinct, Nat.le_refl _⟩
    | cons first rest inductionHypothesis =>
        obtain ⟨firstHolds, restHold⟩ := List.forall_mem_cons.mp hold
        obtain ⟨resultHolds, resultDistinct, resultLength⟩ := inductionHypothesis restHold
          (setEntry first.1 first.2 entries)
          (forall_mem_setEntry IsKey IsValue firstHolds.1 firstHolds.2 entriesHold)
          (distinctKeys_setEntry distinct)
        refine ⟨resultHolds, resultDistinct, Nat.le_trans resultLength ?_⟩
        have grown : (setEntry first.1 first.2 entries).length ≤ entries.length + 1 :=
          length_setEntry_le
        rw [List.length_cons]
        omega
  have whole := run [] nofun List.Pairwise.nil
  rw [List.length_nil, Nat.zero_add] at whole
  exact whole

end Value

end MoveClient
