import Mathlib.Data.List.Forall2
import Mathlib.Data.List.Perm.Basic
import Mathlib.Data.List.Sort
import MoveClient.Key.Signers

/-!
Signatures with positions, and the keys at these positions.

Owns:
- the laws that open computations which may fail;
- that putting entries in order loses none and invents none, and which entries can be kept;
- when a set of keys gives a verdict on a list of entries, and when it accepts.

Does not own: how multi-signatures are made and spelled.
-/

namespace MoveClient

/-! ## Computations that may fail -/

namespace Error

variable {α β : Type}

theorem map_eq_ok_iff
    {first : Except Error α}
    {image : α → β}
    {result : β} :
    (image <$> first) = .ok result ↔ ∃ value, first = .ok value ∧ image value = result := by
  cases first with
  | error error =>
      constructor
      · rintro ⟨⟩
      · rintro ⟨_, ⟨⟩, _⟩
  | ok value =>
      constructor
      · rintro ⟨⟩
        exact ⟨value, rfl, rfl⟩
      · rintro ⟨_, ⟨⟩, rfl⟩
        rfl

/-- All elements are computed, and the results stand in their order. -/
theorem mapM_eq_ok_iff
    {compute : α → Except Error β}
    {inputs : List α}
    {results : List β} :
    inputs.mapM compute = .ok results ↔
      List.Forall₂ (fun input result => compute input = .ok result) inputs results := by
  induction inputs generalizing results with
  | nil =>
      rw [List.mapM_nil, List.forall₂_nil_left_iff]
      constructor
      · rintro ⟨⟩
        rfl
      · rintro rfl
        rfl
  | cons input rest inductionHypothesis =>
      rw [List.mapM_cons, List.forall₂_cons_left_iff]
      simp only [bind_eq_ok_iff, inductionHypothesis]
      constructor
      · rintro ⟨result, computed, others, othersComputed, ⟨⟩⟩
        exact ⟨result, others, computed, othersComputed, rfl⟩
      · rintro ⟨result, others, computed, othersComputed, rfl⟩
        exact ⟨result, computed, others, othersComputed, rfl⟩

theorem mapM_map_eq_ok
    {γ : Type}
    {given : γ → α}
    {compute : α → Except Error β}
    {inputs : List γ}
    (image : γ → β)
    (computed : ∀ input ∈ inputs, compute (given input) = .ok (image input)) :
    (inputs.map given).mapM compute = .ok (inputs.map image) := by
  rw [mapM_eq_ok_iff, List.forall₂_map_left_iff, List.forall₂_map_right_iff]
  exact List.forall₂_same.mpr computed

/-- A computation for each item fails with the failure of the first item whose computation fails. -/
theorem mapM_eq_error_iff
    {compute : α → Except Error β}
    {items : List α}
    {error : Error} :
    items.mapM compute = .error error ↔
      ∃ before item after, items = before ++ item :: after ∧
        (∀ earlier ∈ before, ∃ result, compute earlier = .ok result) ∧
          compute item = .error error := by
  induction items with
  | nil =>
      apply iff_of_false nofun
      intro found
      obtain ⟨before, item, after, split, _⟩ := found
      exact absurd split.symm (List.append_ne_nil_of_right_ne_nil _ (List.cons_ne_nil _ _))
  | cons first rest inductionHypothesis =>
      have stops : (first :: rest).mapM compute = .error error ↔
          compute first = .error error ∨
            ∃ result, compute first = .ok result ∧ rest.mapM compute = .error error := by
        rw [List.mapM_cons]
        simp only [bind_eq_error_iff]
        apply or_congr Iff.rfl
        apply exists_congr
        intro result
        apply and_congr Iff.rfl
        exact or_iff_left fun found => by
          obtain ⟨_, _, failed⟩ := found
          cases failed
      rw [stops, inductionHypothesis]
      constructor
      · intro failed
        obtain failed | ⟨result, computed, before, item, after, split, earlier, failed⟩ := failed
        · exact ⟨[], first, rest, rfl, List.forall_mem_nil _, failed⟩
        · refine ⟨first :: before, item, after, congrArg (first :: ·) split, ?_, failed⟩
          exact List.forall_mem_cons.mpr ⟨⟨result, computed⟩, earlier⟩
      · intro found
        obtain ⟨before, item, after, split, earlier, failed⟩ := found
        cases before with
        | nil =>
            cases split
            exact .inl failed
        | cons _ before =>
            cases split
            obtain ⟨⟨result, computed⟩, others⟩ := List.forall_mem_cons.mp earlier
            exact .inr ⟨result, computed, before, item, after, rfl, others, failed⟩

/-- If each element can be computed, all of them can. -/
theorem exists_mapM
    {compute : α → Except Error β}
    {inputs : List α}
    (computable : ∀ input ∈ inputs, ∃ result, compute input = .ok result) :
    ∃ results, inputs.mapM compute = .ok results := by
  simp only [mapM_eq_ok_iff]
  induction inputs with
  | nil => exact ⟨[], .nil⟩
  | cons input rest inductionHypothesis =>
      obtain ⟨⟨result, computed⟩, restComputable⟩ := List.forall_mem_cons.mp computable
      obtain ⟨others, othersComputed⟩ := inductionHypothesis restComputable
      exact ⟨result :: others, .cons computed othersComputed⟩

/-- Two computations for each element, one after the other. -/
theorem forall₂_comp
    {γ : Type}
    {first : α → β → Prop}
    {second : β → γ → Prop}
    {inputs : List α}
    {results : List γ} :
    (∃ middle, List.Forall₂ first inputs middle ∧ List.Forall₂ second middle results) ↔
      List.Forall₂ (fun input result => ∃ between, first input between ∧ second between result)
        inputs results := by
  induction inputs generalizing results with
  | nil => simp
  | cons input rest inductionHypothesis =>
      simp only [List.forall₂_cons_left_iff, ← inductionHypothesis]
      constructor
      · rintro ⟨_, ⟨between, others, computed, othersComputed, rfl⟩, second⟩
        obtain ⟨result, resultOthers, resultComputed, resultOthersComputed, rfl⟩ :=
          List.forall₂_cons_left_iff.mp second
        exact ⟨result, resultOthers, ⟨between, computed, resultComputed⟩,
          ⟨others, othersComputed, resultOthersComputed⟩, rfl⟩
      · rintro ⟨result, resultOthers, ⟨between, computed, resultComputed⟩,
          ⟨others, othersComputed, resultOthersComputed⟩, rfl⟩
        exact ⟨between :: others, ⟨between, others, computed, othersComputed, rfl⟩,
          List.Forall₂.cons resultComputed resultOthersComputed⟩

end Error

namespace Signers

variable {σ : Type}

/-! ## Entries in order of position -/

/-- The order in which entries are kept. -/
def notBehind (left right : Nat × σ) : Prop := left.1 ≤ right.1

instance : DecidableRel (notBehind (σ := σ)) := fun left right =>
  inferInstanceAs (Decidable (left.1 ≤ right.1))

instance : Std.Total (notBehind (σ := σ)) := ⟨fun left right => Nat.le_total left.1 right.1⟩

instance : IsTrans (Nat × σ) notBehind := ⟨fun _ _ _ => Nat.le_trans⟩

theorem sortEntries_eq_insertionSort (entries : List (Nat × σ)) :
    sortEntries entries = entries.insertionSort notBehind := by
  have inserted (entry : Nat × σ) (sorted : List (Nat × σ)) :
      insertEntry entry sorted = sorted.orderedInsert notBehind entry := by
    induction sorted with
    | nil => rfl
    | cons next rest inductionHypothesis =>
        rw [insertEntry, List.orderedInsert_cons, inductionHypothesis]
        rfl
  induction entries with
  | nil => rfl
  | cons entry rest inductionHypothesis =>
      rw [sortEntries, List.insertionSort_cons, inductionHypothesis, inserted]

/-- Putting entries in order loses none and invents none. -/
theorem perm_sortEntries (entries : List (Nat × σ)) : (sortEntries entries).Perm entries := by
  rw [sortEntries_eq_insertionSort]
  exact List.perm_insertionSort notBehind entries

/-- Entries whose positions all differ stand in strictly increasing order. -/
theorem increasing_sortEntries
    {entries : List (Nat × σ)}
    (distinct : (entries.map Prod.fst).Nodup) :
    (sortEntries entries).Pairwise fun left right => left.1 < right.1 := by
  have ordered : (sortEntries entries).Pairwise notBehind := by
    rw [sortEntries_eq_insertionSort]
    exact List.pairwise_insertionSort notBehind entries
  have stillDistinct : (sortEntries entries).Pairwise fun left right => left.1 ≠ right.1 := by
    rw [← List.pairwise_map]
    exact ((perm_sortEntries entries).map Prod.fst).nodup_iff.mpr distinct
  exact (ordered.and stillDistinct).imp fun both => Nat.lt_of_le_of_ne both.1 both.2

/-- Entries in strictly increasing order are determined by which entries there are. -/
theorem eq_of_increasing_of_perm
    {left right : List (Nat × σ)}
    (leftIncreasing : left.Pairwise fun first second => first.1 < second.1)
    (rightIncreasing : right.Pairwise fun first second => first.1 < second.1)
    (perm : left.Perm right) :
    left = right := by
  apply List.Perm.eq_of_pairwise _ leftIncreasing rightIncreasing perm
  intro first second _ _ before behind
  omega

theorem ext
    {left right : Signers σ}
    (entriesEq : left.entries = right.entries) :
    left = right := by
  cases left
  cases right
  cases entriesEq
  rfl

theorem increasing_positions (signers : Signers σ) : signers.positions.Pairwise (· < ·) :=
  List.pairwise_map.mpr signers.increasing

theorem nodup_positions (signers : Signers σ) : signers.positions.Nodup :=
  signers.increasing_positions.imp fun before => Nat.ne_of_lt before

theorem length_positions (signers : Signers σ) :
    signers.positions.length = signers.entries.length :=
  List.length_map ..

theorem zip_positions_signatures (signers : Signers σ) :
    signers.positions.zip signers.signatures = signers.entries :=
  (List.zip_of_prod rfl rfl).symm

/-- Signatures at increasing positions are kept in their order. -/
theorem perm_zip_iff
    {signers : Signers σ}
    {positions : List Nat}
    {signatures : List σ}
    (increasing : positions.Pairwise (· < ·))
    (lengths : positions.length = signatures.length) :
    signers.entries.Perm (positions.zip signatures) ↔
      signers.positions = positions ∧ signers.signatures = signatures := by
  have firsts : (positions.zip signatures).map Prod.fst = positions :=
    List.map_fst_zip (Nat.le_of_eq lengths)
  have seconds : (positions.zip signatures).map Prod.snd = signatures :=
    List.map_snd_zip (Nat.le_of_eq lengths.symm)
  constructor
  · intro perm
    have zipIncreasing :
        (positions.zip signatures).Pairwise fun left right => left.1 < right.1 := by
      rw [← List.pairwise_map, firsts]
      exact increasing
    have entriesEq := eq_of_increasing_of_perm signers.increasing zipIncreasing perm
    unfold Signers.positions Signers.signatures
    rw [entriesEq, firsts, seconds]
    exact ⟨rfl, rfl⟩
  · rintro ⟨rfl, rfl⟩
    rw [zip_positions_signatures]

/-- What is kept of entries is these entries, whatever order they are given in. -/
theorem ofEntries?_eq_some_iff
    {entries : List (Nat × σ)}
    {signers : Signers σ} :
    ofEntries? entries = some signers ↔ signers.entries.Perm entries := by
  constructor
  · intro kept
    simp only [ofEntries?] at kept
    split at kept
    · cases kept
      exact perm_sortEntries entries
    · cases kept
  · intro perm
    have distinct : (entries.map Prod.fst).Nodup :=
      (perm.map Prod.fst).nodup_iff.mp signers.nodup_positions
    have sorted_eq : sortEntries entries = signers.entries :=
      eq_of_increasing_of_perm (increasing_sortEntries distinct) signers.increasing
        ((perm_sortEntries entries).trans perm.symm)
    unfold ofEntries?
    simp only [sorted_eq]
    exact dif_pos ⟨signers.increasing, signers.bounded⟩

/-! ## Positions given as integers -/

/-- The entries with their positions as integers, as they are given. -/
def indexed (signers : Signers σ) : List (Int × σ) :=
  signers.entries.map fun entry => (Int.ofNat entry.1, entry.2)

theorem indexed_toNat (signers : Signers σ) :
    (signers.indexed.map fun entry => (entry.1.toNat, entry.2)) = signers.entries := by
  unfold indexed
  rw [List.map_map]
  exact List.map_id _

theorem indexed_perm_map_iff
    {signers : Signers σ}
    {kept : List (Nat × σ)} :
    signers.indexed.Perm (kept.map fun entry => (Int.ofNat entry.1, entry.2)) ↔
      signers.entries.Perm kept := by
  apply List.map_perm_map_iff
  rintro ⟨left, leftSignature⟩ ⟨right, rightSignature⟩ equal
  cases equal
  rfl

theorem position?_eq_some_iff
    {index : Int}
    {position : Nat} :
    position? index = some position ↔ index = Int.ofNat position ∧ position < maxSigners := by
  unfold position?
  split
  · rename_i inRange
    rw [Option.some.injEq]
    constructor
    · rintro rfl
      exact ⟨(Int.toNat_of_nonneg inRange.1).symm, by omega⟩
    · rintro ⟨rfl, _⟩
      rfl
  · rename_i outside
    constructor
    · rintro ⟨⟩
    · rintro ⟨rfl, small⟩
      exact absurd ⟨Int.natCast_nonneg _, Int.ofNat_lt.mpr small⟩ outside

theorem position?_isSome_iff {index : Int} :
    (position? index).isSome = true ↔ 0 ≤ index ∧ index < maxSigners := by
  unfold position?
  split <;> simp_all

/-- Entries that can be kept: their positions differ and are in range. -/
def Admissible (entries : List (Int × σ)) : Prop :=
  (entries.map Prod.fst).Nodup ∧ ∀ entry ∈ entries, 0 ≤ entry.1 ∧ entry.1 < maxSigners

theorem admissible_indexed (signers : Signers σ) : Admissible signers.indexed := by
  constructor
  · have mapped : signers.indexed.map Prod.fst = signers.positions.map Int.ofNat := by
      simp [indexed, positions]
    rw [mapped]
    exact signers.nodup_positions.map fun _ _ => Int.ofNat.inj
  · intro entry member
    obtain ⟨kept, keptMember, rfl⟩ := List.mem_map.mp member
    have bounded := signers.bounded kept keptMember
    exact ⟨Int.natCast_nonneg _, Int.ofNat_lt.mpr bounded⟩

theorem Admissible.perm
    {left right : List (Int × σ)}
    (admissible : Admissible left)
    (perm : left.Perm right) :
    Admissible right :=
  ⟨(perm.map Prod.fst).nodup_iff.mp admissible.1,
    fun entry member => admissible.2 entry (perm.mem_iff.mpr member)⟩

theorem map_toNat_of_nonneg
    {entries : List (Int × σ)}
    (nonneg : ∀ entry ∈ entries, 0 ≤ entry.1) :
    (entries.map fun entry => (Int.ofNat entry.1.toNat, entry.2)) = entries := by
  rw [List.map_congr_left (g := id), List.map_id]
  intro entry member
  exact Prod.ext (Int.toNat_of_nonneg (nonneg entry member)) rfl

/-- Entries with positions that are not negative are kept as they are. -/
theorem ofEntries?_toNat_eq_some_iff
    {entries : List (Int × σ)}
    {signers : Signers σ}
    (nonneg : ∀ entry ∈ entries, 0 ≤ entry.1) :
    ofEntries? (entries.map fun entry => (entry.1.toNat, entry.2)) = some signers ↔
      signers.indexed.Perm entries := by
  rw [ofEntries?_eq_some_iff]
  constructor
  · intro perm
    rw [← indexed_perm_map_iff, List.map_map] at perm
    exact perm.trans (List.Perm.of_eq (map_toNat_of_nonneg nonneg))
  · intro perm
    rw [← indexed_toNat]
    exact perm.map _

/-- Entries can be kept exactly if they are admissible. -/
theorem exists_indexed_perm_iff {entries : List (Int × σ)} :
    (∃ signers : Signers σ, signers.indexed.Perm entries) ↔ Admissible entries := by
  constructor
  · rintro ⟨signers, perm⟩
    exact signers.admissible_indexed.perm perm
  · intro admissible
    let naturals := entries.map fun entry => (entry.1.toNat, entry.2)
    have sorted := perm_sortEntries naturals
    have distinct : (naturals.map Prod.fst).Nodup := by
      have mapped : naturals.map Prod.fst = (entries.map Prod.fst).map Int.toNat := by
        simp only [naturals, List.map_map, Function.comp_def]
      rw [mapped]
      apply List.Nodup.map_on _ admissible.1
      intro left leftMember right rightMember toNatEq
      obtain ⟨leftEntry, leftEntryMember, rfl⟩ := List.mem_map.mp leftMember
      obtain ⟨rightEntry, rightEntryMember, rfl⟩ := List.mem_map.mp rightMember
      have leftNonneg := (admissible.2 leftEntry leftEntryMember).1
      have rightNonneg := (admissible.2 rightEntry rightEntryMember).1
      omega
    have bounded (entry : Nat × σ) (member : entry ∈ sortEntries naturals) :
        entry.1 < maxSigners := by
      obtain ⟨given, givenMember, rfl⟩ := List.mem_map.mp (sorted.mem_iff.mp member)
      have inRange := admissible.2 given givenMember
      show given.1.toNat < maxSigners
      omega
    let signers : Signers σ := ⟨sortEntries naturals, increasing_sortEntries distinct, bounded⟩
    have kept : ofEntries? naturals = some signers := ofEntries?_eq_some_iff.mpr sorted
    exact ⟨signers,
      (ofEntries?_toNat_eq_some_iff fun entry member => (admissible.2 entry member).1).mp kept⟩

end Signers

/-! ## Acceptance -/

section Acceptance

variable {κ σ : Type} {accepts : κ → σ → Except Error Bool} {keys : List κ}

theorem acceptsEntries_eq_ok_true_iff {entries : List (Nat × σ)} :
    acceptsEntries accepts keys entries = .ok true ↔
      ∀ entry ∈ entries, ∃ key, keys[entry.1]? = some key ∧ accepts key entry.2 = .ok true := by
  induction entries with
  | nil => simp [acceptsEntries]
  | cons entry rest inductionHypothesis =>
      rw [acceptsEntries, List.forall_mem_cons, ← inductionHypothesis]
      cases found : keys[entry.1]? with
      | none => simp
      | some key =>
          simp only [Error.bind_eq_ok_iff, Option.some.injEq, exists_eq_left']
          constructor
          · rintro ⟨verdict, judged, restJudged⟩
            cases verdict with
            | false => cases restJudged
            | true => exact ⟨judged, restJudged⟩
          · rintro ⟨judged, restJudged⟩
            exact ⟨true, judged, restJudged⟩

/-- A set of keys accepts exactly if there are enough entries and each is accepted by the key at
its position. -/
theorem acceptsThreshold_eq_ok_true_iff
    {threshold : Nat}
    {entries : List (Nat × σ)} :
    acceptsThreshold accepts keys threshold entries = .ok true ↔
      threshold ≤ entries.length ∧
        ∀ entry ∈ entries, ∃ key,
          keys[entry.1]? = some key ∧ accepts key entry.2 = .ok true := by
  unfold acceptsThreshold
  by_cases few : entries.length < threshold
  · simp only [few, if_true]
    constructor
    · rintro ⟨⟩
    · rintro ⟨enough, _⟩
      omega
  · simp only [few, if_false, acceptsEntries_eq_ok_true_iff]
    exact ⟨fun accepted => ⟨by omega, accepted⟩, fun both => both.2⟩

/-- There is a verdict on the entries if every key gives one on every signature. -/
theorem exists_acceptsThreshold
    (answers : ∀ key signature, ∃ accepted, accepts key signature = .ok accepted)
    (threshold : Nat)
    (entries : List (Nat × σ)) :
    ∃ accepted, acceptsThreshold accepts keys threshold entries = .ok accepted := by
  have entriesAnswered (others : List (Nat × σ)) :
      ∃ accepted, acceptsEntries accepts keys others = .ok accepted := by
    induction others with
    | nil => exact ⟨true, rfl⟩
    | cons entry rest inductionHypothesis =>
        rw [acceptsEntries]
        cases keys[entry.1]? with
        | none => exact ⟨false, rfl⟩
        | some key =>
            obtain ⟨accepted, acceptedEq⟩ := answers key entry.2
            simp only [acceptedEq]
            cases accepted with
            | false => exact ⟨false, rfl⟩
            | true => exact inductionHypothesis
  unfold acceptsThreshold
  split
  · exact ⟨false, rfl⟩
  · exact entriesAnswered entries

end Acceptance

end MoveClient
