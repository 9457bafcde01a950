import MoveClient.Key.Suite
import MoveClient.Proofs.Key.Layouts

/-!
Signatures given with the keys that they are of, against signatures given with positions.

Owns:
- that a key stands for the first position it is listed at, so that naming members is the same as
  giving their first positions;
- when members can be named, and that the verdict of the set of keys does not depend on it.

Does not own: what a multi-signature made from positions holds, see `MoveClient.Proofs.Key.Layouts`.
-/

namespace MoveClient

namespace Signers

variable {κ α σ : Type} {take : α → Except Error σ} {keys : List κ}

/-! ## Signatures of members, at positions that stand for them -/

section Placed

variable {entries : List (Fin keys.length × α)} {place : Fin keys.length → Nat}

/-- Entries with the position that stands for each member. -/
def placed
    (place : Fin keys.length → Nat)
    (entries : List (Fin keys.length × α)) : List (Int × α) :=
  entries.map fun entry => (Int.ofNat (place entry.1), entry.2)

/-- What a format takes of the signatures of some members. -/
def Taken
    (take : α → Except Error σ)
    (entries : List (Fin keys.length × α))
    (taken : List (Fin keys.length × σ)) : Prop :=
  List.Forall₂ (fun entry kept => entry.1 = kept.1 ∧ take entry.2 = .ok kept.2) entries taken

theorem Taken.eq
    {taken others : List (Fin keys.length × σ)}
    (first : Taken take entries taken)
    (second : Taken take entries others) :
    taken = others := by
  induction first generalizing others with
  | nil => exact (List.forall₂_nil_left_iff.mp second).symm
  | cons entryTaken _ inductionHypothesis =>
      obtain ⟨other, rest, otherTaken, restTaken, rfl⟩ := List.forall₂_cons_left_iff.mp second
      have sameMember := Except.ok.inj (entryTaken.2.symm.trans otherTaken.2)
      rw [inductionHypothesis restTaken,
        Prod.ext (entryTaken.1.symm.trans otherTaken.1) sameMember]

theorem Taken.exists_of_mem
    {taken : List (Fin keys.length × σ)}
    {kept : Fin keys.length × σ}
    (entriesTaken : Taken take entries taken)
    (member : kept ∈ taken) :
    ∃ entry ∈ entries, entry.1 = kept.1 ∧ take entry.2 = .ok kept.2 := by
  induction entriesTaken with
  | nil => cases member
  | cons entryTaken _ inductionHypothesis =>
      obtain rfl | memberRest := List.mem_cons.mp member
      · exact ⟨_, List.mem_cons_self .., entryTaken⟩
      · obtain ⟨entry, entryMember, found⟩ := inductionHypothesis memberRest
        exact ⟨entry, List.mem_cons_of_mem _ entryMember, found⟩

/-- Whatever positions stand for the members, the signatures are those that the format takes. -/
theorem holds_placed_iff {signers : Signers σ} :
    signers.Holds take (placed place entries) ↔
      ∃ taken, Taken take entries taken ∧
        signers.entries.Perm (taken.map fun kept => (place kept.1, kept.2)) := by
  have takenAs_iff (given : List (Int × σ)) :
      List.Forall₂ (TakenAs take) (placed place entries) given ↔
        ∃ taken, Taken take entries taken ∧ placed place taken = given := by
    have stepwise_iff (entry : Fin keys.length × α) (kept : Int × σ) :
        TakenAs take (Int.ofNat (place entry.1), entry.2) kept ↔
          ∃ between : Fin keys.length × σ,
            (entry.1 = between.1 ∧ take entry.2 = .ok between.2) ∧
              (Int.ofNat (place between.1), between.2) = kept := by
      constructor
      · rintro ⟨indexEq, memberEq⟩
        exact ⟨(entry.1, kept.2), ⟨rfl, memberEq⟩, Prod.ext indexEq rfl⟩
      · rintro ⟨between, ⟨positionEq, memberEq⟩, rfl⟩
        exact ⟨by rw [positionEq], memberEq⟩
    rw [placed, List.forall₂_map_left_iff]
    simp only [stepwise_iff, ← Error.forall₂_comp, ← List.forall₂_eq_eq_eq, placed,
      List.forall₂_map_left_iff]
    rfl
  unfold Holds
  simp only [takenAs_iff]
  constructor
  · rintro ⟨_, ⟨taken, entriesTaken, rfl⟩, perm⟩
    refine ⟨taken, entriesTaken, indexed_perm_map_iff.mp ?_⟩
    rw [List.map_map]
    exact perm
  · rintro ⟨taken, entriesTaken, perm⟩
    have indexedPerm := indexed_perm_map_iff.mpr perm
    rw [List.map_map] at indexedPerm
    exact ⟨_, ⟨taken, entriesTaken, rfl⟩, indexedPerm⟩

theorem admissible_placed_iff (inside : ∀ position, place position < maxSigners) :
    Admissible (placed place entries) ↔ (entries.map fun entry => place entry.1).Nodup := by
  have indices : (placed place entries).map Prod.fst =
      (entries.map fun entry => place entry.1).map Int.ofNat := by
    simp [placed]
  rw [Admissible, indices, List.nodup_map_iff fun _ _ => Int.ofNat.inj, and_iff_left_iff_imp]
  rintro - entry member
  obtain ⟨given, _, rfl⟩ := List.mem_map.mp member
  exact ⟨Int.natCast_nonneg _, Int.ofNat_lt.mpr (inside given.1)⟩

theorem forall_mem_placed_iff :
    (∀ entry ∈ placed place entries, ∃ member, take entry.2 = .ok member) ↔
      ∀ entry ∈ entries, ∃ member, take entry.2 = .ok member :=
  List.forall_mem_map

/-- Where positions stand for the members at them, the keys there are the members. -/
theorem map_getElem?_perm
    {signers : Signers σ}
    {taken : List (Fin keys.length × σ)}
    (stands : ∀ position, keys[place position]? = some keys[position])
    (perm : signers.entries.Perm (taken.map fun kept => (place kept.1, kept.2))) :
    (signers.entries.map fun entry => (keys[entry.1]?, entry.2)).Perm
      (taken.map fun kept => (some keys[kept.1], kept.2)) := by
  have mapped := perm.map fun entry => (keys[entry.1]?, entry.2)
  rw [List.map_map] at mapped
  simp only [Function.comp_def, stands] at mapped
  exact mapped

/-- The same members have signed the same, whatever positions stand for them. -/
theorem perm_of_holds_placed
    {other : Fin keys.length → Nat}
    {signers others : Signers σ}
    (stands : ∀ position, keys[place position]? = some keys[position])
    (otherStands : ∀ position, keys[other position]? = some keys[position])
    (holds : signers.Holds take (placed place entries))
    (otherHolds : others.Holds take (placed other entries)) :
    (others.entries.map fun entry => (keys[entry.1]?, entry.2)).Perm
      (signers.entries.map fun entry => (keys[entry.1]?, entry.2)) := by
  obtain ⟨taken, entriesTaken, perm⟩ := holds_placed_iff.mp holds
  obtain ⟨otherTaken, othersTaken, otherPerm⟩ := holds_placed_iff.mp otherHolds
  cases entriesTaken.eq othersTaken
  exact (map_getElem?_perm otherStands otherPerm).trans (map_getElem?_perm stands perm).symm

end Placed

/-- The verdict depends on which members signed what, and not on the positions. -/
theorem acceptsThreshold_congr_of_perm
    {accepts : κ → σ → Except Error Bool}
    {threshold : Nat}
    {left right : List (Nat × σ)}
    (perm : (left.map fun entry => (keys[entry.1]?, entry.2)).Perm
      (right.map fun entry => (keys[entry.1]?, entry.2))) :
    acceptsThreshold accepts keys threshold left = .ok true ↔
      acceptsThreshold accepts keys threshold right = .ok true := by
  have accepted_iff (entries : List (Nat × σ)) :
      acceptsThreshold accepts keys threshold entries = .ok true ↔
        threshold ≤ (entries.map fun entry => (keys[entry.1]?, entry.2)).length ∧
          ∀ pair ∈ entries.map fun entry => (keys[entry.1]?, entry.2),
            ∃ key, pair.1 = some key ∧ accepts key pair.2 = .ok true := by
    rw [acceptsThreshold_eq_ok_true_iff, List.length_map, List.forall_mem_map]
  rw [accepted_iff, accepted_iff, perm.length_eq]
  simp only [perm.mem_iff]

/-- Enough signatures that their members accept are accepted, whatever positions stand for the
members. -/
theorem acceptsThreshold_of_placed
    {accepts : κ → σ → Except Error Bool}
    {threshold : Nat}
    {entries : List (Fin keys.length × α)}
    {place : Fin keys.length → Nat}
    {signers : Signers σ}
    (stands : ∀ position, keys[place position]? = some keys[position])
    (holds : signers.Holds take (placed place entries))
    (enough : threshold ≤ entries.length)
    (valid : ∀ entry ∈ entries, ∀ member, take entry.2 = .ok member →
      accepts keys[entry.1] member = .ok true) :
    acceptsThreshold accepts keys threshold signers.entries = .ok true := by
  obtain ⟨taken, entriesTaken, perm⟩ := holds_placed_iff.mp holds
  rw [acceptsThreshold_eq_ok_true_iff]
  constructor
  · rw [perm.length_eq, List.length_map, ← entriesTaken.length_eq]
    exact enough
  · intro entry member
    obtain ⟨kept, keptMember, rfl⟩ := List.mem_map.mp (perm.mem_iff.mp member)
    refine ⟨keys[kept.1], stands kept.1, ?_⟩
    obtain ⟨⟨_, given⟩, givenMember, rfl, memberEq⟩ := entriesTaken.exists_of_mem keptMember
    exact valid _ givenMember kept.2 memberEq

/-! ## First positions -/

section FirstPosition

variable [DecidableEq κ]

/-- The first position of the member at a position. -/
def firstPosition (keys : List κ) (position : Fin keys.length) : Nat :=
  keys.idxOf keys[position]

theorem getElem?_firstPosition (position : Fin keys.length) :
    keys[firstPosition keys position]? = some keys[position] :=
  List.getElem?_idxOf (List.getElem_mem position.isLt)

theorem firstPosition_lt (position : Fin keys.length) :
    firstPosition keys position < keys.length :=
  List.idxOf_lt_length_of_mem (List.getElem_mem position.isLt)

theorem firstPosition_inj {left right : Fin keys.length} :
    firstPosition keys left = firstPosition keys right ↔ keys[left] = keys[right] :=
  List.idxOf_inj (List.getElem_mem left.isLt)

theorem findIdx?_eq_firstPosition (position : Fin keys.length) :
    keys.findIdx? (· == keys[position]) = some (firstPosition keys position) :=
  List.findIdx?_eq_some_of_exists ⟨keys[position], List.getElem_mem position.isLt, BEq.rfl⟩

theorem firstPosition_eq_of_first
    {position : Fin keys.length}
    (first : ∀ before : Fin keys.length, before < position → keys[before] ≠ keys[position]) :
    firstPosition keys position = position.val := by
  apply (List.findIdx_eq position.isLt).mpr
  refine ⟨BEq.rfl, ?_⟩
  intro before isBefore
  exact beq_false_of_ne (first ⟨before, isBefore.trans position.isLt⟩ isBefore)

/-- First positions differ exactly if the members do. -/
theorem nodup_firstPositions_iff
    {entries : List (Fin keys.length × α)} :
    (entries.map fun entry => firstPosition keys entry.1).Nodup ↔
      (entries.map fun entry => keys[entry.1]).Nodup := by
  simp only [List.Nodup, List.pairwise_map, ne_eq, firstPosition_inj]

theorem admissible_firstPositions_iff
    {entries : List (Fin keys.length × α)}
    (few : keys.length ≤ maxSigners) :
    Admissible (placed (firstPosition keys) entries) ↔
      (entries.map fun entry => keys[entry.1]).Nodup := by
  rw [admissible_placed_iff fun position => Nat.lt_of_lt_of_le (firstPosition_lt position) few,
    nodup_firstPositions_iff]

end FirstPosition

theorem admissible_positions
    {entries : List (Fin keys.length × α)}
    (few : keys.length ≤ maxSigners)
    (distinct : (entries.map Prod.fst).Nodup) :
    Admissible (placed Fin.val entries) := by
  rw [admissible_placed_iff fun position => Nat.lt_of_lt_of_le position.isLt few,
    ← Function.comp_def Fin.val Prod.fst, ← List.map_map]
  exact distinct.map Fin.val_injective

/-- Signatures of some members, made into a multi-signature once by the positions of the members
and once by naming them. `verdict` is what the set of keys says of a multi-signature. -/
structure ComparesWithNamed
    (take : α → Except Error σ)
    (accepts : κ → σ → Except Error Bool)
    (verdict : Signers σ → Except Error Bool)
    (keys : List κ)
    (threshold : Nat)
    (entries : List (Fin keys.length × α))
    (positioned named : Except Error (Signers σ)) : Prop where
  positioned_iff :
    (∃ signers, positioned = .ok signers) ↔ ∀ entry ∈ entries, ∃ member, take entry.2 = .ok member
  /-- To be named, the members have to differ. -/
  named_iff :
    (∃ signers, named = .ok signers) ↔
      (∀ entry ∈ entries, ∃ member, take entry.2 = .ok member) ∧
        (entries.map fun entry => keys[entry.1]).Nodup
  refuses_repeated :
    (∀ entry ∈ entries, ∃ member, take entry.2 = .ok member) →
      ¬ (entries.map fun entry => keys[entry.1]).Nodup →
        ∃ cause, named = .error (.keyFormat cause)
  /-- The same members have signed the same. -/
  same_signatures : ∀ signers others, positioned = .ok signers → named = .ok others →
    (others.entries.map fun entry => (keys[entry.1]?, entry.2)).Perm
      (signers.entries.map fun entry => (keys[entry.1]?, entry.2))
  same_verdict : ∀ signers others, positioned = .ok signers → named = .ok others →
    (verdict others = .ok true ↔ verdict signers = .ok true)
  /-- Enough valid signatures are accepted, however they are given. -/
  accepted : threshold ≤ entries.length →
    (∀ entry ∈ entries, ∀ member, take entry.2 = .ok member →
      accepts keys[entry.1] member = .ok true) →
      ∀ signers, positioned = .ok signers ∨ named = .ok signers → verdict signers = .ok true
  /-- Nothing differs if no member is listed before the position it signs for. -/
  agrees :
    (∀ entry ∈ entries, ∀ before : Fin keys.length, before < entry.1 →
      keys[before] ≠ keys[entry.1]) → named = positioned

/-- Naming members compares with giving their positions as it should, for every way of making
multi-signatures that holds what a format takes. -/
theorem comparesWithNamed
    [DecidableEq κ]
    {make : List (Int × α) → Except Error (Signers σ)}
    {accepts : κ → σ → Except Error Bool}
    {threshold : Nat}
    {entries : List (Fin keys.length × α)}
    (made_iff : ∀ entries signers, make entries = .ok signers ↔ signers.Holds take entries)
    (gathers : Gathers take make)
    (few : keys.length ≤ maxSigners)
    (distinct : (entries.map Prod.fst).Nodup) :
    ComparesWithNamed take accepts
      (fun signers => acceptsThreshold accepts keys threshold signers.entries) keys threshold entries
      (make (placed Fin.val entries)) (make (placed (firstPosition keys) entries)) := by
  have stands (position : Fin keys.length) : keys[position.val]? = some keys[position] :=
    List.getElem?_eq_getElem position.isLt
  have samePerm (signers others : Signers σ)
      (positioned : make (placed Fin.val entries) = .ok signers)
      (named : make (placed (firstPosition keys) entries) = .ok others) :=
    perm_of_holds_placed stands getElem?_firstPosition ((made_iff _ _).mp positioned)
      ((made_iff _ _).mp named)
  exact
    { positioned_iff := by
        rw [gathers.makes_iff, forall_mem_placed_iff]
        exact and_iff_right (admissible_positions few distinct)
      named_iff := by
        rw [gathers.makes_iff, forall_mem_placed_iff, admissible_firstPositions_iff few, and_comm]
      refuses_repeated := by
        intro taken repeated
        rw [← admissible_firstPositions_iff few] at repeated
        obtain ⟨error, refused, ⟨cause, rfl⟩ | ⟨entry, member, failed⟩⟩ :=
          gathers.refuses _ repeated
        · exact ⟨cause, refused⟩
        · obtain ⟨given, memberEq⟩ := forall_mem_placed_iff.mpr taken entry member
          rw [memberEq] at failed
          cases failed
      same_signatures := samePerm
      same_verdict := by
        intro signers others positioned named
        exact acceptsThreshold_congr_of_perm (samePerm signers others positioned named)
      accepted := by
        rintro enough valid signers (positioned | named)
        · exact acceptsThreshold_of_placed stands ((made_iff _ _).mp positioned) enough valid
        · exact acceptsThreshold_of_placed getElem?_firstPosition ((made_iff _ _).mp named) enough
            valid
      agrees := by
        intro first
        have samePlaces : placed (firstPosition keys) entries = placed Fin.val entries := by
          apply List.map_congr_left
          intro entry member
          rw [firstPosition_eq_of_first (first entry member)]
        rw [samePlaces] }

end Signers

/-! ## The newer format -/

namespace MultiKeySignature

/-- Naming members is giving their first positions. -/
theorem ofKeys_eq_make
    {key : MultiKey}
    {name : Fin key.keys.length → PublicKey}
    (names : ∀ position, (name position).single = .ok key.keys[position])
    (entries : List (Fin key.keys.length × Signature)) :
    ofKeys key (entries.map fun entry => (name entry.1, entry.2)) =
      make Signature.toWrapped (Signers.placed (Signers.firstPosition key.keys) entries) := by
  have found (position : Fin key.keys.length) :
      key.indexOf key.keys[position] = .ok (Signers.firstPosition key.keys position) := by
    rw [MultiKey.indexOf, Signers.findIdx?_eq_firstPosition]
  unfold ofKeys
  rw [Error.mapM_map_eq_ok fun entry =>
    (Int.ofNat (Signers.firstPosition key.keys entry.1), entry.2)]
  · rfl
  · intro entry _
    rw [names, Error.bind_eq_ok_iff]
    exact ⟨_, rfl, by rw [found]; rfl⟩

end MultiKeySignature

/-! ## The older format -/

namespace MultiEd25519Signature

theorem ofSignatures_eq_ok_iff_holds
    {entries : List (Int × Signature)}
    {signature : MultiEd25519Signature} :
    ofSignatures entries = .ok signature ↔ signature.Holds Signature.toEd25519 entries := by
  have stepwise_iff (entry : Int × Signature) (taken : Int × Octets 64) :
      (do
        let member ← entry.2.toEd25519
        Except.ok (entry.1, member)) = .ok taken ↔
        Signers.TakenAs Signature.toEd25519 entry taken := by
    rw [Error.bind_eq_ok_iff]
    constructor
    · rintro ⟨member, memberEq, ⟨⟩⟩
      exact ⟨rfl, memberEq⟩
    · rintro ⟨indexEq, memberEq⟩
      exact ⟨taken.2, memberEq, by rw [indexEq]⟩
  unfold ofSignatures
  simp only [Error.bind_eq_ok_iff, Error.mapM_eq_ok_iff, make_eq_ok_iff] at stepwise_iff ⊢
  simp only [stepwise_iff]
  rfl

theorem cause_of_ofSignatures_eq_error
    {entries : List (Int × Signature)}
    {error : Error}
    (failed : ofSignatures entries = .error error) :
    (∃ cause, error = .keyFormat cause) ∨
      ∃ entry ∈ entries, entry.2.toEd25519 = .error error := by
  unfold ofSignatures at failed
  obtain failed | ⟨_, _, failed⟩ := Error.bind_eq_error_iff.mp failed
  · obtain ⟨before, entry, after, rfl, _, failed⟩ := Error.mapM_eq_error_iff.mp failed
    obtain refused | ⟨_, _, ⟨⟩⟩ := Error.bind_eq_error_iff.mp failed
    exact .inr ⟨entry, List.mem_append_right _ (List.mem_cons_self ..), refused⟩
  · exact .inl (cause_of_make_eq_error failed)

theorem gathers_ofSignatures : Signers.Gathers Signature.toEd25519 ofSignatures :=
  Signers.gathers_of_holds (fun _ _ => ofSignatures_eq_ok_iff_holds)
    fun _ _ => cause_of_ofSignatures_eq_error

/-- The signatures of entries are taken first, whatever stands beside them. -/
theorem mapM_toEd25519_map
    {β γ : Type}
    (beside : β → γ)
    (entries : List (β × Signature)) :
    (entries.map fun entry => (beside entry.1, entry.2)).mapM (fun entry => do
      let member ← entry.2.toEd25519
      Except.ok (entry.1, member)) =
    (List.map fun kept : β × Octets 64 => (beside kept.1, kept.2)) <$>
      entries.mapM (fun entry => do
        let member ← entry.2.toEd25519
        Except.ok (entry.1, member)) := by
  induction entries with
  | nil => rfl
  | cons entry rest inductionHypothesis =>
      rw [List.map_cons, List.mapM_cons, List.mapM_cons, inductionHypothesis]
      cases entry.2.toEd25519 with
      | error error => rfl
      | ok member =>
          cases rest.mapM fun entry => do
            let member ← entry.2.toEd25519
            Except.ok (entry.1, member) with
          | error error => rfl
          | ok kept => rfl

/-- Naming members is giving their first positions. -/
theorem ofPublicKeys_eq_ofSignatures
    {key : MultiEd25519Key}
    {name : Fin key.keys.length → PublicKey}
    (names : ∀ position, (name position).toEd25519 = .ok key.keys[position])
    (entries : List (Fin key.keys.length × Signature)) :
    ofPublicKeys key (entries.map fun entry => (name entry.1, entry.2)) =
      ofSignatures (Signers.placed (Signers.firstPosition key.keys) entries) := by
  have indexed (kept : List (Fin key.keys.length × Octets 64)) :
      ofKeys key (kept.map fun entry => (key.keys[entry.1], entry.2)) =
        make (Signers.placed (Signers.firstPosition key.keys) kept) := by
    unfold ofKeys
    rw [Error.mapM_map_eq_ok fun entry =>
      (Int.ofNat (Signers.firstPosition key.keys entry.1), entry.2)]
    · rfl
    · intro entry _
      rw [Signers.findIdx?_eq_firstPosition]
  unfold ofPublicKeys ofSignatures
  rw [Error.mapM_map_eq_ok fun entry => (key.keys[entry.1], entry.2)]
  · show (_ >>= ofKeys key) = (_ >>= make)
    rw [mapM_toEd25519_map fun position => key.keys[position], Signers.placed,
      mapM_toEd25519_map fun position => Int.ofNat (Signers.firstPosition key.keys position)]
    cases entries.mapM fun entry => do
      let member ← entry.2.toEd25519
      Except.ok (entry.1, member) with
    | error error => rfl
    | ok kept => exact indexed kept
  · intro entry _
    rw [names]

end MultiEd25519Signature

/-- Signatures of different members of a set of keys, given with these members, make a
multi-signature in which the same members have signed the same as in the one made from their
positions, and the set of keys accepts both or neither; if they are valid and enough, both. Members
that are the same key, which a set may list at several positions, can sign by their positions, but
naming them is refused: each time the first position is meant. -/
theorem multiSignatures_of_members
    (suite : Suite)
    (message : Bytes) :
    (∀ (key : MultiKey) (name : Fin key.keys.length → PublicKey)
      (entries : List (Fin key.keys.length × Signature)),
      (∀ position, (name position).single = .ok key.keys[position]) →
      (entries.map Prod.fst).Nodup →
        Signers.ComparesWithNamed Signature.toWrapped
          (fun member inner => member.verify suite message inner.inner)
          (key.verify suite message) key.keys key.threshold entries
          (MultiKeySignature.make Signature.toWrapped
            (entries.map fun entry => (Int.ofNat entry.1, entry.2)))
          (MultiKeySignature.ofKeys key (entries.map fun entry => (name entry.1, entry.2)))) ∧
    (∀ (key : MultiEd25519Key) (name : Fin key.keys.length → PublicKey)
      (entries : List (Fin key.keys.length × Signature)),
      (∀ position, (name position).toEd25519 = .ok key.keys[position]) →
      (entries.map Prod.fst).Nodup →
        Signers.ComparesWithNamed Signature.toEd25519
          (fun member inner => .ok (suite.ed25519Verify member message inner))
          (key.verify suite message) key.keys key.threshold entries
          (MultiEd25519Signature.ofSignatures
            (entries.map fun entry => (Int.ofNat entry.1, entry.2)))
          (MultiEd25519Signature.ofPublicKeys key
            (entries.map fun entry => (name entry.1, entry.2)))) := by
  constructor
  · intro key name entries names distinct
    rw [MultiKeySignature.ofKeys_eq_make names]
    exact Signers.comparesWithNamed (fun _ _ => MultiKeySignature.make_eq_ok_iff_holds)
      (MultiKeySignature.gathers Signature.toWrapped) key.few_keys distinct
  · intro key name entries names distinct
    rw [MultiEd25519Signature.ofPublicKeys_eq_ofSignatures names]
    exact Signers.comparesWithNamed
      (fun _ _ => MultiEd25519Signature.ofSignatures_eq_ok_iff_holds)
      MultiEd25519Signature.gathers_ofSignatures key.few_keys distinct

/-- A set that lists a key twice: its two positions can be given together with a second member,
but of the two positions only one by its name. -/
theorem multiSignatures_of_members_listedTwice :
    (∃ signers, MultiKeySignature.ofKeys
      ⟨[.ed25519 (.zero 32), .slhDsa (.zero 32), .ed25519 (.zero 32)], 2, by decide, by decide,
        by decide, by decide⟩
      [(.wrapped (.ed25519 (.zero 32)), .bare (.ed25519 (.zero 64))),
        (.wrapped (.slhDsa (.zero 32)), .bare (.slhDsa (.zero 7856)))] = .ok signers) ∧
    (∃ cause, MultiEd25519Signature.ofPublicKeys
      ⟨[.zero 32, .zero 32], 2, by decide, by decide, by decide, by decide⟩
      [(.bare (.ed25519 (.zero 32)), .bare (.ed25519 (.zero 64))),
        (.bare (.ed25519 (.zero 32)), .bare (.ed25519 (.zero 64)))] =
          .error (.keyFormat cause)) := by
  obtain ⟨newer, older⟩ := multiSignatures_of_members .standard []
  constructor
  · have compares := newer
      ⟨[.ed25519 (.zero 32), .slhDsa (.zero 32), .ed25519 (.zero 32)], 2, by decide, by decide,
        by decide, by decide⟩
      (fun position => .wrapped ([.ed25519 (.zero 32), .slhDsa (.zero 32), .ed25519 (.zero 32)].get
        position))
      [(⟨2, by decide⟩, .bare (.ed25519 (.zero 64))), (⟨1, by decide⟩, .bare (.slhDsa (.zero 7856)))]
      (fun _ => rfl) (by decide)
    exact compares.named_iff.mpr
      ⟨List.forall_mem_cons.mpr ⟨⟨_, rfl⟩, List.forall_mem_singleton.mpr ⟨_, rfl⟩⟩, by decide⟩
  · have compares := older
      ⟨[.zero 32, .zero 32], 2, by decide, by decide, by decide, by decide⟩
      (fun position => .bare (.ed25519 ([.zero 32, .zero 32].get position)))
      [(⟨0, by decide⟩, .bare (.ed25519 (.zero 64))), (⟨1, by decide⟩, .bare (.ed25519 (.zero 64)))]
      (fun _ => rfl) (by decide)
    exact compares.refuses_repeated
      (List.forall_mem_cons.mpr ⟨⟨_, rfl⟩, List.forall_mem_singleton.mpr ⟨_, rfl⟩⟩) (by decide)

/-- A key that is listed twice and has to sign twice: given by their positions, its signatures are
made into a multi-signature that is accepted if they are valid; given with the key, they are
refused. -/
theorem repeated_member_refused :
    (∃ (key : MultiKey) (signature : MultiKeySignature),
      MultiKey.make [.ed25519 (.zero 32), .ed25519 (.zero 32)] 2 = .ok key ∧
      MultiKeySignature.make Signature.toWrapped
        [(0, .bare (.ed25519 (.zero 64))), (1, .bare (.ed25519 (.zero 64)))] = .ok signature ∧
      (∀ (suite : Suite) (message : Bytes),
        suite.ed25519Verify (.zero 32) message (.zero 64) = true →
          key.verify suite message signature = .ok true) ∧
      MultiKeySignature.ofKeys key
        [(.wrapped (.ed25519 (.zero 32)), .bare (.ed25519 (.zero 64))),
          (.wrapped (.ed25519 (.zero 32)), .bare (.ed25519 (.zero 64)))] =
        .error (.keyFormat (.duplicateSigner 0))) ∧
    (∃ (key : MultiEd25519Key) (signature : MultiEd25519Signature),
      MultiEd25519Key.make [.zero 32, .zero 32] 2 = .ok key ∧
      MultiEd25519Signature.make [(0, .zero 64), (1, .zero 64)] = .ok signature ∧
      (∀ (suite : Suite) (message : Bytes),
        suite.ed25519Verify (.zero 32) message (.zero 64) = true →
          key.verify suite message signature = .ok true) ∧
      MultiEd25519Signature.ofPublicKeys key
        [(.bare (.ed25519 (.zero 32)), .bare (.ed25519 (.zero 64))),
          (.bare (.ed25519 (.zero 32)), .bare (.ed25519 (.zero 64)))] =
        .error (.keyFormat .duplicateEd25519Signer)) := by
  constructor
  · refine ⟨_, _, rfl, rfl, ?_, rfl⟩
    intro suite message valid
    rw [MultiKey.verify, acceptsThreshold_eq_ok_true_iff]
    refine ⟨Nat.le_refl 2, List.forall_mem_cons.mpr ⟨?_, List.forall_mem_singleton.mpr ?_⟩⟩
    all_goals exact ⟨_, rfl, congrArg Except.ok valid⟩
  · refine ⟨_, _, rfl, rfl, ?_, rfl⟩
    intro suite message valid
    rw [MultiEd25519Key.verify, acceptsThreshold_eq_ok_true_iff]
    refine ⟨Nat.le_refl 2, List.forall_mem_cons.mpr ⟨?_, List.forall_mem_singleton.mpr ?_⟩⟩
    all_goals exact ⟨_, rfl, congrArg Except.ok valid⟩

end MoveClient
