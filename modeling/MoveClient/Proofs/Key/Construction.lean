import MoveClient.Key.Public
import MoveClient.Proofs.Key.Signers

/-!
Making sets of keys and multi-signatures.

Owns:
- that a set of keys holds the keys and the threshold it is made from;
- for every way of making a multi-signature, that it holds the given signatures, each at the
  position it is given for, and when it can be made.

Does not own: how key sets and multi-signatures are read from octets.
-/

namespace MoveClient

/-! ## Sets of keys -/

namespace MultiEd25519Key

theorem make_eq_ok_iff
    {keys : List (Octets 32)}
    {threshold : Int}
    {key : MultiEd25519Key} :
    make keys threshold = .ok key ↔ key.keys = keys ∧ (key.threshold : Int) = threshold := by
  have enough := key.enough_keys
  have few := key.few_keys
  have positive := key.threshold_pos
  have reachable := key.threshold_le
  unfold make
  constructor
  · intro made
    split at made
    · split at made
      · cases made
        refine ⟨rfl, ?_⟩
        show ((threshold.toNat : Nat) : Int) = threshold
        omega
      · cases made
    · cases made
  · rintro ⟨rfl, rfl⟩
    rw [dif_pos ⟨enough, few⟩, dif_pos ⟨by omega, by omega⟩]
    rfl

end MultiEd25519Key

namespace MultiKey

theorem make_eq_ok_iff
    {keys : List SingleKey}
    {threshold : Int}
    {key : MultiKey} :
    make keys threshold = .ok key ↔ key.keys = keys ∧ (key.threshold : Int) = threshold := by
  have enough := key.enough_keys
  have few := key.few_keys
  have nonzero := key.threshold_ne_zero
  have reachable := key.threshold_le
  unfold make
  constructor
  · intro made
    split at made
    · split at made
      · cases made
        refine ⟨rfl, ?_⟩
        show ((threshold.toNat : Nat) : Int) = threshold
        omega
      · cases made
    · cases made
  · rintro ⟨rfl, rfl⟩
    rw [dif_pos ⟨enough, few⟩, dif_pos ⟨by omega, by omega⟩]
    rfl

end MultiKey

/-! ## Multi-signatures -/

/-- A signature given with its key is kept at the first position of the key. -/
def AtKey
    {κ σ : Type}
    [BEq κ]
    (keys : List κ)
    (entry : κ × σ)
    (kept : Nat × σ) : Prop :=
  keys.findIdx? (· == entry.1) = some kept.1 ∧ entry.2 = kept.2

/-- A signature of any kind given with a key of any kind is kept as one of the kinds of the set, at
the first position of the key. -/
def KeepsKey
    {κ σ : Type}
    [BEq κ]
    (memberOf : PublicKey → Except Error κ)
    (wrap : Signature → Except Error σ)
    (keys : List κ)
    (entry : PublicKey × Signature)
    (kept : Nat × σ) : Prop :=
  ∃ member, memberOf entry.1 = .ok member ∧
    keys.findIdx? (· == member) = some kept.1 ∧ wrap entry.2 = .ok kept.2

namespace MultiEd25519Signature

/-- A multi-signature is made of the given entries, and of nothing else. -/
theorem make_eq_ok_iff
    {entries : List (Int × Octets 64)}
    {signature : MultiEd25519Signature} :
    make entries = .ok signature ↔ signature.indexed.Perm entries := by
  have inRange_iff :
      ((entries.map Prod.fst).find? fun index => (Signers.position? index).isNone) = none ↔
        ∀ entry ∈ entries, 0 ≤ entry.1 ∧ entry.1 < maxSigners := by
    simp only [List.find?_eq_none, List.forall_mem_map, Option.isNone_iff_eq_none,
      ← Option.isSome_iff_ne_none, Signers.position?_isSome_iff]
  unfold make
  by_cases distinct : (entries.map Prod.fst).Nodup
  · cases beyond : (entries.map Prod.fst).find? fun index => (Signers.position? index).isNone with
    | some index =>
        simp only [distinct, beyond, if_true]
        constructor
        · rintro ⟨⟩
        · intro perm
          have inRange := (signature.admissible_indexed.perm perm).2
          rw [inRange_iff.mpr inRange] at beyond
          cases beyond
    | none =>
        have inRange := inRange_iff.mp beyond
        rw [← Signers.ofEntries?_toNat_eq_some_iff fun entry member => (inRange entry member).1]
        simp only [distinct, beyond, if_true]
        cases Signers.ofEntries? (entries.map fun entry => (entry.1.toNat, entry.2)) <;> simp
  · simp only [distinct, if_false]
    constructor
    · rintro ⟨⟩
    · intro perm
      exact absurd (signature.admissible_indexed.perm perm).1 distinct

theorem exists_make_iff {entries : List (Int × Octets 64)} :
    (∃ signature, make entries = .ok signature) ↔ Signers.Admissible entries := by
  simp only [make_eq_ok_iff]
  exact Signers.exists_indexed_perm_iff

/-- Signatures given with their keys are kept at the first positions of the keys. -/
theorem ofKeys_eq_ok_iff
    {key : MultiEd25519Key}
    {entries : List (Octets 32 × Octets 64)}
    {signature : MultiEd25519Signature} :
    ofKeys key entries = .ok signature ↔
      ∃ kept, List.Forall₂ (AtKey key.keys) entries kept ∧ signature.entries.Perm kept := by
  unfold ofKeys
  simp only [Error.bind_eq_ok_iff, Error.mapM_eq_ok_iff, make_eq_ok_iff]
  constructor
  · rintro ⟨indexed, found, perm⟩
    refine ⟨indexed.map fun entry => (entry.1.toNat, entry.2), ?_, ?_⟩
    · rw [List.forall₂_map_right_iff]
      apply found.imp
      intro entry kept keptEq
      split at keptEq
      · rename_i position positionEq
        cases keptEq
        exact ⟨positionEq, rfl⟩
      · cases keptEq
    · rw [← signature.indexed_toNat]
      exact perm.map _
  · rintro ⟨kept, found, perm⟩
    refine ⟨kept.map fun entry => (Int.ofNat entry.1, entry.2), ?_,
      Signers.indexed_perm_map_iff.mpr perm⟩
    rw [List.forall₂_map_right_iff]
    apply found.imp
    rintro entry kept ⟨positionEq, signatureEq⟩
    rw [positionEq, signatureEq]

/-- A multi-signature from keys is made of the given signatures at the positions of their keys. -/
theorem ofPublicKeys_eq_ok_iff
    {key : MultiEd25519Key}
    {entries : List (PublicKey × Signature)}
    {signature : MultiEd25519Signature} :
    ofPublicKeys key entries = .ok signature ↔
      ∃ kept,
        List.Forall₂ (KeepsKey PublicKey.toEd25519 Signature.toEd25519 key.keys) entries kept ∧
          signature.entries.Perm kept := by
  unfold ofPublicKeys
  simp only [Error.bind_eq_ok_iff, Error.mapM_eq_ok_iff, ofKeys_eq_ok_iff]
  constructor
  · rintro ⟨members, memberOf, signed, signedBy, kept, found, perm⟩
    refine ⟨kept, ?_, perm⟩
    apply (Error.forall₂_comp.mp
      ⟨signed, Error.forall₂_comp.mp ⟨members, memberOf, signedBy⟩, found⟩).imp
    rintro entry kept ⟨_, ⟨_, memberEq, signature, signatureEq, ⟨⟩⟩, positionEq, rfl⟩
    split at memberEq
    · rename_i member memberOfEq
      cases memberEq
      exact ⟨member, memberOfEq, positionEq, signatureEq⟩
    · cases memberEq
  · rintro ⟨kept, keeps, perm⟩
    have stepwise := keeps.imp
      (S := fun entry kept => ∃ signed : Octets 32 × Octets 64,
        (∃ member : Octets 32 × Signature,
          (entry.1.toEd25519 = .ok member.1 ∧ entry.2 = member.2) ∧
            member.2.toEd25519 = .ok signed.2 ∧ member.1 = signed.1) ∧
          AtKey key.keys signed kept)
      (by
        rintro entry kept ⟨member, memberEq, positionEq, signatureEq⟩
        exact ⟨(member, kept.2), ⟨(member, entry.2), ⟨memberEq, rfl⟩, signatureEq, rfl⟩,
          positionEq, rfl⟩)
    obtain ⟨signed, signedBy, found⟩ := Error.forall₂_comp.mpr stepwise
    obtain ⟨members, memberOf, signedOf⟩ := Error.forall₂_comp.mpr signedBy
    refine ⟨members, memberOf.imp ?_, signed, signedOf.imp ?_, kept, found, perm⟩
    · rintro entry ⟨member, signature⟩ ⟨memberEq, rfl⟩
      rw [memberEq]
    · rintro ⟨member, signature⟩ ⟨_, signed⟩ ⟨signatureEq, rfl⟩
      exact ⟨signed, signatureEq, rfl⟩

end MultiEd25519Signature

namespace MultiKeySignature

variable {α : Type} {wrap : α → Except Error WrappedSignature}

/-- An entry that is kept: the same position, and the signature wrapped. -/
def Keeps
    (wrap : α → Except Error WrappedSignature)
    (entry : Int × α)
    (kept : Nat × WrappedSignature) : Prop :=
  entry.1 = Int.ofNat kept.1 ∧ wrap entry.2 = .ok kept.2

theorem map_fst_of_keeps
    {entries : List (Int × α)}
    {checked : List (Nat × WrappedSignature)}
    (keeps : List.Forall₂ (Keeps wrap) entries checked) :
    entries.map Prod.fst = checked.map fun kept => Int.ofNat kept.1 := by
  induction keeps with
  | nil => rfl
  | cons entryKept _ inductionHypothesis =>
      rw [List.map_cons, List.map_cons, entryKept.1, inductionHypothesis]

/-- What it takes that the first entry passes. -/
theorem checkEntries_cons_eq_ok_iff
    {seen : List Int}
    {entry : Int × α}
    {rest : List (Int × α)}
    {checked : List (Nat × WrappedSignature)} :
    checkEntries wrap seen (entry :: rest) = .ok checked ↔
      ∃ kept others,
        (Keeps wrap entry kept ∧ kept.1 < maxSigners ∧ entry.1 ∉ seen) ∧
          checkEntries wrap (entry.1 :: seen) rest = .ok others ∧ checked = kept :: others := by
  obtain ⟨index, member⟩ := entry
  rw [checkEntries]
  cases positionEq : Signers.position? index with
  | none =>
      constructor
      · rintro ⟨⟩
      · rintro ⟨kept, _, ⟨⟨indexEq, _⟩, small, _⟩, _⟩
        rw [Signers.position?_eq_some_iff.mpr ⟨indexEq, small⟩] at positionEq
        cases positionEq
  | some position =>
      obtain ⟨indexEq, small⟩ := Signers.position?_eq_some_iff.mp positionEq
      by_cases repeated : index ∈ seen
      · simp [repeated]
      · have fresh : seen.contains index = false := by
          rw [← Bool.not_eq_true, List.contains_iff_mem]
          exact repeated
        simp only [fresh, Bool.false_eq_true, if_false, Error.bind_eq_ok_iff]
        constructor
        · rintro ⟨wrapped, wrappedEq, others, passed, ⟨⟩⟩
          exact ⟨(position, wrapped), others,
            ⟨⟨indexEq, wrappedEq⟩, small, repeated⟩, passed, rfl⟩
        · rintro ⟨⟨_, wrapped⟩, others, ⟨⟨samePosition, wrappedEq⟩, _, _⟩, passed, rfl⟩
          cases Int.ofNat.inj (indexEq.symm.trans samePosition)
          exact ⟨wrapped, wrappedEq, others, passed, rfl⟩

/-- Entries pass the checks if their positions are in range, differ from each other and from
those before, and their signatures can be wrapped. -/
theorem checkEntries_eq_ok_iff
    {seen : List Int}
    {entries : List (Int × α)}
    {checked : List (Nat × WrappedSignature)} :
    checkEntries wrap seen entries = .ok checked ↔
      List.Forall₂ (Keeps wrap) entries checked ∧
        (∀ kept ∈ checked, kept.1 < maxSigners) ∧
        (entries.map Prod.fst).Nodup ∧ (entries.map Prod.fst).Disjoint seen := by
  induction entries generalizing seen checked with
  | nil =>
      rw [checkEntries, List.forall₂_nil_left_iff]
      constructor
      · rintro ⟨⟩
        simp
      · rintro ⟨rfl, _⟩
        rfl
  | cons entry rest inductionHypothesis =>
      rw [checkEntries_cons_eq_ok_iff, List.forall₂_cons_left_iff]
      simp only [inductionHypothesis, List.map_cons, List.nodup_cons, List.disjoint_cons_left,
        List.disjoint_cons_right]
      constructor
      · rintro ⟨kept, others, ⟨entryKept, small, fresh⟩,
          ⟨keeps, bounded, distinct, single, unseen⟩, rfl⟩
        exact ⟨⟨kept, others, entryKept, keeps, rfl⟩, List.forall_mem_cons.mpr ⟨small, bounded⟩,
          ⟨single, distinct⟩, fresh, unseen⟩
      · rintro ⟨⟨kept, others, entryKept, keeps, rfl⟩, bounded, ⟨single, distinct⟩, fresh, unseen⟩
        obtain ⟨small, othersBounded⟩ := List.forall_mem_cons.mp bounded
        exact ⟨kept, others, ⟨entryKept, small, fresh⟩,
          ⟨keeps, othersBounded, distinct, single, unseen⟩, rfl⟩

/-- A multi-signature is made of the given entries with their signatures wrapped, and of nothing
else. -/
theorem make_eq_ok_iff
    {entries : List (Int × α)}
    {signature : MultiKeySignature} :
    make wrap entries = .ok signature ↔
      ∃ checked, List.Forall₂ (Keeps wrap) entries checked ∧ signature.entries.Perm checked := by
  unfold make
  simp only [Error.bind_eq_ok_iff, checkEntries_eq_ok_iff, ← Signers.ofEntries?_eq_some_iff]
  constructor
  · rintro ⟨checked, ⟨keeps, _⟩, kept⟩
    refine ⟨checked, keeps, ?_⟩
    cases ofEntriesEq : Signers.ofEntries? checked with
    | none => rw [ofEntriesEq] at kept; cases kept
    | some signers => rw [ofEntriesEq] at kept; cases kept; rfl
  · rintro ⟨checked, keeps, kept⟩
    have perm := Signers.ofEntries?_eq_some_iff.mp kept
    have bounded : ∀ kept ∈ checked, kept.1 < maxSigners := by
      intro kept member
      exact signature.bounded kept (perm.mem_iff.mpr member)
    have distinct : (entries.map Prod.fst).Nodup := by
      have positionsDistinct := (perm.map Prod.fst).nodup_iff.mp signature.nodup_positions
      rw [map_fst_of_keeps keeps, ← Function.comp_def Int.ofNat Prod.fst, ← List.map_map]
      exact positionsDistinct.map fun _ _ => Int.ofNat.inj
    exact ⟨checked, ⟨keeps, bounded, distinct, List.disjoint_nil_right _⟩, by rw [kept]⟩

/-- Signatures that are wrapped already are kept as they are. -/
theorem make_ok_eq_ok_iff
    {entries : List (Int × WrappedSignature)}
    {signature : MultiKeySignature} :
    make Except.ok entries = .ok signature ↔ signature.indexed.Perm entries := by
  have keeps_iff (checked : List (Nat × WrappedSignature)) :
      List.Forall₂ (Keeps Except.ok) entries checked ↔
        (checked.map fun kept => (Int.ofNat kept.1, kept.2)) = entries := by
    rw [← List.forall₂_eq_eq_eq, List.forall₂_map_left_iff]
    constructor
    · intro keeps
      apply keeps.flip.imp
      rintro kept entry ⟨indexEq, wrappedEq⟩
      exact Prod.ext indexEq.symm (Except.ok.inj wrappedEq).symm
    · intro mapped
      apply mapped.flip.imp
      rintro entry kept rfl
      exact ⟨rfl, rfl⟩
  rw [make_eq_ok_iff]
  simp only [keeps_iff]
  constructor
  · rintro ⟨checked, rfl, perm⟩
    exact perm.map _
  · intro perm
    obtain ⟨distinct, inRange⟩ := signature.admissible_indexed.perm perm
    refine ⟨entries.map fun entry => (entry.1.toNat, entry.2), ?_, ?_⟩
    · rw [List.map_map]
      exact Signers.map_toNat_of_nonneg fun entry member => (inRange entry member).1
    · rw [← signature.indexed_toNat]
      exact perm.map _

/-- A multi-signature from keys is made of the given signatures at the positions of their keys. -/
theorem ofKeys_eq_ok_iff
    {key : MultiKey}
    {entries : List (PublicKey × Signature)}
    {signature : MultiKeySignature} :
    ofKeys key entries = .ok signature ↔
      ∃ kept,
        List.Forall₂ (KeepsKey PublicKey.single Signature.toWrapped key.keys) entries kept ∧
          signature.entries.Perm kept := by
  unfold ofKeys
  simp only [Error.bind_eq_ok_iff, Error.mapM_eq_ok_iff, make_eq_ok_iff]
  have indexOf_iff (member : SingleKey) (position : Nat) :
      key.indexOf member = .ok position ↔ key.keys.findIdx? (· == member) = some position := by
    unfold MultiKey.indexOf
    cases key.keys.findIdx? (· == member) <;> simp
  simp only [indexOf_iff, Except.ok.injEq]
  constructor
  · rintro ⟨indexed, found, kept, keeps, perm⟩
    refine ⟨kept, ?_, perm⟩
    apply (Error.forall₂_comp.mp ⟨indexed, found, keeps⟩).imp
    rintro entry kept ⟨_, ⟨member, memberEq, position, positionEq, ⟨⟩⟩, indexEq, wrappedEq⟩
    cases Int.ofNat.inj indexEq
    exact ⟨member, memberEq, positionEq, wrappedEq⟩
  · rintro ⟨kept, keeps, perm⟩
    have stepwise := keeps.imp
      (S := fun entry kept => ∃ indexed : Int × Signature,
        (∃ member, entry.1.single = .ok member ∧
          ∃ position, key.keys.findIdx? (· == member) = some position ∧
            (Int.ofNat position, entry.2) = indexed) ∧
          Keeps Signature.toWrapped indexed kept)
      (by
        rintro entry kept ⟨member, memberEq, positionEq, wrappedEq⟩
        exact ⟨(Int.ofNat kept.1, entry.2), ⟨member, memberEq, kept.1, positionEq, rfl⟩,
          rfl, wrappedEq⟩)
    obtain ⟨indexed, found, keeps⟩ := Error.forall₂_comp.mpr stepwise
    exact ⟨indexed, found, kept, keeps, perm⟩

theorem exists_make_iff {entries : List (Int × WrappedSignature)} :
    (∃ signature, make Except.ok entries = .ok signature) ↔ Signers.Admissible entries := by
  simp only [make_ok_eq_ok_iff]
  exact Signers.exists_indexed_perm_iff

end MultiKeySignature

end MoveClient
