import MoveClient.Proofs.Address.Spelling
import MoveClient.Proofs.Key.WireForm

/-!
What multi-signatures of both formats are made of, and how they are laid out.

Owns:
- that the order in which signatures are given does not matter, which lists are refused, and when a
  refused position is noticed before a signature that cannot be taken;
- that both formats mark the same positions by the same four octets;
- which signature of an input is read for which of the positions that are marked in it.

Does not own: the octets of a single signature.
-/

namespace MoveClient

/-! ## Positions in the order of their marks -/

/-- Of the numbers below a bound that pass a test, each stands behind those before it that pass. -/
theorem countP_range_of_getElem?_filter
    {passes : Nat → Bool}
    {bound index number : Nat}
    (found : ((List.range bound).filter passes)[index]? = some number) :
    (List.range number).countP passes = index := by
  induction bound with
  | zero => simp at found
  | succ bound inductionHypothesis =>
      rw [List.range_succ, List.filter_append, List.getElem?_append,
        ← List.countP_eq_length_filter] at found
      split at found
      · exact inductionHypothesis found
      · rw [List.filter_singleton] at found
        cases passed : passes bound with
        | false =>
            rw [passed, cond_false] at found
            cases found
        | true =>
            rw [passed, cond_true, List.getElem?_singleton] at found
            split at found
            · cases found
              omega
            · cases found

namespace MultiKeySignature

/-- The number of positions before the given one that octets mark. -/
def rank (marks : Bytes) (position : Nat) : Nat :=
  (List.range position).countP (isMarked marks)

end MultiKeySignature

namespace Signers

open MultiKeySignature (isMarked markedPositions mem_markedPositions_iff rank)

variable {σ : Type} {signers : Signers σ} {marks : Bytes}

/-- The signatures stand for the positions that octets mark: as many signatures as marked bits, and
each for the position with as many marks before it as there are signatures before it. -/
structure PairedBy (signers : Signers σ) (marks : Bytes) (signatures : List σ) : Prop where
  count : signatures.length = rank marks (8 * marks.length)
  entryCount : signers.entries.length = signatures.length
  ranked : ∀ (index : Nat) (entry : Nat × σ), signers.entries[index]? = some entry →
    signatures[index]? = some entry.2 ∧ isMarked marks entry.1 = true ∧ rank marks entry.1 = index
  increasing : signers.positions.Pairwise (· < ·)

/-- Where exactly the positions are marked, the signatures in their order stand for the marks. -/
theorem pairedBy_of_isMarked
    (marked : ∀ position, isMarked marks position = true ↔ position ∈ signers.positions) :
    signers.PairedBy marks signers.signatures := by
  have positionsEq : markedPositions marks = signers.positions := by
    apply List.Pairwise.eq_of_mem_iff (r := (· < ·))
      (MultiKeySignature.increasing_markedPositions marks) signers.increasing_positions
    intro position
    rw [mem_markedPositions_iff, marked]
  refine ⟨?_, ?_, ?_, signers.increasing_positions⟩
  · rw [rank, List.countP_eq_length_filter]
    show signers.signatures.length = (markedPositions marks).length
    rw [positionsEq, length_positions]
    exact List.length_map ..
  · exact (List.length_map ..).symm
  · intro index entry found
    have positionFound : signers.positions[index]? = some entry.1 := by
      rw [positions, List.getElem?_map, found]
      rfl
    refine ⟨?_, ?_, ?_⟩
    · rw [signatures, List.getElem?_map, found]
      rfl
    · exact (marked entry.1).mpr (List.mem_of_getElem? positionFound)
    · rw [← positionsEq] at positionFound
      exact countP_range_of_getElem?_filter positionFound

end Signers

/-! ## The same octets for the same positions -/

namespace MultiKeySignature

/-- A bit of the number that octets spell is the mark of a position. -/
theorem testBit_ofBigEndian
    {octets : Bytes}
    {position : Nat}
    (inside : position < 8 * octets.length) :
    (Bytes.ofBigEndian octets).testBit (8 * octets.length - 1 - position) =
      isMarked octets position := by
  induction octets generalizing position with
  | nil => cases inside
  | cons octet rest inductionHypothesis =>
      have restLt : Bytes.ofBigEndian rest < 2 ^ (8 * rest.length) := by
        have := Bytes.ofBigEndian_lt rest
        rwa [show 256 = 2 ^ (8 : Nat) from rfl, ← Nat.pow_mul] at this
      rw [List.length_cons] at inside
      rw [Bytes.ofBigEndian_cons, show 256 = 2 ^ (8 : Nat) from rfl, ← Nat.pow_mul, Nat.mul_comm,
        Nat.testBit_two_pow_mul_add _ restLt, List.length_cons]
      by_cases first : position < 8
      · have behind : ¬ 8 * (rest.length + 1) - 1 - position < 8 * rest.length := by omega
        have bitEq : 8 * (rest.length + 1) - 1 - position - 8 * rest.length = 7 - position % 8 := by
          omega
        have octetEq : position / 8 = 0 := by omega
        rw [if_neg behind, bitEq, isMarked, octetEq]
        rfl
      · have before : 8 * (rest.length + 1) - 1 - position < 8 * rest.length := by omega
        have bitEq : 8 * (rest.length + 1) - 1 - position =
            8 * rest.length - 1 - (position - 8) := by
          omega
        have octetEq : position / 8 = (position - 8) / 8 + 1 := by omega
        have placeEq : position % 8 = (position - 8) % 8 := by omega
        rw [if_pos before, bitEq, inductionHypothesis (by omega), isMarked, isMarked, octetEq,
          placeEq]
        rfl

end MultiKeySignature

namespace MultiEd25519Signature

/-- The four octets of the older format that mark the positions. -/
def marks (signature : MultiEd25519Signature) : Bytes :=
  Bytes.bigEndian 4 signature.bitmap

/-- The octets of the older format mark its positions as those of the newer one do. -/
theorem isMarked_marks
    {signature : MultiEd25519Signature}
    {position : Nat} :
    MultiKeySignature.isMarked signature.marks position = true ↔
      position ∈ signature.positions := by
  have lengthEq : signature.marks.length = 4 := Bytes.bigEndian_length 4 _
  by_cases inside : position < 32
  · have whole : Bytes.ofBigEndian signature.marks = signature.bitmap := by
      rw [marks, Bytes.ofBigEndian_bigEndian]
      exact Nat.mod_eq_of_lt signature.bitmap_lt
    have bit : (Bytes.ofBigEndian signature.marks).testBit
          (8 * signature.marks.length - 1 - position) =
        MultiKeySignature.isMarked signature.marks position :=
      MultiKeySignature.testBit_ofBigEndian (by omega)
    rw [← bit, whole, lengthEq, testBit_bitmap]
    constructor
    · rintro ⟨other, member, sameBit⟩
      have otherLt := Signers.lt_of_mem_positions member
      have same : other = position := by omega
      exact same ▸ member
    · intro member
      exact ⟨position, member, by omega⟩
  · apply iff_of_false
    · intro marked
      have member := MultiKeySignature.mem_markedPositions_iff.mpr marked
      have below := List.mem_range.mp (List.mem_filter.mp member).1
      omega
    · intro member
      exact inside (Signers.lt_of_mem_positions member)

/-- Both formats mark the same positions by the same octets. -/
theorem marks_eq_bitmap
    {signature : MultiEd25519Signature}
    {newer : MultiKeySignature}
    (samePositions : ∀ position, position ∈ newer.positions ↔ position ∈ signature.positions) :
    signature.marks = newer.bitmap := by
  apply MultiKeySignature.eq_of_isMarked
  · rw [MultiKeySignature.length_bitmap]
    exact Bytes.bigEndian_length 4 _
  · intro position
    rw [Bool.eq_iff_iff, isMarked_marks, MultiKeySignature.isMarked_bitmap, samePositions]

end MultiEd25519Signature

/-! ## What a format makes of entries -/

namespace Signers

variable {α σ : Type} {take : α → Except Error σ} {entries others : List (Int × α)}
  {signers : Signers σ}

/-- An entry as a format takes it: the same position, and what the format makes of the signature. -/
def TakenAs
    (take : α → Except Error σ)
    (entry : Int × α)
    (taken : Int × σ) : Prop :=
  entry.1 = taken.1 ∧ take entry.2 = .ok taken.2

/-- The signatures are those that a format takes of the given entries, each at its position. -/
def Holds
    (take : α → Except Error σ)
    (entries : List (Int × α))
    (signers : Signers σ) : Prop :=
  ∃ taken, List.Forall₂ (TakenAs take) entries taken ∧ signers.indexed.Perm taken

theorem holds_ok_iff
    {given : List (Int × σ)} :
    Holds Except.ok given signers ↔ signers.indexed.Perm given := by
  constructor
  · rintro ⟨taken, takenAs, perm⟩
    have same : given = taken := by
      rw [← List.forall₂_eq_eq_eq]
      apply takenAs.imp
      rintro entry other ⟨indexEq, memberEq⟩
      exact Prod.ext indexEq (Except.ok.inj memberEq)
    rwa [same]
  · intro perm
    exact ⟨given, List.forall₂_same.mpr fun _ _ => ⟨rfl, rfl⟩, perm⟩

/-- The order of the entries does not matter. -/
theorem Holds.perm
    (holds : Holds take entries signers)
    (perm : entries.Perm others) :
    Holds take others signers := by
  obtain ⟨taken, takenAs, kept⟩ := holds
  obtain ⟨otherTaken, othersTakenAs, otherPerm⟩ := List.perm_comp_forall₂ perm.symm takenAs
  exact ⟨otherTaken, othersTakenAs, kept.trans otherPerm.symm⟩

theorem exists_takenAs_iff :
    (∃ taken, List.Forall₂ (TakenAs take) entries taken) ↔
      ∀ entry ∈ entries, ∃ member, take entry.2 = .ok member := by
  induction entries with
  | nil => simp
  | cons entry rest inductionHypothesis =>
      rw [List.forall_mem_cons, ← inductionHypothesis]
      constructor
      · rintro ⟨taken, takenAs⟩
        obtain ⟨first, others, entryTakenAs, restTakenAs, rfl⟩ :=
          List.forall₂_cons_left_iff.mp takenAs
        exact ⟨⟨first.2, entryTakenAs.2⟩, others, restTakenAs⟩
      · rintro ⟨⟨member, memberEq⟩, taken, restTakenAs⟩
        exact ⟨(entry.1, member) :: taken, .cons ⟨rfl, memberEq⟩ restTakenAs⟩

/-- What a format takes stands at the given positions. -/
theorem map_fst_of_takenAs
    {taken : List (Int × σ)}
    (takenAs : List.Forall₂ (TakenAs take) entries taken) :
    entries.map Prod.fst = taken.map Prod.fst := by
  rw [← List.forall₂_eq_eq_eq, List.forall₂_map_left_iff, List.forall₂_map_right_iff]
  exact takenAs.imp fun _ _ entryTakenAs => entryTakenAs.1

theorem admissible_iff_of_positions
    {given : List (Int × σ)}
    (positionsEq : entries.map Prod.fst = given.map Prod.fst) :
    Admissible entries ↔ Admissible given := by
  have inRange_iff {β : Type} (list : List (Int × β)) :
      (∀ entry ∈ list, 0 ≤ entry.1 ∧ entry.1 < maxSigners) ↔
        ∀ index ∈ list.map Prod.fst, 0 ≤ index ∧ index < maxSigners := by
    rw [List.forall_mem_map]
  rw [Admissible, Admissible, inRange_iff, inRange_iff, positionsEq]

/-- Exactly admissible entries whose signatures a format takes are held. -/
theorem exists_holds_iff :
    (∃ signers, Holds take entries signers) ↔
      Admissible entries ∧ ∀ entry ∈ entries, ∃ member, take entry.2 = .ok member := by
  rw [← exists_takenAs_iff]
  constructor
  · rintro ⟨signers, taken, takenAs, perm⟩
    have admissible := exists_indexed_perm_iff.mp ⟨signers, perm⟩
    exact ⟨(admissible_iff_of_positions (map_fst_of_takenAs takenAs)).mpr admissible,
      taken, takenAs⟩
  · rintro ⟨admissible, taken, takenAs⟩
    have takenAdmissible :=
      (admissible_iff_of_positions (map_fst_of_takenAs takenAs)).mp admissible
    obtain ⟨signers, perm⟩ := exists_indexed_perm_iff.mpr takenAdmissible
    exact ⟨signers, taken, takenAs, perm⟩

theorem mem_iff_of_takenAs
    {taken : List (Int × σ)}
    (takenAs : List.Forall₂ (TakenAs take) entries taken)
    {index : Int}
    {member : σ} :
    (index, member) ∈ taken ↔ ∃ given, (index, given) ∈ entries ∧ take given = .ok member := by
  induction takenAs with
  | nil => simp
  | @cons entry first rest others entryTakenAs _ inductionHypothesis =>
      have first_iff :
          (index, member) = first ↔ ∃ given, (index, given) = entry ∧ take given = .ok member := by
        constructor
        · rintro rfl
          exact ⟨entry.2, Prod.ext entryTakenAs.1.symm rfl, entryTakenAs.2⟩
        · rintro ⟨given, rfl, memberEq⟩
          exact Prod.ext entryTakenAs.1 (Except.ok.inj (memberEq.symm.trans entryTakenAs.2))
      simp only [List.mem_cons, inductionHypothesis, first_iff, or_and_right, exists_or]

/-- Each signature that is held is one that was given for its position. -/
theorem Holds.mem_entries_iff
    (holds : Holds take entries signers)
    {position : Nat}
    {member : σ} :
    (position, member) ∈ signers.entries ↔
      ∃ given, (Int.ofNat position, given) ∈ entries ∧ take given = .ok member := by
  obtain ⟨taken, takenAs, perm⟩ := holds
  rw [← mem_iff_of_takenAs takenAs, ← perm.mem_iff, indexed, List.mem_map]
  constructor
  · intro kept
    exact ⟨_, kept, rfl⟩
  · rintro ⟨_, kept, ⟨⟩⟩
    exact kept

theorem Holds.mem_positions_iff
    (holds : Holds take entries signers)
    {position : Nat} :
    position ∈ signers.positions ↔ Int.ofNat position ∈ entries.map Prod.fst := by
  obtain ⟨taken, takenAs, perm⟩ := holds
  have indices : signers.indexed.map Prod.fst = signers.positions.map Int.ofNat := by
    simp [indexed, positions]
  rw [map_fst_of_takenAs takenAs, ← (perm.map Prod.fst).mem_iff, indices]
  exact (List.mem_map_of_injective fun _ _ => Int.ofNat.inj).symm

/-- How multi-signatures are made of entries: `take` is what a format makes of a signature. -/
structure Gathers
    (take : α → Except Error σ)
    (make : List (Int × α) → Except Error (Signers σ)) : Prop where
  makes_iff : ∀ entries : List (Int × α),
    (∃ signers, make entries = .ok signers) ↔
      Admissible entries ∧ ∀ entry ∈ entries, ∃ member, take entry.2 = .ok member
  /-- The order of the entries does not matter. -/
  order_irrelevant : ∀ entries others : List (Int × α), entries.Perm others →
    ∀ signers, make entries = .ok signers ↔ make others = .ok signers
  /-- Each signature is kept for the position it is given for. -/
  keeps : ∀ (entries : List (Int × α)) (signers : Signers σ), make entries = .ok signers →
    ∀ position member, (position, member) ∈ signers.entries ↔
      ∃ given, (Int.ofNat position, given) ∈ entries ∧ take given = .ok member
  /-- A repeated position and one out of range are wrong formats; a signature that the format does
  not take may be noticed before. -/
  refuses : ∀ entries : List (Int × α), ¬ Admissible entries →
    ∃ error, make entries = .error error ∧
      ((∃ cause, error = .keyFormat cause) ∨ ∃ entry ∈ entries, take entry.2 = .error error)

/-- Behind given positions a position is refused: it is out of range, or one of them. -/
def RefusedBehind (before : List Int) (index : Int) : Prop :=
  ¬ (0 ≤ index ∧ index < maxSigners) ∨ index ∈ before

/-- Where exactly the signatures that are held are made, the order is irrelevant. -/
theorem gathers_of_holds
    {make : List (Int × α) → Except Error (Signers σ)}
    (made_iff : ∀ entries signers, make entries = .ok signers ↔ Holds take entries signers)
    (cause : ∀ entries error, make entries = .error error →
      (∃ cause, error = .keyFormat cause) ∨ ∃ entry ∈ entries, take entry.2 = .error error) :
    Gathers take make where
  makes_iff entries := by
    simp only [made_iff]
    exact exists_holds_iff
  order_irrelevant entries others perm signers := by
    rw [made_iff, made_iff]
    exact ⟨fun holds => holds.perm perm, fun holds => holds.perm perm.symm⟩
  keeps entries signers made position member := ((made_iff _ _).mp made).mem_entries_iff
  refuses entries inadmissible := by
    cases made : make entries with
    | ok signers =>
        have holds := (made_iff _ _).mp made
        exact absurd (exists_holds_iff.mp ⟨signers, holds⟩).1 inadmissible
    | error error => exact ⟨error, rfl, cause entries error made⟩

/-- How multi-signatures are laid out: `spell` writes signatures and the octets that mark their
positions, and `MayMark` says of a number of octets whether it is read as marks. -/
structure HasLayout
    (MayMark : Nat → Prop)
    (spell : List σ → Bytes → Emission)
    (write : Signers σ → Emission)
    (read : Reader (Signers σ)) : Prop where
  /-- Exactly the positions are marked, by four octets. -/
  marks : ∀ signers : Signers σ, ∃ octets : Bytes,
    octets.length = 4 ∧
      (∀ position, MultiKeySignature.isMarked octets position = true ↔
        position ∈ signers.positions) ∧
      write signers = spell signers.signatures octets
  reads_back : ∀ signers : Signers σ, ∃ octets,
    (write signers).result = .ok octets ∧ ∀ rest, read (octets ++ rest) = .ok signers rest
  /-- Whatever is read are signatures that stand for the marks behind them. -/
  pairs : ∀ (input rest : Bytes) (signers : Signers σ), read input = .ok signers rest →
    ∃ (signatures : List σ) (octets : Bytes),
      (spell signatures octets).Spells input rest ∧ MayMark octets.length ∧
        signers.PairedBy octets signatures

end Signers

/-! ## The newer format -/

namespace MultiKeySignature

variable {α : Type} {take : α → Except Error WrappedSignature}

/-- Signatures and the octets that mark their positions. -/
def spell (signatures : List WrappedSignature) (octets : Bytes) : Emission :=
  .sequence (signatures.map WrappedSignature.write) ++ .bytes octets

theorem make_eq_ok_iff_holds
    {entries : List (Int × α)}
    {signature : MultiKeySignature} :
    make take entries = .ok signature ↔ signature.Holds take entries := by
  rw [make_eq_ok_iff]
  constructor
  · rintro ⟨checked, keeps, perm⟩
    refine ⟨checked.map fun kept => (Int.ofNat kept.1, kept.2), ?_,
      Signers.indexed_perm_map_iff.mpr perm⟩
    rw [List.forall₂_map_right_iff]
    exact keeps
  · rintro ⟨taken, takenAs, perm⟩
    obtain ⟨_, inRange⟩ := signature.admissible_indexed.perm perm
    refine ⟨taken.map fun entry => (entry.1.toNat, entry.2), ?_, ?_⟩
    · have positionsEq :=
        Signers.map_toNat_of_nonneg fun entry member => (inRange entry member).1
      rw [List.forall₂_map_right_iff]
      rw [← positionsEq, List.forall₂_map_right_iff] at takenAs
      exact takenAs
    · rw [← signature.indexed_toNat]
      exact perm.map _

/-- A failing check is a wrong format, or the failure of a signature. -/
theorem cause_of_checkEntries_eq_error
    {seen : List Int}
    {entries : List (Int × α)}
    {error : Error}
    (failed : checkEntries take seen entries = .error error) :
    (∃ cause, error = .keyFormat cause) ∨ ∃ entry ∈ entries, take entry.2 = .error error := by
  induction entries generalizing seen with
  | nil => cases failed
  | cons entry rest inductionHypothesis =>
      rw [checkEntries] at failed
      split at failed
      · cases failed
        exact .inl ⟨_, rfl⟩
      · split at failed
        · cases failed
          exact .inl ⟨_, rfl⟩
        · obtain refused | ⟨_, _, failed⟩ := Error.bind_eq_error_iff.mp failed
          · exact .inr ⟨entry, List.mem_cons_self .., refused⟩
          · obtain restFailed | ⟨_, _, failed⟩ := Error.bind_eq_error_iff.mp failed
            · obtain cause | ⟨other, member, refused⟩ := inductionHypothesis restFailed
              · exact .inl cause
              · exact .inr ⟨other, List.mem_cons_of_mem _ member, refused⟩
            · cases failed

theorem cause_of_make_eq_error
    {entries : List (Int × α)}
    {error : Error}
    (failed : make take entries = .error error) :
    (∃ cause, error = .keyFormat cause) ∨ ∃ entry ∈ entries, take entry.2 = .error error := by
  unfold make at failed
  obtain failed | ⟨checked, _, failed⟩ := Error.bind_eq_error_iff.mp failed
  · exact cause_of_checkEntries_eq_error failed
  · split at failed
    · cases failed
    · cases failed
      exact .inl ⟨_, rfl⟩

theorem gathers (take : α → Except Error WrappedSignature) : Signers.Gathers take (make take) :=
  Signers.gathers_of_holds (fun _ _ => make_eq_ok_iff_holds) fun _ _ => cause_of_make_eq_error

/-- A position is looked at before the signature that is given for it. -/
theorem exists_checkEntries_of_refused
    {seen : List Int}
    {entry : Int × α}
    {rest : List (Int × α)}
    (refused : Signers.RefusedBehind seen entry.1) :
    ∃ cause, checkEntries take seen (entry :: rest) = .error (.keyFormat cause) := by
  obtain ⟨index, given⟩ := entry
  rw [checkEntries]
  cases positionEq : Signers.position? index with
  | none => exact ⟨_, rfl⟩
  | some position =>
      have inRange : 0 ≤ index ∧ index < maxSigners := by
        rw [← Signers.position?_isSome_iff, positionEq]
        rfl
      have repeated : index ∈ seen := refused.resolve_left (not_not_intro inRange)
      have contained : seen.contains index = true := List.contains_iff_mem.mpr repeated
      exact ⟨_, if_pos contained⟩

/-- Behind a position that is not refused the checks go on once its signature is taken. -/
theorem checkEntries_cons_eq_keyFormat_iff
    (otherCause : ∀ given cause, take given ≠ .error (.keyFormat cause))
    {seen : List Int}
    {entry : Int × α}
    {rest : List (Int × α)}
    {cause : KeyFormatError}
    (passes : ¬ Signers.RefusedBehind seen entry.1) :
    checkEntries take seen (entry :: rest) = .error (.keyFormat cause) ↔
      (∃ member, take entry.2 = .ok member) ∧
        checkEntries take (entry.1 :: seen) rest = .error (.keyFormat cause) := by
  obtain ⟨index, given⟩ := entry
  obtain ⟨inRange, fresh⟩ := not_or.mp passes
  obtain ⟨position, positionEq⟩ :=
    Option.isSome_iff_exists.mp (Signers.position?_isSome_iff.mpr (not_not.mp inRange))
  have notContained : ¬ seen.contains index = true := by
    rw [List.contains_iff_mem]
    exact fresh
  rw [checkEntries, positionEq]
  show (if seen.contains index then _ else _) = _ ↔ _
  rw [if_neg notContained]
  cases taken : take given with
  | error error =>
      constructor
      · intro failed
        cases failed
        exact absurd taken (otherCause given cause)
      · rintro ⟨⟨member, ⟨⟩⟩, _⟩
  | ok member =>
      rw [and_iff_right ⟨member, rfl⟩]
      cases checkEntries take (index :: seen) rest with
      | error error => rfl
      | ok others =>
          constructor
          · intro failed
            cases failed
          · intro failed
            cases failed

/-- The checks find a wrong format exactly if a position is refused whose forerunners all have
signatures that are taken. -/
theorem exists_checkEntries_eq_keyFormat_iff
    (otherCause : ∀ given cause, take given ≠ .error (.keyFormat cause))
    {seen : List Int}
    {entries : List (Int × α)} :
    (∃ cause, checkEntries take seen entries = .error (.keyFormat cause)) ↔
      ∃ front entry rest, entries = front ++ entry :: rest ∧
        Signers.RefusedBehind (front.map Prod.fst ++ seen) entry.1 ∧
        ∀ earlier ∈ front, ∃ member, take earlier.2 = .ok member := by
  induction entries generalizing seen with
  | nil => simp [checkEntries]
  | cons first others inductionHypothesis =>
      by_cases refused : Signers.RefusedBehind seen first.1
      · apply iff_of_true (exists_checkEntries_of_refused refused)
        exact ⟨[], first, others, rfl, refused, fun _ member => absurd member List.not_mem_nil⟩
      · -- Behind the first entry its position counts as seen, no longer as one of the front.
        have moved (front : List (Int × α)) (index : Int) :
            Signers.RefusedBehind (front.map Prod.fst ++ first.1 :: seen) index ↔
              Signers.RefusedBehind ((first :: front).map Prod.fst ++ seen) index := by
          unfold Signers.RefusedBehind
          simp [or_left_comm]
        simp only [checkEntries_cons_eq_keyFormat_iff otherCause refused, exists_and_left,
          inductionHypothesis, moved]
        constructor
        · rintro ⟨firstTaken, front, entry, rest, rfl, entryRefused, frontTaken⟩
          exact ⟨first :: front, entry, rest, rfl, entryRefused,
            List.forall_mem_cons.mpr ⟨firstTaken, frontTaken⟩⟩
        · rintro ⟨front, entry, rest, splits, entryRefused, frontTaken⟩
          cases front with
          | nil =>
              cases splits
              exact absurd entryRefused refused
          | cons _ front =>
              cases splits
              obtain ⟨firstTaken, frontTaken⟩ := List.forall_mem_cons.mp frontTaken
              exact ⟨firstTaken, front, entry, rest, rfl, entryRefused, frontTaken⟩

/-- Entries that pass the checks are made into a multi-signature. -/
theorem exists_make_of_checkEntries
    {entries : List (Int × α)}
    {checked : List (Nat × WrappedSignature)}
    (passed : checkEntries take [] entries = .ok checked) :
    ∃ signature, make take entries = .ok signature := by
  obtain ⟨keeps, bounded, distinct, _⟩ := checkEntries_eq_ok_iff.mp passed
  have admissible :
      Signers.Admissible (checked.map fun kept => (Int.ofNat kept.1, kept.2)) := by
    constructor
    · rw [List.map_map]
      rw [map_fst_of_keeps keeps] at distinct
      exact distinct
    · intro entry member
      obtain ⟨kept, keptMember, rfl⟩ := List.mem_map.mp member
      exact ⟨Int.natCast_nonneg _, Int.ofNat_lt.mpr (bounded kept keptMember)⟩
  obtain ⟨signature, perm⟩ := Signers.exists_indexed_perm_iff.mpr admissible
  exact ⟨signature, make_eq_ok_iff.mpr ⟨checked, keeps, Signers.indexed_perm_map_iff.mp perm⟩⟩

/-- When construction finds a wrong format. -/
theorem exists_make_eq_keyFormat_iff
    (otherCause : ∀ given cause, take given ≠ .error (.keyFormat cause))
    {entries : List (Int × α)} :
    (∃ cause, make take entries = .error (.keyFormat cause)) ↔
      ∃ front entry rest, entries = front ++ entry :: rest ∧
        Signers.RefusedBehind (front.map Prod.fst) entry.1 ∧
        ∀ earlier ∈ front, ∃ member, take earlier.2 = .ok member := by
  have refused_iff (front : List (Int × α)) (index : Int) :
      Signers.RefusedBehind (front.map Prod.fst) index ↔
        Signers.RefusedBehind (front.map Prod.fst ++ []) index := by
    rw [List.append_nil]
  simp only [refused_iff]
  rw [← exists_checkEntries_eq_keyFormat_iff otherCause]
  cases passed : checkEntries take [] entries with
  | error error =>
      have failed : make take entries = .error error := by
        unfold make
        rw [passed]
        rfl
      simp [failed]
  | ok checked =>
      obtain ⟨signature, made⟩ := exists_make_of_checkEntries passed
      simp [made]

theorem read_eq_ok_iff_spells
    {signature : MultiKeySignature}
    {input rest : Bytes} :
    read input = .ok signature rest ↔
      ∃ octets : Bytes,
        (octets.length ≤ 4 ∧
          signature.bitmap = octets ++ List.replicate (4 - octets.length) 0) ∧
          (spell signature.signatures octets).Spells input rest := by
  have signatures_iff (middle : Bytes) :
      (Emission.sequence (signature.signatures.map WrappedSignature.write)).Spells input middle ↔
        WirePart.Found
          (.plain (Emission.length signature.signatures.length).octets ::
            signature.signatures.flatMap (fun member => [.plain member.write.octets]))
          input middle := by
    rw [← Reader.sequence_eq_ok_iff fun _ _ _ => WrappedSignature.read_eq_ok_iff,
      Reader.sequence_eq_ok_iff_found fun _ _ _ =>
        WrappedSignature.read_eq_ok_iff.trans (WrappedSignature.isComplete_write _).found_iff.symm]
    exact and_iff_right signature.length_signatures_le
  simp only [spell, Emission.spells_append_iff, signatures_iff]
  rw [read_eq_ok_iff, parts, WirePart.found_append_iff]
  simp only [found_marks_iff signature.length_bitmap]
  constructor
  · rintro ⟨middle, found, octets, marked, spelled⟩
    exact ⟨octets, marked, middle, found, spelled⟩
  · rintro ⟨octets, marked, middle, found, spelled⟩
    exact ⟨middle, found, octets, marked, spelled⟩

theorem reads_back (signature : MultiKeySignature) :
    ∃ octets, (write signature).result = .ok octets ∧
      ∀ rest, read (octets ++ rest) = .ok signature rest := by
  have carries := signature.write_carries
  refine ⟨_, Emission.result_eq_ok_iff.mpr carries, ?_⟩
  intro rest
  exact read_eq_ok_iff.mpr (WirePart.found_written signature.parts rest)

/-- The signatures of an input stand for the marks behind them. -/
theorem pairedBy_of_read
    {signature : MultiKeySignature}
    {input rest : Bytes}
    (wasRead : read input = .ok signature rest) :
    ∃ (signatures : List WrappedSignature) (octets : Bytes),
      (spell signatures octets).Spells input rest ∧ octets.length ≤ 4 ∧
        signature.PairedBy octets signatures := by
  obtain ⟨octets, ⟨short, bitmapEq⟩, spelled⟩ := read_eq_ok_iff_spells.mp wasRead
  refine ⟨signature.signatures, octets, spelled, short, ?_⟩
  apply Signers.pairedBy_of_isMarked
  intro position
  rw [← isMarked_bitmap, bitmapEq, isMarked_append_zeros]

theorem hasLayout : Signers.HasLayout (· ≤ 4) spell write read where
  marks signature := ⟨bitmap signature, length_bitmap signature, fun _ => isMarked_bitmap, rfl⟩
  reads_back := reads_back
  pairs _ _ _ wasRead := pairedBy_of_read wasRead

end MultiKeySignature

/-! ## The older format -/

namespace MultiEd25519Signature

/-- Signatures and the octets that mark their positions. -/
def spell (signatures : List (Octets 64)) (octets : Bytes) : Emission :=
  .bytes (signatures.flatMap Octets.bytes ++ octets)

theorem make_eq_ok_iff_holds
    {entries : List (Int × Octets 64)}
    {signature : MultiEd25519Signature} :
    make entries = .ok signature ↔ signature.Holds Except.ok entries := by
  rw [make_eq_ok_iff, Signers.holds_ok_iff]

theorem cause_of_make_eq_error
    {entries : List (Int × Octets 64)}
    {error : Error}
    (failed : make entries = .error error) :
    ∃ cause, error = .keyFormat cause := by
  simp only [make] at failed
  split at failed
  · split at failed
    · cases failed
      exact ⟨_, rfl⟩
    · split at failed
      · cases failed
      · cases failed
        exact ⟨_, rfl⟩
  · cases failed
    exact ⟨_, rfl⟩

theorem gathers : Signers.Gathers Except.ok make :=
  Signers.gathers_of_holds (fun _ _ => make_eq_ok_iff_holds)
    fun _ _ failed => .inl (cause_of_make_eq_error failed)

theorem reads_back (signature : MultiEd25519Signature) :
    ∃ octets, (write signature).result = .ok octets ∧
      ∀ rest, read (octets ++ rest) = .ok signature rest := by
  obtain ⟨octets, emitted⟩ := signature.isComplete_write
  refine ⟨octets, Emission.result_eq_ok_iff.mpr emitted, ?_⟩
  intro rest
  exact read_eq_ok_iff.mpr ⟨octets, emitted, rfl⟩

theorem hasLayout : Signers.HasLayout (· = 4) spell write read where
  marks signature :=
    ⟨marks signature, Bytes.bigEndian_length 4 _, fun _ => isMarked_marks, rfl⟩
  reads_back := reads_back
  pairs _ _ signature wasRead :=
    ⟨signature.signatures, marks signature, read_eq_ok_iff.mp wasRead, Bytes.bigEndian_length 4 _,
      Signers.pairedBy_of_isMarked fun _ => isMarked_marks⟩

end MultiEd25519Signature

/-- A signature that cannot be wrapped is of an unsupported kind. -/
theorem Signature.unsupported_of_toWrapped_eq_error
    {signature : Signature}
    {error : Error}
    (failed : signature.toWrapped = .error error) :
    ∃ cause, error = .unsupported cause := by
  cases signature with
  | bare signature =>
      cases signature with
      | ed25519 | slhDsa => cases failed
      | ecdsa curve =>
          cases curve with
          | secp256k1 => cases failed
          | secp256r1 =>
              cases failed
              exact ⟨_, rfl⟩
  | wrapped => cases failed
  | multiEd25519 | multiKey =>
      cases failed
      exact ⟨_, rfl⟩

/-- Multi-signatures of both formats do not depend on the order in which signatures are given, keep
each for its position, and refuse repeated positions and those out of range, unless a signature that
cannot be taken is noticed first. In the newer format a refused position is noticed as such exactly
if all signatures in front of it can be wrapped. Multi-signatures are laid out as signatures and the
marks of their positions: what is written is read back, and of any input the signature with the
marks of as many positions before its own is read for a position. The same positions are marked by
the same octets in both formats. -/
theorem multiSignatures_layout (entries : List (Int × Signature)) :
    ((∃ cause, MultiKeySignature.make Signature.toWrapped entries = .error (.keyFormat cause)) ↔
      ∃ front entry rest, entries = front ++ entry :: rest ∧
        Signers.RefusedBehind (front.map Prod.fst) entry.1 ∧
        ∀ earlier ∈ front, ∃ wrapped, earlier.2.toWrapped = .ok wrapped) ∧
    (∀ (α : Type) (take : α → Except Error WrappedSignature),
      Signers.Gathers take (MultiKeySignature.make take)) ∧
    Signers.Gathers Except.ok MultiEd25519Signature.make ∧
    Signers.HasLayout (· ≤ 4) MultiKeySignature.spell MultiKeySignature.write
      MultiKeySignature.read ∧
    Signers.HasLayout (· = 4) MultiEd25519Signature.spell MultiEd25519Signature.write
      MultiEd25519Signature.read ∧
    (∀ (newer : MultiKeySignature) (others : List (Int × Octets 64))
      (older : MultiEd25519Signature),
      MultiKeySignature.make Signature.toWrapped entries = .ok newer →
      MultiEd25519Signature.make others = .ok older →
      (∀ index, index ∈ entries.map Prod.fst ↔ index ∈ others.map Prod.fst) →
        ∃ octets : Bytes, octets.length = 4 ∧
          (∀ position, MultiKeySignature.isMarked octets position = true ↔
            Int.ofNat position ∈ entries.map Prod.fst) ∧
          MultiKeySignature.write newer = MultiKeySignature.spell newer.signatures octets ∧
          MultiEd25519Signature.write older =
            MultiEd25519Signature.spell older.signatures octets) := by
  have otherCause (given : Signature) (cause : KeyFormatError) :
      given.toWrapped ≠ .error (.keyFormat cause) := by
    intro failed
    obtain ⟨_, ⟨⟩⟩ := Signature.unsupported_of_toWrapped_eq_error failed
  refine ⟨MultiKeySignature.exists_make_eq_keyFormat_iff otherCause,
    fun _ => MultiKeySignature.gathers, MultiEd25519Signature.gathers,
    MultiKeySignature.hasLayout, MultiEd25519Signature.hasLayout, ?_⟩
  intro newer others older newerMade olderMade sameIndices
  have newerPositions (position : Nat) :
      position ∈ newer.positions ↔ Int.ofNat position ∈ entries.map Prod.fst :=
    (MultiKeySignature.make_eq_ok_iff_holds.mp newerMade).mem_positions_iff
  have olderPositions (position : Nat) :
      position ∈ older.positions ↔ Int.ofNat position ∈ others.map Prod.fst :=
    (MultiEd25519Signature.make_eq_ok_iff_holds.mp olderMade).mem_positions_iff
  have sameMarks : MultiEd25519Signature.marks older = MultiKeySignature.bitmap newer := by
    apply MultiEd25519Signature.marks_eq_bitmap
    intro position
    rw [newerPositions, olderPositions, sameIndices]
  refine ⟨MultiKeySignature.bitmap newer, MultiKeySignature.length_bitmap newer, ?_, rfl, ?_⟩
  · intro position
    rw [MultiKeySignature.isMarked_bitmap, newerPositions]
  · rw [← sameMarks]
    rfl

/-- Signatures for the positions 9 and 2, in both orders and both formats. -/
theorem multiSignatures_layout_swapped :
    ∃ (newer : MultiKeySignature) (older : MultiEd25519Signature) (octets : Bytes),
      MultiKeySignature.make Signature.toWrapped
        [(9, .bare (.ed25519 (.zero 64))), (2, .bare (.slhDsa (.zero 7856)))] = .ok newer ∧
      MultiKeySignature.make Signature.toWrapped
        [(2, .bare (.slhDsa (.zero 7856))), (9, .bare (.ed25519 (.zero 64)))] = .ok newer ∧
      MultiEd25519Signature.make [(2, .zero 64), (9, .zero 64)] = .ok older ∧
      MultiKeySignature.write newer = MultiKeySignature.spell newer.signatures octets ∧
      MultiEd25519Signature.write older = MultiEd25519Signature.spell older.signatures octets ∧
      MultiKeySignature.isMarked octets 9 = true ∧
      ∃ error, MultiEd25519Signature.make [(2, .zero 64), (2, .zero 64)] = .error error := by
  obtain ⟨-, newerGathers, olderGathers, -, -, sameMarks⟩ := multiSignatures_layout
    [(9, .bare (.ed25519 (.zero 64))), (2, .bare (.slhDsa (.zero 7856)))]
  have gathers := newerGathers Signature Signature.toWrapped
  obtain ⟨newer, newerMade⟩ := (gathers.makes_iff
    [(9, .bare (.ed25519 (.zero 64))), (2, .bare (.slhDsa (.zero 7856)))]).mpr
      ⟨⟨by decide, by simp [maxSigners]⟩,
        List.forall_mem_cons.mpr ⟨⟨_, rfl⟩, List.forall_mem_singleton.mpr ⟨_, rfl⟩⟩⟩
  obtain ⟨older, olderMade⟩ := (olderGathers.makes_iff [(2, .zero 64), (9, .zero 64)]).mpr
    ⟨⟨by decide, by simp [maxSigners]⟩, fun entry _ => ⟨entry.2, rfl⟩⟩
  obtain ⟨octets, -, marked, newerWritten, olderWritten⟩ :=
    sameMarks newer _ older newerMade olderMade fun index => by simp [or_comm]
  obtain ⟨error, refused, -⟩ := olderGathers.refuses [(2, .zero 64), (2, .zero 64)]
    fun admissible => absurd admissible.1 (by decide)
  exact ⟨newer, older, octets, newerMade,
    (gathers.order_irrelevant _ _ (.swap ..) newer).mp newerMade, olderMade, newerWritten,
    olderWritten, (marked 9).mpr (List.mem_cons_self ..), error, refused⟩

/-- A signature that cannot be wrapped is noticed before the position behind it, repeated or out of
range. The older format looks at the positions alone. -/
theorem multiSignatures_hide_repeated_position :
    MultiKeySignature.make Signature.toWrapped
        [(0, .bare (.ecdsa .secp256r1 (.zero 64))), (0, .bare (.ed25519 (.zero 64)))] =
      .error (.unsupported .bareSecp256r1Signature) ∧
    MultiKeySignature.make Signature.toWrapped
        [(0, .bare (.ecdsa .secp256r1 (.zero 64))), (32, .bare (.ed25519 (.zero 64)))] =
      .error (.unsupported .bareSecp256r1Signature) ∧
    MultiEd25519Signature.make [(0, .zero 64), (0, .zero 64)] =
      .error (.keyFormat .duplicateEd25519Signer) ∧
    MultiEd25519Signature.make [(0, .zero 64), (32, .zero 64)] =
      .error (.keyFormat (.signerIndex 32)) :=
  ⟨rfl, rfl, rfl, rfl⟩

end MoveClient
