import Mathlib.Data.List.GetD
import MoveClient.Key.MultiEd25519
import MoveClient.Key.MultiKey
import MoveClient.Proofs.Key.Signers

/-!
Bitmaps of positions.

Owns:
- for the number and for the octets that mark the positions of a multi-signature, that exactly its
  positions are marked;
- that the positions which are marked give the bitmap back.

Does not own: the signatures that stand beside a bitmap.
-/

namespace MoveClient

/-- The marked numbers below a bound are a list that has them in increasing order. -/
theorem filter_range_eq
    {positions : List Nat}
    {bound : Nat}
    {isMarked : Nat → Bool}
    (increasing : positions.Pairwise (· < ·))
    (marked : ∀ position, position ∈ positions ↔ position < bound ∧ isMarked position = true) :
    (List.range bound).filter isMarked = positions := by
  apply List.Pairwise.eq_of_mem_iff (r := (· < ·))
  · exact List.pairwise_lt_range.filter isMarked
  · exact increasing
  · intro position
    rw [List.mem_filter, List.mem_range, marked]

theorem Signers.lt_of_mem_positions
    {σ : Type}
    {signers : Signers σ}
    {position : Nat}
    (member : position ∈ signers.positions) :
    position < 32 := by
  obtain ⟨entry, entryMember, rfl⟩ := List.mem_map.mp member
  exact signers.bounded entry entryMember

/-! ## The number of the older format -/

namespace MultiEd25519Signature

private theorem testBit_foldl_or
    {positions : List Nat}
    {bits bit : Nat} :
    (positions.foldl (fun bits position => bits ||| 2 ^ (31 - position)) bits).testBit bit = true ↔
      bits.testBit bit = true ∨ ∃ position ∈ positions, 31 - position = bit := by
  induction positions generalizing bits with
  | nil => simp
  | cons position rest inductionHypothesis =>
      rw [List.foldl_cons, inductionHypothesis, Nat.testBit_or, Nat.testBit_two_pow]
      simp [or_assoc]

private theorem foldl_or_lt
    {positions : List Nat}
    {bits : Nat}
    (small : bits < 2 ^ (32 : Nat)) :
    positions.foldl (fun bits position => bits ||| 2 ^ (31 - position)) bits < 2 ^ (32 : Nat) := by
  induction positions generalizing bits with
  | nil => exact small
  | cons position rest inductionHypothesis =>
      apply inductionHypothesis
      exact Nat.or_lt_two_pow small (Nat.pow_lt_pow_right (by decide) (by omega))

theorem increasing_markedPositions (bits : Nat) : (markedPositions bits).Pairwise (· < ·) :=
  List.pairwise_lt_range.filter _

theorem bitmap_lt (signature : MultiEd25519Signature) : signature.bitmap < 2 ^ (32 : Nat) :=
  foldl_or_lt (by decide)

theorem testBit_bitmap
    {signature : MultiEd25519Signature}
    {bit : Nat} :
    signature.bitmap.testBit bit = true ↔
      ∃ position ∈ signature.positions, 31 - position = bit := by
  unfold bitmap
  rw [testBit_foldl_or]
  simp

theorem markedPositions_bitmap (signature : MultiEd25519Signature) :
    markedPositions signature.bitmap = signature.positions := by
  apply filter_range_eq signature.increasing_positions
  intro position
  rw [testBit_bitmap]
  constructor
  · intro member
    exact ⟨Signers.lt_of_mem_positions member, position, member, rfl⟩
  · rintro ⟨inRange, other, otherMember, otherEq⟩
    have otherInRange := Signers.lt_of_mem_positions otherMember
    have sameBit : other = position := by omega
    exact sameBit ▸ otherMember

/-- A number of 32 bits is the bitmap of the positions that it marks. -/
theorem bitmap_eq_of_positions
    {signature : MultiEd25519Signature}
    {bits : Nat}
    (small : bits < 2 ^ (32 : Nat))
    (positionsEq : signature.positions = markedPositions bits) :
    signature.bitmap = bits := by
  apply Nat.eq_of_testBit_eq
  intro bit
  rw [Bool.eq_iff_iff, testBit_bitmap, positionsEq]
  constructor
  · rintro ⟨position, member, rfl⟩
    exact (List.mem_filter.mp member).2
  · intro marked
    have bitLt : bit < 32 := by
      by_contra beyond
      have powLe : 2 ^ (32 : Nat) ≤ 2 ^ bit := Nat.pow_le_pow_right (by decide) (by omega)
      rw [Nat.testBit_lt_two_pow (Nat.lt_of_lt_of_le small powLe)] at marked
      cases marked
    have back : 31 - (31 - bit) = bit := by omega
    refine ⟨31 - bit, List.mem_filter.mpr ⟨List.mem_range.mpr (by omega), ?_⟩, back⟩
    rw [back]
    exact marked

end MultiEd25519Signature

/-! ## The octets of the newer format -/

namespace MultiKeySignature

/-- Whether octets mark a position. -/
def isMarked (bitmap : Bytes) (position : Nat) : Bool :=
  (bitmap.getD (position / 8) 0).toNat.testBit (7 - position % 8)

@[simp] theorem length_markPosition (bitmap : Bytes) (position : Nat) :
    (markPosition bitmap position).length = bitmap.length :=
  List.length_modify ..

/-- Setting the bit of a position marks that position and no other. -/
theorem isMarked_markPosition
    {bitmap : Bytes}
    {position other : Nat}
    (inside : position < 8 * bitmap.length) :
    isMarked (markPosition bitmap position) other = true ↔
      isMarked bitmap other = true ∨ position = other := by
  have octetInside : position / 8 < bitmap.length := by omega
  unfold isMarked markPosition
  rw [List.getD_eq_getElem?_getD, List.getD_eq_getElem?_getD, List.getElem?_modify]
  by_cases sameOctet : position / 8 = other / 8
  · rw [← sameOctet, List.getElem?_eq_getElem octetInside]
    have bitLt : 2 ^ (7 - position % 8) < 256 := by
      have := Nat.pow_le_pow_right (n := 2) (by decide) (show 7 - position % 8 ≤ 7 by omega)
      omega
    simp only [if_true, Option.map_eq_map, Option.map_some, Option.getD_some, UInt8.toNat_or,
      UInt8.toNat_ofNat', Nat.mod_eq_of_lt bitLt, Nat.testBit_or, Nat.testBit_two_pow,
      Bool.or_eq_true, decide_eq_true_eq]
    have sameBit : 7 - position % 8 = 7 - other % 8 ↔ position = other := by omega
    rw [sameBit]
  · have different : position ≠ other := by
      rintro rfl
      exact sameOctet rfl
    simp [sameOctet, different]

/-- Octets are determined by the positions that they mark. -/
theorem eq_of_isMarked
    {left right : Bytes}
    (lengths : left.length = right.length)
    (same : ∀ position, isMarked left position = isMarked right position) :
    left = right := by
  apply List.ext_getElem lengths
  intro index leftInside rightInside
  rw [← UInt8.toNat_inj]
  apply Nat.eq_of_testBit_eq
  intro bit
  by_cases small : bit < 8
  · have marksEq := same (8 * index + (7 - bit))
    have octetEq : (8 * index + (7 - bit)) / 8 = index := by omega
    have bitEq : 7 - (8 * index + (7 - bit)) % 8 = bit := by omega
    unfold isMarked at marksEq
    rw [octetEq, bitEq, List.getD_eq_getElem _ _ leftInside,
      List.getD_eq_getElem _ _ rightInside] at marksEq
    exact marksEq
  · have powLe : 2 ^ (8 : Nat) ≤ 2 ^ bit := Nat.pow_le_pow_right (by decide) (by omega)
    rw [Nat.testBit_lt_two_pow (Nat.lt_of_lt_of_le left[index].toNat_lt powLe),
      Nat.testBit_lt_two_pow (Nat.lt_of_lt_of_le right[index].toNat_lt powLe)]

private theorem isMarked_foldl
    {positions : List Nat}
    {bitmap : Bytes}
    {other : Nat}
    (inside : ∀ position ∈ positions, position < 8 * bitmap.length) :
    isMarked (positions.foldl markPosition bitmap) other = true ↔
      isMarked bitmap other = true ∨ other ∈ positions := by
  induction positions generalizing bitmap with
  | nil => simp
  | cons position rest inductionHypothesis =>
      obtain ⟨firstInside, restInside⟩ := List.forall_mem_cons.mp inside
      rw [List.foldl_cons, inductionHypothesis (by simpa using restInside),
        isMarked_markPosition firstInside, List.mem_cons, or_assoc, eq_comm (a := position)]

@[simp] theorem length_bitmap (signature : MultiKeySignature) : signature.bitmap.length = 4 := by
  have folded (positions : List Nat) (bitmap : Bytes) :
      (positions.foldl markPosition bitmap).length = bitmap.length := by
    induction positions generalizing bitmap with
    | nil => rfl
    | cons position rest inductionHypothesis =>
        rw [List.foldl_cons, inductionHypothesis, length_markPosition]
  exact folded _ _

theorem isMarked_replicate_zero (count position : Nat) :
    isMarked (List.replicate count 0) position = false := by
  have zero : (List.replicate count (0 : UInt8)).getD (position / 8) 0 = 0 := by
    rw [List.getD_eq_getElem?_getD, List.getElem?_replicate]
    split <;> rfl
  unfold isMarked
  rw [zero]
  exact Nat.zero_testBit _

theorem isMarked_bitmap
    {signature : MultiKeySignature}
    {position : Nat} :
    isMarked signature.bitmap position = true ↔ position ∈ signature.positions := by
  unfold bitmap
  rw [isMarked_foldl, isMarked_replicate_zero]
  · simp
  · intro other member
    rw [List.length_replicate]
    exact Signers.lt_of_mem_positions member

/-- Zero octets behind others mark nothing. -/
theorem isMarked_append_zeros (marks : Bytes) (count position : Nat) :
    isMarked (marks ++ List.replicate count 0) position = isMarked marks position := by
  unfold isMarked
  have octetEq : (marks ++ List.replicate count 0).getD (position / 8) 0 =
      marks.getD (position / 8) 0 := by
    rw [List.getD_eq_getElem?_getD, List.getD_eq_getElem?_getD, List.getElem?_append]
    split
    · rfl
    · rename_i beyond
      rw [List.getElem?_replicate, List.getElem?_eq_none (l := marks) (by omega)]
      split <;> rfl
  rw [octetEq]

theorem increasing_markedPositions (marks : Bytes) : (markedPositions marks).Pairwise (· < ·) :=
  List.pairwise_lt_range.filter _

theorem mem_markedPositions_iff
    {marks : Bytes}
    {position : Nat} :
    position ∈ markedPositions marks ↔ isMarked marks position = true := by
  have mem_iff : position ∈ markedPositions marks ↔
      position < 8 * marks.length ∧ isMarked marks position = true := by
    rw [← List.mem_range]
    exact List.mem_filter
  rw [mem_iff, and_iff_right_iff_imp]
  intro marked
  by_contra beyond
  unfold isMarked at marked
  rw [List.getD_eq_default _ _ (by omega)] at marked
  simp at marked

/-- The bitmap of a multi-signature is octets that mark its positions, filled up with zeros. -/
theorem bitmap_eq_iff
    {signature : MultiKeySignature}
    {marks : Bytes}
    (short : marks.length ≤ 4) :
    signature.bitmap = marks ++ List.replicate (4 - marks.length) 0 ↔
      signature.positions = markedPositions marks := by
  constructor
  · intro bitmapEq
    apply List.Pairwise.eq_of_mem_iff signature.increasing_positions
      (increasing_markedPositions marks)
    intro position
    rw [mem_markedPositions_iff, ← isMarked_bitmap, bitmapEq, isMarked_append_zeros]
  · intro positionsEq
    apply eq_of_isMarked
    · simp only [length_bitmap, List.length_append, List.length_replicate]
      omega
    · intro position
      rw [isMarked_append_zeros, Bool.eq_iff_iff, isMarked_bitmap, positionsEq,
        mem_markedPositions_iff]

end MultiKeySignature

end MoveClient
