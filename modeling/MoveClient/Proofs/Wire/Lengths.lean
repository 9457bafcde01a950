import Mathlib.Data.Nat.Digits.Defs
import Mathlib.Tactic.Ring
import MoveClient.Proofs.Wire.Decoders
import MoveClient.Proofs.Wire.Domain

/-!
The spelling of lengths, counts and variants.

Owns:
- `Reader.IsMinimalSpelling`, the digits in base 128 that a number is written with;
- which numbers are written, and with how many octets;
- how far a length is read, what is said of octets that spell none, and that a length is read
  exactly where it is written.

Does not own: what stands behind a length.
-/

namespace MoveClient

namespace Reader

variable {front rest : Bytes} {left number : Nat}

/-- Each of the octets says that another digit follows. -/
def AllMarked (front : Bytes) : Prop :=
  ∀ digit ∈ front, 128 ≤ digit.toNat

/-- The number whose digits in base 128, the least significant first, are the low seven bits of the
octets. -/
def numberOf (octets : Bytes) : Nat :=
  Nat.ofDigits 128 (octets.map fun digit => digit.toNat % 128)

/-- The octets are the digits of the number in base 128, the least significant first. Each but the
last is marked by its top bit, and the last is zero only if it is the only one. -/
def IsMinimalSpelling (octets : Bytes) (number : Nat) : Prop :=
  ∃ front last, octets = front ++ [last] ∧ AllMarked front ∧ last.toNat < 128 ∧
    (last = 0 → front = []) ∧ numberOf octets = number

theorem numberOf_nil : numberOf [] = 0 := rfl

theorem numberOf_cons (digit : UInt8) (octets : Bytes) :
    numberOf (digit :: octets) = digit.toNat % 128 + 128 * numberOf octets := by
  simp [numberOf, Nat.ofDigits_cons]

theorem numberOf_concat (octets : Bytes) (last : UInt8) :
    numberOf (octets ++ [last]) = numberOf octets + last.toNat % 128 * 128 ^ octets.length := by
  simp [numberOf, Nat.ofDigits_append, Nat.mul_comm]

theorem numberOf_lt (octets : Bytes) : numberOf octets < 128 ^ octets.length := by
  induction octets with
  | nil => exact Nat.one_pos
  | cons digit octets inductionHypothesis =>
      rw [numberOf_cons, List.length_cons, Nat.pow_succ]
      omega

/-! ## What is written -/

/-- A number is written with as few digits as it has. -/
theorem isMinimalSpelling_lengthOctets
    (bounded : number < 128 ^ left)
    (room : number = 0 → 0 < left) :
    IsMinimalSpelling (Emission.lengthOctets left number) number ∧
      (Emission.lengthOctets left number).length ≤ left := by
  induction left generalizing number with
  | zero =>
      rw [Nat.pow_zero] at bounded
      omega
  | succ left inductionHypothesis =>
      rw [Emission.lengthOctets]
      by_cases small : number < 128
      · have digitEq : (UInt8.ofNat number).toNat = number := by
          rw [UInt8.toNat_ofNat']
          omega
        rw [if_pos small]
        refine ⟨⟨[], _, rfl, List.forall_mem_nil _, by omega, fun _ => rfl, ?_⟩,
          Nat.succ_le_succ (Nat.zero_le _)⟩
        rw [numberOf_cons, numberOf_nil, digitEq]
        omega
      · have digitEq : (UInt8.ofNat (number % 128 + 128)).toNat = number % 128 + 128 := by
          rw [UInt8.toNat_ofNat']
          omega
        rw [Nat.pow_succ] at bounded
        have fewer : number / 128 < 128 ^ left := by omega
        obtain ⟨⟨front, last, octetsEq, marked, unmarked, minimal, numberEq⟩, short⟩ :=
          inductionHypothesis fewer (by omega)
        rw [if_neg small, octetsEq]
        rw [octetsEq] at short numberEq
        refine ⟨⟨_ :: front, last, rfl, ?_, unmarked, ?_, ?_⟩, Nat.succ_le_succ short⟩
        · exact List.forall_mem_cons.mpr ⟨by omega, marked⟩
        · intro zero
          -- The digits behind the first would be those of zero.
          rw [zero, minimal zero] at numberEq
          have nothing : numberOf ([] ++ [0]) = 0 := rfl
          omega
        · rw [numberOf_cons, numberEq, digitEq]
          omega

/-! ## What is read -/

/-- Marked digits are added up, and reading goes on behind them. -/
theorem lengthFrom_append
    (marked : AllMarked front)
    (left place sum : Nat)
    (rest : Bytes) :
    lengthFrom (front.length + left) place sum (front ++ rest) =
      lengthFrom left (place + front.length) (sum + numberOf front * 128 ^ place) rest := by
  induction front generalizing place sum with
  | nil => simp [numberOf_nil]
  | cons digit front inductionHypothesis =>
      obtain ⟨digitMarked, frontMarked⟩ := List.forall_mem_cons.mp marked
      have lengthEq : (digit :: front).length + left = front.length + left + 1 := by
        rw [List.length_cons]
        omega
      have sumEq : sum + digit.toNat % 128 * 128 ^ place + numberOf front * 128 ^ (place + 1) =
          sum + numberOf (digit :: front) * 128 ^ place := by
        rw [numberOf_cons]
        ring
      rw [lengthEq, List.cons_append, lengthFrom_cons, if_pos digitMarked,
        inductionHypothesis frontMarked, sumEq, List.length_cons, Nat.add_assoc place 1,
        Nat.add_comm 1]

/-- Behind marked digits, of which there may be more, reading goes on with the next. -/
theorem length_append
    (marked : AllMarked front)
    (short : front.length < maxLengthOctets)
    (rest : Bytes) :
    ∃ left, length (front ++ rest) = lengthFrom (left + 1) front.length (numberOf front) rest := by
  obtain ⟨left, roomEq⟩ : ∃ left, maxLengthOctets = front.length + (left + 1) :=
    ⟨maxLengthOctets - front.length - 1, by omega⟩
  refine ⟨left, ?_⟩
  rw [length, roomEq, lengthFrom_append marked, Nat.zero_add, Nat.zero_add, Nat.pow_zero,
    Nat.mul_one]

/-- Digits that could be followed by more are the whole input. -/
theorem length_of_truncated
    (marked : AllMarked front)
    (short : front.length < maxLengthOctets) :
    length front = .error (.codec (.endOfInput 1 0)) [] := by
  obtain ⟨left, read⟩ := length_append marked short []
  rw [List.append_nil] at read
  rw [read]
  rfl

/-- As many digits as there may be, and the last says that another follows. -/
theorem length_of_overlong
    (marked : AllMarked front)
    (full : front.length = maxLengthOctets) :
    length (front ++ rest) = .error (.codec .numberTooLong) rest := by
  rw [length, ← full, ← Nat.add_zero front.length, lengthFrom_append marked]
  rfl

/-- The last digit, of several, is zero. -/
theorem length_of_padded
    (marked : AllMarked front)
    (several : front ≠ [])
    (short : front.length < maxLengthOctets) :
    length (front ++ 0 :: rest) = .error (.codec .paddedNumber) rest := by
  obtain ⟨left, read⟩ := length_append marked short (0 :: rest)
  rw [read, lengthFrom_cons, if_neg (by decide), if_pos ⟨rfl, List.length_pos_iff.mpr several⟩]
  rfl

/-- The digits are those of a number that is too large. -/
theorem length_of_overflow
    {last : UInt8}
    (marked : AllMarked front)
    (short : front.length < maxLengthOctets)
    (unmarked : last.toNat < 128)
    (large : maxLength < numberOf (front ++ [last])) :
    length (front ++ last :: rest) =
      .error (.codec (.numberTooLarge (numberOf (front ++ [last])))) rest := by
  have nonzero : last ≠ 0 := by
    intro zero
    -- Without a last digit the number would be small.
    have frontSmall : numberOf front < 128 ^ 4 := Nat.lt_of_lt_of_le (numberOf_lt front)
      (Nat.pow_le_pow_right (by decide) (Nat.le_of_lt_succ short))
    have fourDigits : 128 ^ 4 ≤ maxLength := by decide
    have noDigit : (0 : UInt8).toNat % 128 = 0 := rfl
    rw [numberOf_concat, zero, noDigit, Nat.zero_mul, Nat.add_zero] at large
    exact Nat.lt_asymm large (Nat.lt_of_lt_of_le frontSmall fourDigits)
  obtain ⟨left, read⟩ := length_append marked short (last :: rest)
  rw [read, lengthFrom_cons, if_neg (Nat.not_le.mpr unmarked),
    if_neg fun padded => nonzero padded.1, ← numberOf_concat, if_pos large]
  rfl

/-- No more is consumed than a length may have, and nothing else is said than that the form is
wrong. -/
theorem lengthFrom_consumed (left place sum : Nat) (input : Bytes) :
    ∃ taken rest, taken.length ≤ left ∧ input = taken ++ rest ∧
      ((∃ number, lengthFrom left place sum input = .ok number rest) ∨
        ∃ cause, lengthFrom left place sum input = .error (.codec cause) rest) := by
  induction left generalizing place sum input with
  | zero => exact ⟨[], input, Nat.le_refl _, rfl, .inr ⟨_, rfl⟩⟩
  | succ left inductionHypothesis =>
      cases input with
      | nil => exact ⟨[], [], Nat.zero_le _, rfl, .inr ⟨_, rfl⟩⟩
      | cons digit input =>
          rw [lengthFrom_cons]
          split
          · obtain ⟨taken, rest, short, inputEq, outcome⟩ :=
              inductionHypothesis (place + 1) (sum + digit.toNat % 128 * 128 ^ place) input
            refine ⟨digit :: taken, rest, Nat.succ_le_succ short, ?_, outcome⟩
            rw [inputEq, List.cons_append]
          · refine ⟨[digit], input, Nat.succ_le_succ (Nat.zero_le _), rfl, ?_⟩
            split
            · exact .inr ⟨_, rfl⟩
            · split
              · exact .inr ⟨_, rfl⟩
              · exact .inl ⟨_, rfl⟩

end Reader

/-- A length that is written tells itself and where what follows begins. -/
theorem Emission.length_append_injective
    {number other : Nat}
    {rest otherRest : Bytes}
    (bounded : number ≤ maxLength)
    (otherBounded : other ≤ maxLength)
    (same : (length number).octets ++ rest = (length other).octets ++ otherRest) :
    number = other ∧ rest = otherRest := by
  have readBack {count : Nat} (fits : count ≤ maxLength) (tail : Bytes) :
      Reader.length ((length count).octets ++ tail) = .ok count tail := by
    obtain ⟨octets, written⟩ := isComplete_length_iff.mpr fits
    rw [written]
    exact Reader.length_eq_ok_iff.mpr ⟨octets, written, rfl⟩
  have read := readBack bounded rest
  rw [same, readBack otherBounded otherRest] at read
  cases read
  exact ⟨rfl, rfl⟩

namespace Layout

open Reader

/-- An integer is written as a length exactly where it is one. -/
theorem write_uleb128_eq_complete_iff
    {v : Int}
    {octets : Bytes} :
    Layout.uleb128.write (.int v) = .complete octets ↔
      ∃ number : Nat, v = number ∧ number ≤ maxLength ∧
        octets = Emission.lengthOctets maxLengthOctets number := by
  by_cases negative : v < 0
  · rw [write, Value.writeInteger, if_pos negative]
    constructor
    · intro written
      cases written
    · rintro ⟨number, rfl, _⟩
      omega
  · obtain ⟨number, rfl⟩ := Int.eq_ofNat_of_zero_le (Int.not_lt.mp negative)
    rw [write_uleb128, Emission.length]
    split
    case isTrue small =>
      constructor
      · intro written
        exact ⟨number, rfl, small, (Emission.complete.inj written).symm⟩
      · rintro ⟨other, numberEq, _, rfl⟩
        rw [Int.ofNat_inj.mp numberEq]
    case isFalse large =>
      constructor
      · intro written
        cases written
      · rintro ⟨other, numberEq, small, _⟩
        exact absurd (Int.ofNat_inj.mp numberEq ▸ small) large

theorem isComplete_write_uleb128_iff {v : Int} :
    (Layout.uleb128.write (.int v)).IsComplete ↔ 0 ≤ v ∧ v ≤ maxLength := by
  simp only [Emission.IsComplete, write_uleb128_eq_complete_iff]
  constructor
  · rintro ⟨_, number, rfl, small, _⟩
    exact ⟨Int.natCast_nonneg number, Int.ofNat_le.mpr small⟩
  · rintro ⟨positive, small⟩
    exact ⟨_, v.toNat, (Int.toNat_of_nonneg positive).symm, by omega, rfl⟩

theorem isMinimalSpelling_of_write_uleb128
    {v : Int}
    {octets : Bytes}
    (written : Layout.uleb128.write (.int v) = .complete octets) :
    IsMinimalSpelling octets v.toNat ∧ 1 ≤ octets.length ∧ octets.length ≤ maxLengthOctets := by
  obtain ⟨number, rfl, small, rfl⟩ := write_uleb128_eq_complete_iff.mp written
  have bounded : number < 128 ^ maxLengthOctets := Nat.lt_of_le_of_lt small (by decide)
  obtain ⟨spelling, short⟩ := isMinimalSpelling_lengthOctets bounded (fun _ => by decide)
  rw [Int.toNat_natCast]
  refine ⟨spelling, ?_, short⟩
  obtain ⟨front, last, octetsEq, _⟩ := spelling
  rw [octetsEq, List.length_append]
  exact Nat.le_add_left _ _

/-- An integer is read exactly where it is written. -/
theorem read_uleb128_eq_ok_iff
    {v : Int}
    {input rest : Bytes} :
    Layout.uleb128.read input = .ok (.int v) rest ↔
      ∃ octets, Layout.uleb128.write (.int v) = .complete octets ∧ input = octets ++ rest := by
  have plain : Layout.uleb128.IsPlain := trivial
  have paired : Layout.uleb128.IsPaired := trivial
  rw [read_eq_ok_iff_of_isPlain plain paired]
  constructor
  · intro given
    exact given.2
  · rintro ⟨octets, written, inputEq⟩
    obtain ⟨number, numberEq, small, _⟩ := write_uleb128_eq_complete_iff.mp written
    exact ⟨⟨⟨number, congrArg Value.int numberEq, small⟩, rfl⟩, octets, written, inputEq⟩

theorem read_uleb128_of_ok
    {input rest : Bytes}
    {number : Nat}
    (read : Reader.length input = .ok number rest) :
    Layout.uleb128.read input = .ok (.int number) rest := by
  simp [Layout.read, length_eq_ok_iff.mp read]

theorem read_uleb128_of_error
    {input rest : Bytes}
    {error : Error}
    (failed : Reader.length input = .error error rest) :
    Layout.uleb128.read input = .error error rest := by
  rw [Layout.read]
  show (Value.int <$> (Reader.length >>= fun number => pure (number : Int))) input = _
  simp only [Functor.map, EStateM.map, bind_of_error failed]

/-- Exactly the integers from zero to the largest length are written, as one to five digits in base
128, and they are read exactly where they are written. Of anything else, whatever it is that is
wrong with it, the reader says so, and it never looks at more than five octets. -/
theorem uleb128_exact :
    (∀ v : Int,
      ((Layout.uleb128.write (.int v)).IsComplete ↔ 0 ≤ v ∧ v ≤ maxLength) ∧
        ∀ octets, Layout.uleb128.write (.int v) = .complete octets →
          IsMinimalSpelling octets v.toNat ∧ 1 ≤ octets.length ∧ octets.length ≤ 5) ∧
    (∀ (v : Int) (input rest : Bytes),
      Layout.uleb128.read input = .ok (.int v) rest ↔
        ∃ octets, Layout.uleb128.write (.int v) = .complete octets ∧ input = octets ++ rest) ∧
    (∀ input : Bytes, ∃ taken rest, taken.length ≤ 5 ∧ input = taken ++ rest ∧
      ((∃ v, Layout.uleb128.read input = .ok (.int v) rest) ∨
        ∃ cause, Layout.uleb128.read input = .error (.codec cause) rest)) ∧
    ∀ (front rest : Bytes) (last : UInt8), AllMarked front →
      (front.length < 5 → Layout.uleb128.read front = .error (.codec (.endOfInput 1 0)) []) ∧
      (front.length = 5 →
        Layout.uleb128.read (front ++ rest) = .error (.codec .numberTooLong) rest) ∧
      (front ≠ [] → front.length < 5 →
        Layout.uleb128.read (front ++ 0 :: rest) = .error (.codec .paddedNumber) rest) ∧
      (front.length < 5 → last.toNat < 128 → maxLength < numberOf (front ++ [last]) →
        Layout.uleb128.read (front ++ last :: rest) =
          .error (.codec (.numberTooLarge (numberOf (front ++ [last])))) rest) := by
  refine ⟨fun v => ⟨isComplete_write_uleb128_iff,
    fun octets => isMinimalSpelling_of_write_uleb128⟩,
    fun v input rest => read_uleb128_eq_ok_iff, fun input => ?_,
    fun front rest last marked => ⟨?_, ?_, ?_, ?_⟩⟩
  · obtain ⟨taken, rest, short, inputEq, outcome⟩ := lengthFrom_consumed maxLengthOctets 0 0 input
    refine ⟨taken, rest, short, inputEq, ?_⟩
    rcases outcome with ⟨number, read⟩ | ⟨cause, failed⟩
    · exact .inl ⟨number, read_uleb128_of_ok read⟩
    · exact .inr ⟨cause, read_uleb128_of_error failed⟩
  · intro short
    exact read_uleb128_of_error (length_of_truncated marked short)
  · intro full
    exact read_uleb128_of_error (length_of_overlong marked full)
  · intro several short
    exact read_uleb128_of_error (length_of_padded marked several short)
  · intro short unmarked large
    exact read_uleb128_of_error (length_of_overflow marked short unmarked large)

end Layout

end MoveClient
