import MoveClient.Address.Text
import MoveClient.Text.Numeral

/-!
The digits that spell an address.

Owns:
- `Address.SpelledBy`, which says of digits and an address, without reading them, that the digits
  spell the address;
- that the relaxed form is read exactly from the digits that spell an address, after `0x` or not;
- that the printed form of an address spells it.

Does not own: the strict form.
-/

namespace MoveClient

/-! ## Numbers behind digits and octets -/

/-- Digits in front count with the weight of the places behind them. -/
theorem Numeral.foldl_digits
    (radix initial : Nat)
    (digits : List Nat) :
    digits.foldl (fun number digit => radix * number + digit) initial =
      initial * radix ^ digits.length + ofDigits radix digits := by
  induction digits generalizing initial with
  | nil => simp [ofDigits]
  | cons digit digits inductionHypothesis =>
      rw [ofDigits, List.foldl_cons, List.foldl_cons, inductionHypothesis, inductionHypothesis,
        Nat.mul_zero, Nat.zero_add, List.length_cons, Nat.pow_succ, Nat.add_mul, Nat.mul_comm radix,
        Nat.mul_assoc, Nat.mul_comm radix, Nat.add_assoc]

/-- Zeros in front of digits do not change their number. -/
theorem Numeral.ofDigits_zeros
    (radix count : Nat)
    (digits : List Nat) :
    ofDigits radix (List.replicate count 0 ++ digits) = ofDigits radix digits := by
  induction count with
  | zero => rfl
  | succ count inductionHypothesis => exact inductionHypothesis

namespace Bytes

theorem ofLittleEndian_append (first second : Bytes) :
    ofLittleEndian (first ++ second) =
      ofLittleEndian first + 256 ^ first.length * ofLittleEndian second := by
  induction first with
  | nil => simp [ofLittleEndian]
  | cons octet rest inductionHypothesis =>
      rw [List.cons_append, ofLittleEndian, ofLittleEndian, inductionHypothesis, List.length_cons,
        Nat.pow_succ, Nat.mul_add, Nat.add_assoc, ← Nat.mul_assoc, Nat.mul_comm 256 (256 ^ _)]

theorem ofBigEndian_cons
    (octet : UInt8)
    (rest : Bytes) :
    ofBigEndian (octet :: rest) = octet.toNat * 256 ^ rest.length + ofBigEndian rest := by
  rw [ofBigEndian, List.reverse_cons, ofLittleEndian_append, List.length_reverse, Nat.add_comm]
  simp [ofLittleEndian, ofBigEndian, Nat.mul_comm]

end Bytes

/-! ## Hexadecimal digits -/

/-- Digits are far from blanks, and stand for one of sixteen values. -/
theorem not_isAsciiBlank_of_hexDigitValue?
    {c : Char}
    {value : Nat}
    (found : hexDigitValue? c = some value) :
    isAsciiBlank c = false ∧ value < 16 := by
  have order (left right : Char) : left ≤ right ↔ left.toNat ≤ right.toNat := Iff.rfl
  have blank : isAsciiBlank c = false ↔ ¬ (c.toNat = 32 ∨ 9 ≤ c.toNat ∧ c.toNat ≤ 13) := by
    simp [isAsciiBlank, order, ← Char.toNat_inj]
  rw [blank]
  simp only [hexDigitValue?, order, Char.reduceToNat] at found
  split at found
  · cases found
    omega
  · split at found
    · cases found
      omega
    · split at found
      · cases found
        omega
      · cases found

namespace Bytes

/-- Pairs of digits spell the octets of the number they denote. -/
theorem ofHexDigits_of_values
    {size : Nat}
    {digits : List Char}
    {values : List Nat}
    (lengthEq : digits.length = 2 * size)
    (valued : digits.map hexDigitValue? = values.map some) :
    ∃ octets, ofHexDigits digits = some octets ∧ octets.length = size ∧
      ofBigEndian octets = Numeral.ofDigits 16 values := by
  induction size generalizing digits values with
  | zero =>
      rw [List.length_eq_zero_iff.mp lengthEq] at valued ⊢
      rw [List.map_eq_nil_iff.mp valued.symm]
      exact ⟨[], rfl, rfl, rfl⟩
  | succ size inductionHypothesis =>
      match digits, lengthEq with
      | [_], lengthEq =>
          rw [List.length_singleton] at lengthEq
          omega
      | c :: d :: digits, lengthEq =>
          rw [List.map_cons, List.map_cons] at valued
          obtain ⟨high, others, rfl, highFound, valued⟩ := List.map_eq_cons_iff.mp valued.symm
          obtain ⟨low, values, rfl, lowFound, valued⟩ := List.map_eq_cons_iff.mp valued
          replace valued := valued.symm
          replace highFound := highFound.symm
          replace lowFound := lowFound.symm
          have lengthRest : digits.length = 2 * size := by
            simp only [List.length_cons] at lengthEq
            omega
          obtain ⟨octets, read, octetsLength, number⟩ := inductionHypothesis lengthRest valued
          obtain ⟨notBlank, highLt⟩ := not_isAsciiBlank_of_hexDigitValue? highFound
          obtain ⟨_, lowLt⟩ := not_isAsciiBlank_of_hexDigitValue? lowFound
          refine ⟨UInt8.ofNat (16 * high + low) :: octets, ?_, ?_, ?_⟩
          · simp [ofHexDigits, notBlank, highFound, lowFound, read]
          · rw [List.length_cons, octetsLength]
          · have places : values.length = 2 * octets.length := by
              have lengths := congrArg List.length valued
              simp only [List.length_map] at lengths
              omega
            have pair : Numeral.ofDigits 16 (high :: low :: values) =
                (16 * high + low) * 16 ^ (2 * octets.length) + Numeral.ofDigits 16 values := by
              rw [← places, ← Numeral.foldl_digits]
              simp [Numeral.ofDigits]
            have small : (16 * high + low) % 2 ^ 8 = 16 * high + low :=
              Nat.mod_eq_of_lt (by omega)
            rw [ofBigEndian_cons, number, pair, Nat.pow_mul, UInt8.toNat_ofNat', small]

end Bytes

/-! ## Addresses -/

namespace Address

/-- One to 64 hexadecimal digits of either case, whose number is that of the octets of the
address. -/
def SpelledBy (address : Address) (digits : List Char) : Prop :=
  digits ≠ [] ∧ digits.length ≤ 64 ∧
    ∃ values : List Nat, digits.map hexDigitValue? = values.map some ∧
      Numeral.ofDigits 16 values = Bytes.ofBigEndian address.bytes

variable {address : Address} {digits : List Char}

theorem ext_ofBigEndian
    {other : Address}
    (same : Bytes.ofBigEndian address.bytes = Bytes.ofBigEndian other.bytes) :
    address = other := by
  rcases address with ⟨octets, lengthEq⟩
  rcases other with ⟨others, othersLength⟩
  have spelled := congrArg (Bytes.bigEndian 32) same
  rw [Bytes.bigEndian_ofBigEndian lengthEq, Bytes.bigEndian_ofBigEndian othersLength] at spelled
  subst spelled
  rfl

/-- Digits spell one address only. -/
theorem SpelledBy.unique
    {other : Address}
    (spelled : address.SpelledBy digits)
    (otherSpelled : other.SpelledBy digits) :
    address = other := by
  obtain ⟨_, _, values, valued, number⟩ := spelled
  obtain ⟨_, _, others, othersValued, othersNumber⟩ := otherSpelled
  have same : values = others :=
    List.map_inj_right (fun _ _ => Option.some.inj) |>.mp (valued.symm.trans othersValued)
  apply ext_ofBigEndian
  rw [← number, ← othersNumber, same]

/-- Digits that do not fill an address are read as if zeros stood in front. -/
theorem ofDigits?_of_values
    {values : List Nat}
    (short : digits.length ≤ 64)
    (valued : digits.map hexDigitValue? = values.map some) :
    ∃ address, ofDigits? digits = some address ∧
      Numeral.ofDigits 16 values = Bytes.ofBigEndian address.bytes := by
  have filled : (List.replicate (64 - digits.length) '0' ++ digits).map hexDigitValue? =
      (List.replicate (64 - digits.length) 0 ++ values).map some := by
    rw [List.map_append, List.map_append, List.map_replicate, List.map_replicate, valued]
    rfl
  have lengthEq : (List.replicate (64 - digits.length) '0' ++ digits).length = 2 * 32 := by
    rw [List.length_append, List.length_replicate]
    omega
  obtain ⟨octets, read, octetsLength, number⟩ := Bytes.ofHexDigits_of_values lengthEq filled
  refine ⟨⟨octets, octetsLength⟩, ?_, ?_⟩
  · simp only [ofDigits?, read, ofBytes?, octetsLength, dif_pos]
  · rw [number, Numeral.ofDigits_zeros]

theorem exists_values_iff :
    (∃ values : List Nat, digits.map hexDigitValue? = values.map some) ↔
      digits.all isHexDigit = true := by
  induction digits with
  | nil => simp
  | cons c digits inductionHypothesis =>
      rw [List.all_cons, Bool.and_eq_true, ← inductionHypothesis, isHexDigit,
        Option.isSome_iff_exists]
      apply Iff.intro
      · intro given
        rcases given with ⟨values, valued⟩
        rw [List.map_cons] at valued
        obtain ⟨value, values, rfl, found, valued⟩ := List.map_eq_cons_iff.mp valued.symm
        exact ⟨⟨value, found.symm⟩, values, valued.symm⟩
      · intro given
        rcases given with ⟨⟨value, found⟩, values, valued⟩
        exact ⟨value :: values, by rw [List.map_cons, List.map_cons, found, valued]⟩

/-- The relaxed form is read exactly from digits that spell the address, after `0x` or not. -/
theorem parseRelaxed_eq_ok_iff {text : String} :
    parseRelaxed text = .ok address ↔ address.SpelledBy (dropMarker text.toList) := by
  generalize digitsEq : dropMarker text.toList = digits
  rw [parseRelaxed, digitsEq]
  by_cases empty : digits.length < 1
  · rw [if_pos empty]
    apply iff_of_false nofun
    intro given
    rcases given with ⟨nonempty, _⟩
    exact nonempty (List.length_eq_zero_iff.mp (by omega))
  rw [if_neg empty]
  by_cases long : 64 < digits.length
  · rw [if_pos long]
    apply iff_of_false nofun
    intro given
    rcases given with ⟨_, short, _⟩
    omega
  rw [if_neg long]
  have nonempty : digits ≠ [] := by
    intro nil
    rw [nil] at empty
    exact empty Nat.zero_lt_one
  by_cases allDigits : digits.all isHexDigit = true
  · obtain ⟨values, valued⟩ := exists_values_iff.mpr allDigits
    obtain ⟨found, read, number⟩ := ofDigits?_of_values (by omega) valued
    rw [if_pos allDigits, read]
    have spelled : found.SpelledBy digits := ⟨nonempty, by omega, values, valued, number⟩
    apply Iff.intro
    · intro same
      cases same
      exact spelled
    · intro otherSpelled
      rw [spelled.unique otherSpelled]
  · rw [if_neg allDigits]
    apply iff_of_false nofun
    intro given
    rcases given with ⟨_, _, values, valued, _⟩
    exact allDigits (exists_values_iff.mp ⟨values, valued⟩)

/-! ## The printed form -/

/-- The digits of octets spell their number. -/
theorem exists_values_hexDigits (octets : Bytes) :
    ∃ values : List Nat, (Bytes.hexDigits octets).map hexDigitValue? = values.map some ∧
      Numeral.ofDigits 16 values = Bytes.ofBigEndian octets := by
  have allDigits : (Bytes.hexDigits octets).all isHexDigit = true := by
    rw [List.all_eq_true]
    intro c member
    obtain ⟨octet, _, digit⟩ := List.mem_flatMap.mp member
    have octetLt := octet.toNat_lt
    have high : hexDigitValue? (hexDigit (octet.toNat / 16)) = some (octet.toNat / 16) :=
      hexDigitValue?_hexDigit (by omega)
    have low : hexDigitValue? (hexDigit (octet.toNat % 16)) = some (octet.toNat % 16) :=
      hexDigitValue?_hexDigit (by omega)
    rcases List.mem_cons.mp digit with rfl | digit
    · rw [isHexDigit, high]
      rfl
    · rw [List.mem_singleton.mp digit, isHexDigit, low]
      rfl
  obtain ⟨values, valued⟩ := exists_values_iff.mpr allDigits
  obtain ⟨others, read, _, number⟩ :=
    Bytes.ofHexDigits_of_values (Bytes.hexDigits_length octets) valued
  rw [Bytes.ofHexDigits_hexDigits] at read
  cases read
  exact ⟨values, valued, number.symm⟩

/-- Of a special address only the last octet is not zero, and it is a single digit. -/
theorem bytes_of_isSpecial
    (special : address.isSpecial = true) :
    ∃ last : UInt8, last < 16 ∧ address.bytes = List.replicate 31 0 ++ [last] := by
  rw [isSpecial, Bool.and_eq_true, List.all_eq_true, List.all_eq_true] at special
  obtain ⟨zeros, small⟩ := special
  have front : address.bytes.take 31 = List.replicate 31 0 := by
    rw [List.eq_replicate_iff]
    refine ⟨by rw [List.length_take, address.length_eq]; rfl, ?_⟩
    intro octet member
    exact eq_of_beq (zeros octet member)
  have backLength : (address.bytes.drop 31).length = 1 := by
    rw [List.length_drop, address.length_eq]
  obtain ⟨last, back⟩ := List.length_eq_one_iff.mp backLength
  refine ⟨last, ?_, ?_⟩
  · have lastSmall := small last (by rw [back]; exact List.mem_singleton_self last)
    simpa using lastSmall
  · rw [← front, ← back, List.take_append_drop]

/-- The digits behind the marker of the printed form spell the address. -/
theorem spelledBy_text (address : Address) :
    ∃ digits, address.text.toList = '0' :: 'x' :: digits ∧ address.SpelledBy digits := by
  by_cases special : address.isSpecial = true
  · obtain ⟨last, small, octetsEq⟩ := bytes_of_isSpecial special
    have lastLt : last.toNat < 16 := UInt8.lt_iff_toNat_lt.mp small
    have digitsEq : (Bytes.hexDigits address.bytes).drop 63 = [hexDigit last.toNat] := by
      have high : last.toNat / 16 = 0 := by omega
      have low : last.toNat % 16 = last.toNat := Nat.mod_eq_of_lt lastLt
      rw [octetsEq, Bytes.hexDigits, List.flatMap_append, List.flatMap_singleton, Bytes.hexPair, high,
        low]
      rfl
    refine ⟨[hexDigit last.toNat], by simp [text, special, digitsEq], nofun, by simp,
      [last.toNat], ?_, ?_⟩
    · rw [List.map_singleton, hexDigitValue?_hexDigit lastLt]
      rfl
    · rw [octetsEq]
      simp [Numeral.ofDigits, Bytes.ofBigEndian, Bytes.ofLittleEndian, List.replicate]
  · obtain ⟨values, valued, number⟩ := exists_values_hexDigits address.bytes
    have lengthEq : (Bytes.hexDigits address.bytes).length = 64 := by
      rw [Bytes.hexDigits_length, address.length_eq]
    refine ⟨Bytes.hexDigits address.bytes, by simp [text, special], ?_, by omega, values, valued,
      number⟩
    intro nil
    rw [nil] at lengthEq
    cases lengthEq

end Address

end MoveClient
