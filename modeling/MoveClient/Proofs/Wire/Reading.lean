import MoveClient.Proofs.Wire.Spelling

/-!
Readers take exactly what emissions spell.

Owns:
- the laws that open a reader built from others;
- for every basic reader, that it gives a value exactly where the wire form of that value stands
  in front of the input, so that a value has one wire form;
- the same law for counted values and for values that may be absent, from that of their elements.

Does not own: readers of types, payloads and transactions.
-/

namespace MoveClient.Reader

variable {α β : Type}

/-! ## Readers built from others -/

@[simp] theorem pure_eq_ok_iff
    {value result : α}
    {input rest : Bytes} :
    (pure value : Reader α) input = .ok result rest ↔ value = result ∧ input = rest := by
  change EStateM.Result.ok value input = .ok result rest ↔ _
  simp

@[simp] theorem throw_ne_ok
    {error : Error}
    {result : α}
    {input rest : Bytes} :
    ¬ (throw error : Reader α) input = .ok result rest := by
  change ¬ EStateM.Result.error error input = .ok result rest
  simp

@[simp] theorem bind_eq_ok_iff
    {reader : Reader α}
    {next : α → Reader β}
    {result : β}
    {input rest : Bytes} :
    (reader >>= next) input = .ok result rest ↔
      ∃ value middle, reader input = .ok value middle ∧ next value middle = .ok result rest := by
  cases read : reader input with
  | ok value middle =>
      simp only [bind, EStateM.bind, read, EStateM.Result.ok.injEq]
      constructor
      · intro resultEq
        exact ⟨value, middle, ⟨rfl, rfl⟩, resultEq⟩
      · rintro ⟨_, _, ⟨rfl, rfl⟩, resultEq⟩
        exact resultEq
  | error error middle => simp [bind, EStateM.bind, read]

@[simp] theorem map_eq_ok_iff
    {reader : Reader α}
    {image : α → β}
    {result : β}
    {input rest : Bytes} :
    (image <$> reader) input = .ok result rest ↔
      ∃ value, reader input = .ok value rest ∧ image value = result := by
  cases read : reader input with
  | ok value middle =>
      simp only [Functor.map, EStateM.map, read, EStateM.Result.ok.injEq]
      constructor
      · rintro ⟨image_eq, rfl⟩
        exact ⟨value, ⟨rfl, rfl⟩, image_eq⟩
      · rintro ⟨other, ⟨rfl, rfl⟩, image_eq⟩
        exact ⟨image_eq, rfl⟩
  | error error middle => simp [Functor.map, EStateM.map, read]

/-! ## Octets -/

@[simp] theorem octet_eq_ok_iff
    {digit : UInt8}
    {input rest : Bytes} :
    octet input = .ok digit rest ↔ input = digit :: rest := by
  cases input <;> simp [octet]

private theorem splitExact_eq_some_iff
    {count : Nat}
    {input taken rest : Bytes} :
    splitExact count input = some (taken, rest) ↔
      taken.length = count ∧ input = taken ++ rest := by
  induction count generalizing input taken with
  | zero => cases taken <;> simp [splitExact, eq_comm]
  | succ count inductionHypothesis =>
      cases input with
      | nil => cases taken <;> simp [splitExact]
      | cons first others =>
          cases taken with
          | nil => simp [splitExact]
          | cons octet taken =>
              simp only [splitExact, Option.map_eq_some_iff, Prod.exists, Prod.mk.injEq,
                List.cons.injEq, List.length_cons, Nat.add_right_cancel_iff, List.cons_append]
              constructor
              · rintro ⟨taken', rest', split, ⟨rfl, rfl⟩, rfl⟩
                obtain ⟨lengths, others_eq⟩ := inductionHypothesis.mp split
                exact ⟨lengths, rfl, others_eq⟩
              · rintro ⟨lengths, rfl, others_eq⟩
                exact ⟨taken, rest, inductionHypothesis.mpr ⟨lengths, others_eq⟩, ⟨rfl, rfl⟩, rfl⟩

theorem octets_eq_ok_iff
    {count : Nat}
    {input taken rest : Bytes} :
    octets count input = .ok taken rest ↔ taken.length = count ∧ input = taken ++ rest := by
  rw [← splitExact_eq_some_iff]
  unfold octets
  cases split : splitExact count input with
  | none => simp
  | some parts => cases parts; simp

/-! ## Lengths -/

/-- The first octet of a length is the whole length below 128, and its last seven bits marked by
the top bit else. -/
private theorem cons_eq_lengthOctets_iff
    {left number : Nat}
    {digit : UInt8}
    {input rest : Bytes} :
    digit :: input = Emission.lengthOctets (left + 1) number ++ rest ↔
      (digit.toNat < 128 ∧ number = digit.toNat ∧ input = rest) ∨
        (128 ≤ digit.toNat ∧ 128 ≤ number ∧ number % 128 = digit.toNat % 128 ∧
          input = Emission.lengthOctets left (number / 128) ++ rest) := by
  have digitLt := digit.toNat_lt
  by_cases small : number < 128
  · simp only [Emission.lengthOctets, small, if_true, List.cons_append, List.nil_append,
      List.cons.injEq, ← UInt8.toNat_inj, UInt8.toNat_ofNat']
    constructor
    · rintro ⟨digitEq, inputEq⟩
      exact .inl ⟨by omega, by omega, inputEq⟩
    · rintro (⟨_, numberEq, inputEq⟩ | ⟨_, large, _⟩)
      · exact ⟨by omega, inputEq⟩
      · omega
  · simp only [Emission.lengthOctets, small, if_false, List.cons_append, List.cons.injEq,
      ← UInt8.toNat_inj, UInt8.toNat_ofNat']
    constructor
    · rintro ⟨digitEq, inputEq⟩
      exact .inr ⟨by omega, by omega, by omega, inputEq⟩
    · rintro (⟨_, numberEq, _⟩ | ⟨_, _, digitsEq, inputEq⟩)
      · omega
      · exact ⟨by omega, inputEq⟩

/-- How one digit is read, and what comes after it. -/
theorem lengthFrom_cons
    (left place sum : Nat)
    (digit : UInt8)
    (input : Bytes) :
    lengthFrom (left + 1) place sum (digit :: input) =
      (if 128 ≤ digit.toNat then
        lengthFrom left (place + 1) (sum + digit.toNat % 128 * 128 ^ place)
      else if digit = 0 ∧ 0 < place then throw (.codec .paddedNumber)
      else if maxLength < sum + digit.toNat % 128 * 128 ^ place then
        throw (.codec (.numberTooLarge (sum + digit.toNat % 128 * 128 ^ place)))
      else pure (sum + digit.toNat % 128 * 128 ^ place) : Reader Nat) input :=
  rfl

/-- What is read from place `place` on is the spelling of a number, which is zero only where there
is no place before it. -/
private theorem lengthFrom_eq_ok_iff
    {left place sum result : Nat}
    {input rest : Bytes}
    (room : place = 0 → 0 < left) :
    lengthFrom left place sum input = .ok result rest ↔
      ∃ number, (place = 0 ∨ 0 < number) ∧ number < 128 ^ left ∧
        result = sum + number * 128 ^ place ∧ result ≤ maxLength ∧
        input = Emission.lengthOctets left number ++ rest := by
  induction left generalizing place sum input with
  | zero =>
      simp only [lengthFrom, throw_ne_ok, Nat.pow_zero, Nat.lt_one_iff, false_iff]
      rintro ⟨number, positive, rfl, _⟩
      omega
  | succ left inductionHypothesis =>
      cases input with
      | nil =>
          have nonempty (number : Nat) : Emission.lengthOctets (left + 1) number ≠ [] := by
            unfold Emission.lengthOctets
            split <;> simp
          simp [lengthFrom, octet, bind, EStateM.bind, nonempty]
      | cons digit input =>
          have power : 128 ^ (left + 1) = 128 * 128 ^ left := by
            rw [Nat.pow_succ, Nat.mul_comm]
          have places (number : Nat) :
              sum + digit.toNat % 128 * 128 ^ place + number * 128 ^ (place + 1) =
                sum + (digit.toNat % 128 + 128 * number) * 128 ^ place := by
            rw [Nat.pow_succ, Nat.add_mul, ← Nat.add_assoc, Nat.mul_comm 128 number,
              Nat.mul_assoc, Nat.mul_comm 128 (128 ^ place)]
          rw [lengthFrom_cons]
          simp only [cons_eq_lengthOctets_iff, power]
          by_cases marked : 128 ≤ digit.toNat
          · rw [if_pos marked, inductionHypothesis (by omega)]
            constructor
            · rintro ⟨number, positive, bounded, resultEq, small, inputEq⟩
              refine ⟨digit.toNat % 128 + 128 * number, by omega, by omega, ?_, small,
                .inr ⟨marked, by omega, by omega, ?_⟩⟩
              · rw [resultEq, places]
              · rw [inputEq]
                congr 2
                omega
            · rintro ⟨number, _, bounded, resultEq, small,
                ⟨unmarked, _⟩ | ⟨_, large, digitEq, inputEq⟩⟩
              · omega
              · refine ⟨number / 128, by omega, by omega, ?_, small, inputEq⟩
                rw [resultEq, places]
                congr 2
                omega
          · rw [if_neg marked]
            have unmarked : digit.toNat % 128 = digit.toNat := by omega
            rw [unmarked]
            by_cases padded : digit = 0 ∧ 0 < place
            · rw [if_pos padded]
              simp only [throw_ne_ok, false_iff]
              have zero : digit.toNat = 0 := by rw [padded.1]; rfl
              rintro ⟨number, _, _, _, _, ⟨_, rfl, _⟩ | ⟨marked', _⟩⟩ <;> omega
            · rw [if_neg padded]
              have digitPositive : place = 0 ∨ 0 < digit.toNat := by
                by_cases zero : digit = 0
                · have first : ¬ 0 < place := fun positive => padded ⟨zero, positive⟩
                  omega
                · have digitNe : digit.toNat ≠ 0 := by
                    intro equal
                    exact zero (UInt8.toNat_inj.mp equal)
                  omega
              have powerPositive : 0 < 128 ^ left := Nat.pow_pos (by decide)
              by_cases large : maxLength < sum + digit.toNat * 128 ^ place
              · rw [if_pos large]
                simp only [throw_ne_ok, false_iff]
                rintro ⟨number, _, _, rfl, small, ⟨_, rfl, _⟩ | ⟨marked', _⟩⟩ <;> omega
              · rw [if_neg large, pure_eq_ok_iff]
                constructor
                · rintro ⟨rfl, rfl⟩
                  exact ⟨digit.toNat, digitPositive, by omega, rfl, by omega,
                    .inl ⟨by omega, rfl, rfl⟩⟩
                · rintro ⟨number, _, _, rfl, _, ⟨_, rfl, rfl⟩ | ⟨marked', _⟩⟩
                  · exact ⟨rfl, rfl⟩
                  · omega

/-- A length is read exactly where it is spelled with as few octets as it can be. -/
@[simp] theorem length_eq_ok_iff
    {number : Nat}
    {input rest : Bytes} :
    length input = .ok number rest ↔ (Emission.length number).Spells input rest := by
  rw [length, lengthFrom_eq_ok_iff (by decide)]
  by_cases small : number ≤ maxLength
  · rw [Emission.length, if_pos small, Emission.spells_complete_iff]
    constructor
    · rintro ⟨number, _, _, rfl, _, inputEq⟩
      simpa using inputEq
    · intro inputEq
      exact ⟨number, .inl rfl, Nat.lt_of_le_of_lt small (by decide), by simp, small, inputEq⟩
  · rw [Emission.length, if_neg small]
    simp only [Emission.not_spells_fail, iff_false]
    rintro ⟨_, _, _, _, bounded, _⟩
    exact small bounded

/-! ## Integers, truth values, byte strings and text -/

theorem ofLittleEndian_eq_iff
    {octets : Bytes}
    {number : Nat} :
    Bytes.ofLittleEndian octets = number ↔
      number < 256 ^ octets.length ∧ Bytes.littleEndian octets.length number = octets := by
  constructor
  · rintro rfl
    exact ⟨Bytes.ofLittleEndian_lt octets, Bytes.littleEndian_ofLittleEndian octets⟩
  · rintro ⟨small, spelled⟩
    rw [← spelled, Bytes.ofLittleEndian_littleEndian, Nat.mod_eq_of_lt small]

private theorem unsigned_eq_iff
    {octets : Bytes}
    {number : Int} :
    (Bytes.ofLittleEndian octets : Int) = number ↔
      (0 ≤ number ∧ number < (256 ^ octets.length : Nat)) ∧
        octets = Bytes.littleEndian octets.length number.toNat := by
  constructor
  · rintro rfl
    obtain ⟨small, spelled⟩ := ofLittleEndian_eq_iff.mp (rfl : Bytes.ofLittleEndian octets = _)
    refine ⟨⟨by omega, by exact_mod_cast small⟩, ?_⟩
    rw [Int.toNat_natCast, spelled]
  · rintro ⟨⟨positive, small⟩, spelled⟩
    have read := ofLittleEndian_eq_iff.mpr ⟨by omega, spelled.symm⟩
    omega

private theorem signed_eq_iff
    {octets : Bytes}
    {number : Int}
    (nonempty : 0 < octets.length) :
    Bytes.ofSignedLittleEndian octets = number ↔
      (-(256 ^ octets.length / 2 : Nat) ≤ number ∧ number < (256 ^ octets.length / 2 : Nat)) ∧
        octets = Bytes.signedLittleEndian octets.length number := by
  obtain ⟨width, width_eq⟩ := Nat.exists_eq_succ_of_ne_zero (Nat.ne_of_gt nonempty)
  have even : 256 ^ octets.length = 2 * (128 * 256 ^ width) := by
    rw [width_eq, Nat.pow_succ]
    omega
  have positive : 0 < 256 ^ octets.length := Nat.pow_pos (by decide)
  unfold Bytes.ofSignedLittleEndian Bytes.signedLittleEndian
  constructor
  · rintro rfl
    have lower := Int.le_bmod (x := Bytes.ofLittleEndian octets) positive
    have upper := Int.bmod_lt (x := Bytes.ofLittleEndian octets) positive
    refine ⟨⟨by omega, by omega⟩, ?_⟩
    rw [Int.bmod_emod, ← Int.natCast_emod, Int.toNat_natCast,
      Nat.mod_eq_of_lt (Bytes.ofLittleEndian_lt octets), Bytes.littleEndian_ofLittleEndian]
  · rintro ⟨⟨lower, upper⟩, spelled⟩
    have read : Bytes.ofLittleEndian octets =
        (number % (256 ^ octets.length : Nat)).toNat := by
      have nonneg := Int.emod_nonneg number (b := (256 ^ octets.length : Nat)) (by omega)
      have bounded := Int.emod_lt_of_pos number (b := (256 ^ octets.length : Nat)) (by omega)
      exact ofLittleEndian_eq_iff.mpr ⟨by omega, spelled.symm⟩
    have nonneg := Int.emod_nonneg number (b := (256 ^ octets.length : Nat)) (by omega)
    rw [read, Int.toNat_of_nonneg nonneg, Int.emod_bmod]
    exact Int.bmod_eq_of_le (by omega) (by omega)

/-- An integer is read exactly where it is spelled and fits its type. -/
@[simp] theorem integer_eq_ok_iff
    {type : IntegerType}
    {number : Int}
    {input rest : Bytes} :
    integer type input = .ok number rest ↔ (Emission.integer type number).Spells input rest := by
  have nonempty : 0 < type.octets := by
    rcases type with ⟨signed, _ | _ | _ | _ | _ | _⟩ <;> simp [IntegerType.octets, IntegerWidth.octets]
  have spelled_iff (octets : Bytes) (lengths : octets.length = type.octets) :
      (if type.signed then Bytes.ofSignedLittleEndian octets
        else (Bytes.ofLittleEndian octets : Int)) = number ↔
        type.Holds number ∧ octets = Emission.integerOctets type number := by
    unfold IntegerType.Holds Emission.integerOctets IntegerType.modulus
    rw [← lengths]
    cases type.signed with
    | false => simpa using unsigned_eq_iff
    | true => simpa using signed_eq_iff (lengths ▸ nonempty)
  have length_eq := Emission.length_integerOctets type number
  simp only [integer, bind_eq_ok_iff, octets_eq_ok_iff, pure_eq_ok_iff]
  constructor
  · rintro ⟨octets, middle, ⟨lengths, rfl⟩, numberEq, rfl⟩
    obtain ⟨holds, rfl⟩ := (spelled_iff octets lengths).mp numberEq
    rw [Emission.integer, if_pos holds, Emission.spells_complete_iff]
  · intro spelled
    have holds := Emission.isComplete_integer_iff.mp spelled.isComplete
    rw [Emission.integer, if_pos holds, Emission.spells_complete_iff] at spelled
    exact ⟨_, rest, ⟨length_eq, spelled⟩, (spelled_iff _ length_eq).mpr ⟨holds, rfl⟩, rfl⟩

/-- One octet stands for a small number. -/
theorem spells_octet_iff
    {number : Nat}
    {input rest : Bytes} :
    (Emission.integer .u8 number).Spells input rest ↔
      ∃ digit : UInt8, digit.toNat = number ∧ input = digit :: rest := by
  rw [← integer_eq_ok_iff]
  simp only [integer, bind_eq_ok_iff, octets_eq_ok_iff, pure_eq_ok_iff]
  constructor
  · rintro ⟨octets, middle, ⟨lengths, rfl⟩, numberEq, rfl⟩
    obtain ⟨digit, rfl⟩ := List.length_eq_one_iff.mp lengths
    refine ⟨digit, ?_, rfl⟩
    simpa [IntegerType.u8, Bytes.ofLittleEndian, Int.natCast_inj] using numberEq
  · rintro ⟨digit, rfl, rfl⟩
    exact ⟨[digit], rest, ⟨rfl, rfl⟩, by simp [IntegerType.u8, Bytes.ofLittleEndian], rfl⟩

@[simp] theorem bool_eq_ok_iff
    {b : Bool}
    {input rest : Bytes} :
    bool input = .ok b rest ↔ (Emission.bool b).Spells input rest := by
  simp only [bool, Emission.bool, bind_eq_ok_iff, octet_eq_ok_iff, Emission.spells_complete_iff]
  constructor
  · rintro ⟨digit, middle, rfl, read⟩
    by_cases zero : digit = 0
    · rw [if_pos zero, pure_eq_ok_iff] at read
      obtain ⟨rfl, rfl⟩ := read
      simp [zero]
    · by_cases one : digit = 1
      · rw [if_neg zero, if_pos one, pure_eq_ok_iff] at read
        obtain ⟨rfl, rfl⟩ := read
        simp [one]
      · rw [if_neg zero, if_neg one] at read
        exact absurd read throw_ne_ok
  · rintro rfl
    cases b with
    | false => exact ⟨0, rest, rfl, pure_eq_ok_iff.mpr ⟨rfl, rfl⟩⟩
    | true => exact ⟨1, rest, rfl, pure_eq_ok_iff.mpr ⟨rfl, rfl⟩⟩

@[simp] theorem bytes_eq_ok_iff
    {octets input rest : Bytes} :
    bytes input = .ok octets rest ↔ (Emission.bytes octets).Spells input rest := by
  simp only [bytes, Emission.bytes, bind_eq_ok_iff, length_eq_ok_iff, octets_eq_ok_iff,
    Emission.spells_append_iff, Emission.spells_complete_iff]
  constructor
  · rintro ⟨count, middle, counted, rfl, middleEq⟩
    exact ⟨middle, counted, middleEq⟩
  · rintro ⟨middle, counted, middleEq⟩
    exact ⟨octets.length, middle, counted, rfl, middleEq⟩

theorem textOf?_eq_some_iff
    {spelled : Bytes}
    {s : String} :
    textOf? spelled = some s ↔ Emission.textOctets s = spelled := by
  have toByteArray_eq : s.toByteArray = ⟨(Emission.textOctets s).toArray⟩ := rfl
  unfold textOf? String.fromUTF8?
  constructor
  · intro read
    split at read
    · cases read
      rfl
    · cases read
  · rintro rfl
    have valid : (⟨(Emission.textOctets s).toArray⟩ : ByteArray).IsValidUTF8 := by
      rw [← toByteArray_eq]
      exact s.isValidUTF8
    rw [dif_pos valid]
    exact congrArg some (String.toByteArray_inj.mp toByteArray_eq.symm)

@[simp] theorem text_eq_ok_iff
    {s : String}
    {input rest : Bytes} :
    text input = .ok s rest ↔ (Emission.text s).Spells input rest := by
  simp only [text, Emission.text, bind_eq_ok_iff, bytes_eq_ok_iff]
  constructor
  · rintro ⟨octets, middle, spelled, read⟩
    cases decoded : textOf? octets with
    | none =>
        rw [decoded] at read
        exact absurd read throw_ne_ok
    | some decodedText =>
        rw [decoded, pure_eq_ok_iff] at read
        obtain ⟨rfl, rfl⟩ := read
        rw [textOf?_eq_some_iff.mp decoded]
        exact spelled
  · intro spelled
    refine ⟨Emission.textOctets s, rest, spelled, ?_⟩
    rw [textOf?_eq_some_iff.mpr rfl, pure_eq_ok_iff]
    exact ⟨rfl, rfl⟩

/-! ## Counted values and values that may be absent -/

/-- The values are read one behind the other, and `rest` is left. -/
def ReadsInTurn (element : Reader α) : List α → Bytes → Bytes → Prop
  | [], input, rest => input = rest
  | first :: others, input, rest =>
      ∃ middle, element input = .ok first middle ∧ element.ReadsInTurn others middle rest

theorem many_eq_ok_iff_readsInTurn
    {element : Reader α}
    {count : Nat}
    {values : List α}
    {input rest : Bytes} :
    many element count input = .ok values rest ↔
      values.length = count ∧ element.ReadsInTurn values input rest := by
  induction count generalizing values input rest with
  | zero => cases values <;> simp [many, ReadsInTurn]
  | succ count inductionHypothesis =>
      cases values with
      | nil => simp [many]
      | cons first others =>
          simp only [many, bind_eq_ok_iff, pure_eq_ok_iff, inductionHypothesis, ReadsInTurn,
            List.cons.injEq, List.length_cons, Nat.succ.injEq]
          constructor
          · rintro ⟨_, middle, firstRead, _, _, ⟨lengthEq, othersRead⟩, ⟨rfl, rfl⟩, rfl⟩
            exact ⟨lengthEq, middle, firstRead, othersRead⟩
          · rintro ⟨lengthEq, middle, firstRead, othersRead⟩
            exact ⟨first, middle, firstRead, others, rest, ⟨lengthEq, othersRead⟩, ⟨rfl, rfl⟩, rfl⟩

/-- Behind the tag `0` nothing is read, behind the tag `1` a value. -/
theorem option_eq_ok_iff_tagged
    {element : Reader α}
    {value : Option α}
    {input rest : Bytes} :
    option element input = .ok value rest ↔
      (value = none ∧ (Emission.length 0).Spells input rest) ∨
        ∃ content, value = some content ∧
          ∃ middle, (Emission.length 1).Spells input middle ∧ element middle = .ok content rest := by
  simp only [option, bind_eq_ok_iff, length_eq_ok_iff]
  constructor
  · rintro ⟨tag, middle, tagged, read⟩
    by_cases absent : tag = 0
    · rw [if_pos absent, pure_eq_ok_iff] at read
      obtain ⟨rfl, rfl⟩ := read
      subst absent
      exact .inl ⟨rfl, tagged⟩
    by_cases present : tag = 1
    · rw [if_neg absent, if_pos present, bind_eq_ok_iff] at read
      obtain ⟨content, final, contentRead, valueEq⟩ := read
      obtain ⟨rfl, rfl⟩ := pure_eq_ok_iff.mp valueEq
      subst present
      exact .inr ⟨content, rfl, middle, tagged, contentRead⟩
    · rw [if_neg absent, if_neg present] at read
      exact absurd read throw_ne_ok
  · rintro (⟨rfl, tagged⟩ | ⟨content, rfl, middle, tagged, read⟩)
    · exact ⟨0, rest, tagged, pure_eq_ok_iff.mpr ⟨rfl, rfl⟩⟩
    · exact ⟨1, middle, tagged, bind_eq_ok_iff.mpr
        ⟨content, rest, read, pure_eq_ok_iff.mpr ⟨rfl, rfl⟩⟩⟩

/-- From this input the reader takes exactly the wire forms of canonical values. -/
def Inverts
    (reader : Reader α)
    (Canonical : α → Prop)
    (write : α → Emission)
    (input : Bytes) : Prop :=
  ∀ value rest, reader input = .ok value rest ↔
    Canonical value ∧ (write value).Spells input rest

section Elements

-- The law of the elements is asked for on inputs up to a limit only: a reader that calls itself
-- has it by induction for the inputs that are left to it.
variable {element : Reader α} {Canonical : α → Prop} {write : α → Emission} {limit : Nat}

theorem many_eq_ok_iff
    (inverts : ∀ input : Bytes, input.length ≤ limit → element.Inverts Canonical write input)
    {count : Nat}
    {values : List α}
    {input rest : Bytes}
    (short : input.length ≤ limit) :
    many element count input = .ok values rest ↔
      values.length = count ∧ (∀ value ∈ values, Canonical value) ∧
        (Emission.concat (values.map write)).Spells input rest := by
  rw [many_eq_ok_iff_readsInTurn]
  apply and_congr_right'
  induction values generalizing input with
  | nil => simp [ReadsInTurn, Emission.concat]
  | cons first others inductionHypothesis =>
      simp only [ReadsInTurn, inverts input short _ _, List.forall_mem_cons, List.map_cons,
        Emission.concat, Emission.spells_append_iff]
      constructor
      · rintro ⟨middle, ⟨canonical, spelled⟩, othersRead⟩
        have middleShort := Nat.le_trans spelled.length_le short
        obtain ⟨othersCanonical, othersSpelled⟩ := (inductionHypothesis middleShort).mp othersRead
        exact ⟨⟨canonical, othersCanonical⟩, middle, spelled, othersSpelled⟩
      · rintro ⟨⟨canonical, othersCanonical⟩, middle, spelled, othersSpelled⟩
        have middleShort := Nat.le_trans spelled.length_le short
        exact ⟨middle, ⟨canonical, spelled⟩,
          (inductionHypothesis middleShort).mpr ⟨othersCanonical, othersSpelled⟩⟩

theorem sequence_inverts
    (inverts : ∀ input : Bytes, input.length ≤ limit → element.Inverts Canonical write input)
    {input : Bytes}
    (short : input.length ≤ limit) :
    (sequence element).Inverts (fun values => ∀ value ∈ values, Canonical value)
      (fun values => .sequence (values.map write)) input := by
  intro values rest
  simp only [sequence, bind_eq_ok_iff, length_eq_ok_iff, Emission.spells_sequence_iff,
    List.length_map]
  constructor
  · rintro ⟨count, middle, counted, read⟩
    have middleShort := Nat.le_trans counted.length_le short
    obtain ⟨rfl, canonical, spelled⟩ := (many_eq_ok_iff inverts middleShort).mp read
    exact ⟨canonical, middle, counted, spelled⟩
  · rintro ⟨canonical, middle, counted, spelled⟩
    have middleShort := Nat.le_trans counted.length_le short
    exact ⟨values.length, middle, counted,
      (many_eq_ok_iff inverts middleShort).mpr ⟨rfl, canonical, spelled⟩⟩

theorem option_inverts
    (inverts : ∀ input : Bytes, element.Inverts Canonical write input)
    (input : Bytes) :
    (option element).Inverts (fun value => ∀ content ∈ value, Canonical content)
      (fun value => .option (value.map write)) input := by
  intro value rest
  rw [option_eq_ok_iff_tagged]
  cases value with
  | none => simp
  | some content =>
      simp only [reduceCtorEq, false_and, false_or, Option.some.injEq, exists_eq_left', inverts _ _ _,
        Option.mem_def, forall_eq', Option.map_some, Emission.spells_option_some_iff]
      constructor
      · rintro ⟨middle, tagged, canonical, spelled⟩
        exact ⟨canonical, middle, tagged, spelled⟩
      · rintro ⟨canonical, middle, tagged, spelled⟩
        exact ⟨middle, tagged, canonical, spelled⟩

/-- A sequence is read exactly where it is spelled, if its elements are. -/
theorem sequence_eq_ok_iff
    (law : ∀ input value rest, element input = .ok value rest ↔ (write value).Spells input rest)
    {values : List α}
    {input rest : Bytes} :
    sequence element input = .ok values rest ↔
      (Emission.sequence (values.map write)).Spells input rest := by
  have inverts (other : Bytes) (_ : other.length ≤ input.length) :
      element.Inverts (fun _ => True) write other := by
    intro value rest
    simp [law]
  simpa using sequence_inverts inverts (Nat.le_refl _) values rest

/-- A value that may be absent is read exactly where it is spelled, if it is when present. -/
theorem option_eq_ok_iff
    (law : ∀ input value rest, element input = .ok value rest ↔ (write value).Spells input rest)
    {value : Option α}
    {input rest : Bytes} :
    option element input = .ok value rest ↔
      (Emission.option (value.map write)).Spells input rest := by
  have inverts (other : Bytes) : element.Inverts (fun _ => True) write other := by
    intro value rest
    simp [law]
  simpa using option_inverts inverts input value rest

end Elements

end MoveClient.Reader
