import Mathlib.Data.Nat.Digits.Defs
import MoveClient.Proofs.Address.Spelling

/-!
The forms in which addresses are read, and the one in which they are printed.

Owns:
- which characters are the hexadecimal digits of an address, the case of letters aside;
- that the strict form is read exactly from `0x` and all digits of an address, or from `0x` and the
  only digit of a special one;
- the cause for which a text is refused, in either form;
- that the printed form is strict, and that no strict form of the same address is shorter.

Does not own: the number that digits stand for, see `MoveClient.Proofs.Address.Spelling`.
-/

namespace MoveClient

/-! ## Digits in lower case -/

variable {c : Char} {value : Nat} {digits : List Char} {values : List Nat}

/-- A character is a digit exactly if its lower case is the digit that is written. -/
theorem toLower_eq_hexDigit_iff
    (small : value < 16) :
    c.toLower = hexDigit value ↔ hexDigitValue? c = some value := by
  by_cases ascii : c.toNat < 128
  · have checked : ∀ (code : Fin 128) (value : Fin 16),
        (Char.ofNat code).toLower = hexDigit value ↔
          hexDigitValue? (Char.ofNat code) = some value.val := by
      decide +kernel
    have law := checked ⟨c.toNat, ascii⟩ ⟨value, small⟩
    rwa [Char.ofNat_toNat] at law
  · -- Beyond the ASCII characters nothing is a digit, and nothing becomes one.
    have order (left right : Char) : left ≤ right ↔ left.toNat ≤ right.toNat := Iff.rfl
    have noDigit : hexDigitValue? c = none := by
      simp only [hexDigitValue?, order, Char.reduceToNat]
      rw [if_neg (by omega), if_neg (by omega), if_neg (by omega)]
    have unchanged : c.toLower = c := by
      apply dif_neg
      rintro ⟨_, atMost⟩
      have : c.toNat ≤ 90 := atMost
      omega
    have written : ∀ value : Fin 16, (hexDigit value).toNat < 128 := by decide
    rw [noDigit, unchanged]
    apply iff_of_false _ nofun
    rintro rfl
    exact ascii (written ⟨value, small⟩)

theorem map_toLower_eq_map_hexDigit_iff
    (small : ∀ value ∈ values, value < 16) :
    digits.map Char.toLower = values.map hexDigit ↔
      digits.map hexDigitValue? = values.map some := by
  induction digits generalizing values with
  | nil => cases values <;> simp
  | cons c digits inductionHypothesis =>
      cases values with
      | nil => simp
      | cons value values =>
          obtain ⟨valueSmall, valuesSmall⟩ := List.forall_mem_cons.mp small
          simp only [List.map_cons, List.cons.injEq, toLower_eq_hexDigit_iff valueSmall,
            inductionHypothesis valuesSmall]

theorem lt_of_map_hexDigitValue?
    (valued : digits.map hexDigitValue? = values.map some) :
    ∀ value ∈ values, value < 16 := by
  intro value member
  have found : some value ∈ digits.map hexDigitValue? := by
    rw [valued]
    exact List.mem_map_of_mem member
  obtain ⟨c, _, valueOf⟩ := List.mem_map.mp found
  exact (not_isAsciiBlank_of_hexDigitValue? valueOf).2

/-- Digits are written in lower case. -/
theorem Bytes.map_toLower_hexDigits (octets : Bytes) :
    (hexDigits octets).map Char.toLower = hexDigits octets := by
  rw [List.map_congr_left (g := id), List.map_id]
  intro c member
  obtain ⟨octet, _, digit⟩ := List.mem_flatMap.mp member
  have octetLt := octet.toNat_lt
  have unchanged {value : Nat} (small : value < 16) :
      (hexDigit value).toLower = hexDigit value :=
    (toLower_eq_hexDigit_iff small).mpr (hexDigitValue?_hexDigit small)
  rcases List.mem_cons.mp digit with rfl | digit
  · exact unchanged (by omega)
  · rw [List.mem_singleton.mp digit]
    exact unchanged (by omega)

/-- As many digits stand for one number only. -/
theorem Numeral.eq_of_ofDigits_eq
    {radix : Nat}
    {others : List Nat}
    (radixLt : 1 < radix)
    (lengths : values.length = others.length)
    (small : ∀ value ∈ values, value < radix)
    (othersSmall : ∀ value ∈ others, value < radix)
    (same : ofDigits radix values = ofDigits radix others) :
    values = others := by
  have reversed (digits : List Nat) :
      ofDigits radix digits = Nat.ofDigits radix digits.reverse := by
    simp only [ofDigits, Nat.ofDigits_eq_foldr, List.foldr_reverse, Nat.cast_id, Nat.add_comm]
  rw [reversed, reversed] at same
  apply List.reverse_inj.mp
  apply Nat.ofDigits_inj_of_len_eq radixLt _ _ _ same
  · simpa using lengths
  · simpa using small
  · simpa using othersSmall

namespace Address

variable {address : Address} {text : String} {cause : AddressTextError}

/-! ## The digits of an address -/

/-- The number that the octets of the address spell. -/
def number (address : Address) : Nat :=
  Bytes.ofBigEndian address.bytes

/-- The digits are all digits of the address, or the only one of a special address; letters may
have either case. -/
def StrictlySpelledBy (address : Address) (digits : List Char) : Prop :=
  digits.map Char.toLower = Bytes.hexDigits address.bytes ∨
    address.number ≤ 0xf ∧ digits.map Char.toLower = [hexDigit address.number]

/-- Sixty-four digits that spell the address are the digits that are written for it. -/
theorem map_toLower_eq_hexDigits_iff :
    digits.map Char.toLower = Bytes.hexDigits address.bytes ↔
      address.SpelledBy digits ∧ digits.length = 64 := by
  obtain ⟨values, valued, numberEq⟩ := exists_values_hexDigits address.bytes
  have small := lt_of_map_hexDigitValue? valued
  have written : Bytes.hexDigits address.bytes = values.map hexDigit := by
    rw [← Bytes.map_toLower_hexDigits]
    exact (map_toLower_eq_map_hexDigit_iff small).mpr valued
  have count : values.length = 64 := by
    rw [← List.length_map (f := hexDigit), ← written, Bytes.hexDigits_length, address.length_eq]
  rw [written, map_toLower_eq_map_hexDigit_iff small]
  constructor
  · intro digitsValued
    have lengthEq : digits.length = 64 := by
      rw [← count, ← List.length_map (f := hexDigitValue?), digitsValued, List.length_map]
    have nonempty : digits ≠ [] := List.ne_nil_of_length_pos (by omega)
    exact ⟨⟨nonempty, by omega, values, digitsValued, numberEq⟩, lengthEq⟩
  · rintro ⟨⟨_, _, others, othersValued, othersNumber⟩, lengthEq⟩
    have othersCount : others.length = 64 := by
      rw [← lengthEq, ← List.length_map (f := some), ← othersValued, List.length_map]
    have same : others = values :=
      Numeral.eq_of_ofDigits_eq (by decide) (othersCount.trans count.symm)
        (lt_of_map_hexDigitValue? othersValued) small (othersNumber.trans numberEq.symm)
    rw [← same]
    exact othersValued

/-- A single digit that spells the address is its number. -/
theorem map_toLower_eq_singleton_iff :
    (address.number ≤ 0xf ∧ digits.map Char.toLower = [hexDigit address.number]) ↔
      address.SpelledBy digits ∧ digits.length = 1 := by
  constructor
  · rintro ⟨special, lower⟩
    have valued : digits.map hexDigitValue? = [address.number].map some := by
      apply (map_toLower_eq_map_hexDigit_iff _).mp lower
      intro value member
      rw [List.mem_singleton.mp member]
      omega
    have lengthEq : digits.length = 1 := by
      simpa using congrArg List.length lower
    have nonempty : digits ≠ [] := List.ne_nil_of_length_pos (by omega)
    exact ⟨⟨nonempty, by omega, [address.number], valued, by simp [Numeral.ofDigits, number]⟩,
      lengthEq⟩
  · rintro ⟨⟨_, _, values, valued, numberEq⟩, lengthEq⟩
    have count : values.length = 1 := by
      rw [← lengthEq, ← List.length_map (f := some), ← valued, List.length_map]
    obtain ⟨value, rfl⟩ := List.length_eq_one_iff.mp count
    have small := lt_of_map_hexDigitValue? valued
    have valueEq : value = address.number := by
      rw [number, ← numberEq]
      simp [Numeral.ofDigits]
    subst valueEq
    have numberLt := small _ (List.mem_singleton_self _)
    exact ⟨by omega, (map_toLower_eq_map_hexDigit_iff small).mpr valued⟩

/-- What spells an address strictly spells it, with all digits or, for a special one, with one. -/
theorem strictlySpelledBy_iff :
    address.StrictlySpelledBy digits ↔
      address.SpelledBy digits ∧
        (digits.length = 64 ∨ address.number ≤ 0xf ∧ digits.length = 1) := by
  rw [StrictlySpelledBy, map_toLower_eq_singleton_iff, map_toLower_eq_hexDigits_iff]
  constructor
  · rintro (⟨spelled, whole⟩ | ⟨spelled, single⟩)
    · exact ⟨spelled, .inl whole⟩
    · exact ⟨spelled, .inr ⟨(map_toLower_eq_singleton_iff.mpr ⟨spelled, single⟩).1, single⟩⟩
  · rintro ⟨spelled, whole | ⟨_, single⟩⟩
    · exact .inl ⟨spelled, whole⟩
    · exact .inr ⟨spelled, single⟩

/-- The special addresses are those with a number of one digit. -/
theorem isSpecial_iff : address.isSpecial = true ↔ address.number ≤ 0xf := by
  constructor
  · intro special
    obtain ⟨last, small, octetsEq⟩ := bytes_of_isSpecial special
    have lastLt : last.toNat < 16 := UInt8.lt_iff_toNat_lt.mp small
    have numberEq : address.number = last.toNat := by
      rw [number, octetsEq]
      simp [Bytes.ofBigEndian, Bytes.ofLittleEndian, List.replicate]
    omega
  · intro small
    have checked : ∀ number : Fin 16, (ofNat number).isSpecial = true := by decide
    have same : ofNat address.number = address := by
      apply ext_ofBigEndian
      rw [ofNat, Bytes.ofBigEndian_bigEndian, Nat.mod_eq_of_lt (Nat.lt_of_le_of_lt small (by decide))]
      rfl
    rw [← same]
    exact checked ⟨address.number, by omega⟩

/-! ## Reading -/

theorem dropMarker_cons (digits : List Char) : dropMarker ('0' :: 'x' :: digits) = digits := rfl

theorem dropMarker_of_unmarked
    {characters : List Char}
    (unmarked : ∀ digits, characters ≠ '0' :: 'x' :: digits) :
    dropMarker characters = characters := by
  unfold dropMarker
  split
  · rename_i digits
    exact absurd rfl (unmarked digits)
  · rfl

/-- No digit is a marker. -/
theorem SpelledBy.unmarked
    (spelled : address.SpelledBy digits) :
    ∀ others, digits ≠ '0' :: 'x' :: others := by
  rintro others rfl
  obtain ⟨_, _, values, valued, _⟩ := spelled
  have allDigits := exists_values_iff.mp ⟨values, valued⟩
  cases allDigits

/-- The relaxed form is digits that spell the address, with `0x` in front or without. -/
theorem parseRelaxed_eq_ok_iff_marked :
    parseRelaxed text = .ok address ↔
      address.SpelledBy text.toList ∨
        ∃ digits, text.toList = '0' :: 'x' :: digits ∧ address.SpelledBy digits := by
  rw [parseRelaxed_eq_ok_iff]
  by_cases marked : ∃ digits, text.toList = '0' :: 'x' :: digits
  · obtain ⟨digits, textEq⟩ := marked
    rw [textEq, dropMarker_cons]
    constructor
    · intro spelled
      exact .inr ⟨digits, rfl, spelled⟩
    · rintro (whole | ⟨_, same, spelled⟩)
      · exact absurd rfl (whole.unmarked digits)
      · cases same
        exact spelled
  · rw [not_exists] at marked
    rw [dropMarker_of_unmarked marked]
    constructor
    · exact .inl
    · rintro (spelled | ⟨digits, textEq, _⟩)
      · exact spelled
      · exact absurd textEq (marked digits)

theorem parse_of_unmarked
    (unmarked : ∀ digits, text.toList ≠ '0' :: 'x' :: digits) :
    parse text = .error .missingMarker := by
  unfold parse
  split
  · rename_i digits textEq
    exact absurd textEq (unmarked digits)
  · rfl

/-- The strict form fails as the relaxed one does. -/
theorem parse_of_parseRelaxed_error
    (marked : text.toList = '0' :: 'x' :: digits)
    (refused : parseRelaxed text = .error cause) :
    parse text = .error cause := by
  simp only [parse, marked, refused]
  rfl

/-- What is made of digits after `0x` that spell an address. -/
theorem parse_of_spelledBy
    (marked : text.toList = '0' :: 'x' :: digits)
    (spelled : address.SpelledBy digits) :
    parse text =
      if digits.length = 64 then .ok address
      else if 0xf < address.number then .error .notSpecial
      else if digits.length ≠ 1 then .error .paddedSpecial
      else .ok address := by
  have read : parseRelaxed text = .ok address := by
    rw [parseRelaxed_eq_ok_iff, marked]
    exact spelled
  have notSpecial_iff : (!address.isSpecial) = true ↔ 0xf < address.number := by
    rw [Bool.not_eq_true', ← Bool.not_eq_true, isSpecial_iff, Nat.not_le]
  simp only [parse, marked, read, ← notSpecial_iff]
  rfl

/-- The strict form is `0x` and digits that spell the address strictly. -/
theorem parse_eq_ok_iff :
    parse text = .ok address ↔
      ∃ digits, text.toList = '0' :: 'x' :: digits ∧ address.StrictlySpelledBy digits := by
  simp only [strictlySpelledBy_iff]
  constructor
  · intro read
    by_cases marked : ∃ digits, text.toList = '0' :: 'x' :: digits
    · obtain ⟨digits, marked⟩ := marked
      cases relaxed : parseRelaxed text with
      | error cause =>
          rw [parse_of_parseRelaxed_error marked relaxed] at read
          cases read
      | ok found =>
          have spelled := parseRelaxed_eq_ok_iff.mp relaxed
          rw [marked, dropMarker_cons] at spelled
          rw [parse_of_spelledBy marked spelled] at read
          refine ⟨digits, marked, ?_⟩
          split at read
          · rename_i whole
            cases read
            exact ⟨spelled, .inl whole⟩
          · split at read
            · cases read
            · rename_i special
              split at read
              · cases read
              · rename_i single
                cases read
                exact ⟨spelled, .inr ⟨Nat.not_lt.mp special, not_not.mp single⟩⟩
    · rw [parse_of_unmarked (not_exists.mp marked)] at read
      cases read
  · rintro ⟨digits, marked, spelled, form⟩
    rw [parse_of_spelledBy marked spelled]
    by_cases whole : digits.length = 64
    · rw [if_pos whole]
    · obtain ⟨small, single⟩ := form.resolve_left whole
      rw [if_neg whole, if_neg (Nat.not_lt.mpr small), if_neg (not_not.mpr single)]

/-! ## Refusals -/

/-- What is wrong with a text that is not in the relaxed form: it has no digit or too many, which is
out of range, or a character that is no digit. -/
inductive RefusedRelaxed (text : String) : AddressTextError → Prop where
  | tooShort (empty : dropMarker text.toList = []) : RefusedRelaxed text .tooShort
  | tooLong (long : 64 < (dropMarker text.toList).length) : RefusedRelaxed text .tooLong
  | invalidHex
      {c : Char}
      (short : (dropMarker text.toList).length ≤ 64)
      (member : c ∈ dropMarker text.toList)
      (noDigit : hexDigitValue? c = none) :
      RefusedRelaxed text (.invalidHex text)

/-- What is wrong with a text that is not in the strict form: it has no marker, it is not in the
relaxed form either, or it has too few digits for the address that they spell. -/
inductive Refused (text : String) : AddressTextError → Prop where
  | missingMarker
      (unmarked : ∀ digits, text.toList ≠ '0' :: 'x' :: digits) :
      Refused text .missingMarker
  | relaxed
      {digits : List Char}
      {cause : AddressTextError}
      (marked : text.toList = '0' :: 'x' :: digits)
      (refused : RefusedRelaxed text cause) :
      Refused text cause
  | notSpecial
      {digits : List Char}
      {address : Address}
      (marked : text.toList = '0' :: 'x' :: digits)
      (spelled : address.SpelledBy digits)
      (few : digits.length < 64)
      (large : 0xf < address.number) :
      Refused text .notSpecial
  | paddedSpecial
      {digits : List Char}
      {address : Address}
      (marked : text.toList = '0' :: 'x' :: digits)
      (spelled : address.SpelledBy digits)
      (few : digits.length < 64)
      (padded : 1 < digits.length)
      (small : address.number ≤ 0xf) :
      Refused text .paddedSpecial

theorem parseRelaxed_eq_error_iff :
    parseRelaxed text = .error cause ↔ RefusedRelaxed text cause := by
  have notDigit_iff (c : Char) : isHexDigit c = false ↔ hexDigitValue? c = none := by
    rw [isHexDigit, Option.isSome_eq_false_iff, Option.isNone_iff_eq_none]
  constructor
  · intro refused
    unfold parseRelaxed at refused
    simp only at refused
    split at refused
    · rename_i empty
      cases refused
      exact .tooShort (List.length_eq_zero_iff.mp (by omega))
    · split at refused
      · rename_i long
        cases refused
        exact .tooLong long
      · rename_i short
        split at refused
        · rename_i allDigits
          -- Digits that are few enough are always read.
          obtain ⟨values, valued⟩ := exists_values_iff.mpr allDigits
          obtain ⟨address, read, _⟩ := ofDigits?_of_values (by omega) valued
          rw [read] at refused
          cases refused
        · rename_i someOther
          cases refused
          rw [List.all_eq_true, not_forall] at someOther
          obtain ⟨c, someOther⟩ := someOther
          obtain ⟨member, noDigit⟩ := Classical.not_imp.mp someOther
          exact .invalidHex (by omega) member ((notDigit_iff c).mp (Bool.not_eq_true _ ▸ noDigit))
  · rintro (empty | long | ⟨short, member, noDigit⟩)
    · simp [parseRelaxed, empty]
    · have notEmpty : ¬ (dropMarker text.toList).length < 1 := by omega
      simp only [parseRelaxed, if_neg notEmpty, if_pos long]
    · rename_i c
      have notEmpty : ¬ (dropMarker text.toList).length < 1 := by
        have := List.length_pos_of_mem member
        omega
      have someOther : ¬ (dropMarker text.toList).all isHexDigit = true := by
        rw [List.all_eq_true]
        intro allDigits
        have digit := allDigits c member
        rw [(notDigit_iff c).mpr noDigit] at digit
        cases digit
      simp only [parseRelaxed, if_neg notEmpty, if_neg (Nat.not_lt.mpr short), if_neg someOther]

theorem parse_eq_error_iff :
    parse text = .error cause ↔ Refused text cause := by
  constructor
  · intro refused
    by_cases marked : ∃ digits, text.toList = '0' :: 'x' :: digits
    · obtain ⟨digits, marked⟩ := marked
      cases relaxed : parseRelaxed text with
      | error other =>
          rw [parse_of_parseRelaxed_error marked relaxed] at refused
          cases refused
          exact .relaxed marked (parseRelaxed_eq_error_iff.mp relaxed)
      | ok address =>
          have spelled := parseRelaxed_eq_ok_iff.mp relaxed
          rw [marked, dropMarker_cons] at spelled
          rw [parse_of_spelledBy marked spelled] at refused
          have positive := List.length_pos_iff.mpr spelled.1
          have short := spelled.2.1
          split at refused
          · cases refused
          · rename_i notWhole
            have few : digits.length < 64 := by omega
            split at refused
            · rename_i large
              cases refused
              exact .notSpecial marked spelled few large
            · rename_i small
              split at refused
              · rename_i notSingle
                cases refused
                exact .paddedSpecial marked spelled few (by omega) (by omega)
              · cases refused
    · rw [parse_of_unmarked (not_exists.mp marked)] at refused
      cases refused
      exact .missingMarker (not_exists.mp marked)
  · rintro (unmarked | ⟨marked, refused⟩ | ⟨marked, spelled, few, large⟩ |
      ⟨marked, spelled, few, padded, small⟩)
    · exact parse_of_unmarked unmarked
    · exact parse_of_parseRelaxed_error marked (parseRelaxed_eq_error_iff.mpr refused)
    · rw [parse_of_spelledBy marked spelled, if_neg (by omega), if_pos large]
    · rw [parse_of_spelledBy marked spelled, if_neg (by omega), if_neg (by omega),
        if_pos (by omega)]

/-! ## The printed form -/

/-- The printed form is strict: one digit for a special address, all of them for any other. -/
theorem strictlySpelledBy_text (address : Address) :
    ∃ digits, address.text.toList = '0' :: 'x' :: digits ∧ address.StrictlySpelledBy digits ∧
      digits.length = if address.number ≤ 0xf then 1 else 64 := by
  obtain ⟨digits, textEq, spelled⟩ := spelledBy_text address
  have lengthEq : digits.length = if address.number ≤ 0xf then 1 else 64 := by
    have digitsEq : digits =
        if address.isSpecial = true then (Bytes.hexDigits address.bytes).drop 63
        else Bytes.hexDigits address.bytes := by
      simpa [text] using textEq.symm
    simp only [digitsEq, ← isSpecial_iff]
    split <;> simp [address.length_eq]
  refine ⟨digits, textEq, strictlySpelledBy_iff.mpr ⟨spelled, ?_⟩, lengthEq⟩
  split at lengthEq
  · rename_i small
    exact .inr ⟨small, lengthEq⟩
  · exact .inl lengthEq

theorem parse_printed (address : Address) : parse address.text = .ok address := by
  obtain ⟨digits, textEq, spelled, _⟩ := strictlySpelledBy_text address
  exact parse_eq_ok_iff.mpr ⟨digits, textEq, spelled⟩

theorem parse_longText (address : Address) : parse address.longText = .ok address := by
  apply parse_eq_ok_iff.mpr
  refine ⟨Bytes.hexDigits address.bytes, by simp [longText], .inl ?_⟩
  exact Bytes.map_toLower_hexDigits address.bytes

/-- No strict form of an address is shorter than the printed one. -/
theorem length_text_le
    (read : parse text = .ok address) :
    address.text.length ≤ text.length := by
  obtain ⟨digits, textEq, spelled⟩ := parse_eq_ok_iff.mp read
  obtain ⟨printed, printedEq, _, printedLength⟩ := strictlySpelledBy_text address
  rw [← String.length_toList, ← String.length_toList, textEq, printedEq]
  simp only [List.length_cons, printedLength]
  obtain ⟨nonempty, _, _⟩ := (strictlySpelledBy_iff.mp spelled).1
  have positive := List.length_pos_iff.mpr nonempty
  rcases (strictlySpelledBy_iff.mp spelled).2 with whole | ⟨small, _⟩
  · split <;> omega
  · rw [if_pos small]
    omega

/-- Both forms of addresses are read exactly. The relaxed form is one to 64 hexadecimal digits whose
number is the address, after `0x` or not; the strict form is `0x` and all digits of the address, or
the only digit of a special one, in any case of letters; and for every other text there is the
cause for which it is refused. The printed form is the shortest strict form, and tells addresses
apart. -/
theorem text_forms :
    (∀ (text : String) (address : Address),
      parseRelaxed text = .ok address ↔
        address.SpelledBy text.toList ∨
          ∃ digits, text.toList = '0' :: 'x' :: digits ∧ address.SpelledBy digits) ∧
    (∀ (text : String) (address : Address),
      parse text = .ok address ↔
        ∃ digits, text.toList = '0' :: 'x' :: digits ∧ address.StrictlySpelledBy digits) ∧
    (∀ (text : String) (cause : AddressTextError),
      parseRelaxed text = .error cause ↔ RefusedRelaxed text cause) ∧
    (∀ (text : String) (cause : AddressTextError),
      parse text = .error cause ↔ Refused text cause) ∧
    (∀ address : Address,
      parse address.text = .ok address ∧ parse address.longText = .ok address ∧
        ∀ text, parse text = .ok address → address.text.length ≤ text.length) ∧
    ∀ address other : Address, address.text = other.text ↔ address = other := by
  refine ⟨fun _ _ => parseRelaxed_eq_ok_iff_marked, fun _ _ => parse_eq_ok_iff,
    fun _ _ => parseRelaxed_eq_error_iff, fun _ _ => parse_eq_error_iff, ?_, ?_⟩
  · intro address
    exact ⟨parse_printed address, parse_longText address, fun _ => length_text_le⟩
  · intro address other
    constructor
    · intro same
      have read := parse_printed address
      rw [same, parse_printed] at read
      exact (Except.ok.inj read).symm
    · rintro rfl
      rfl

/-- The padded spelling of `0xa` in upper case is strict, and longer than the printed form. -/
theorem text_forms_padded :
    let padded := String.ofList ('0' :: 'x' :: List.replicate 63 '0' ++ ['A'])
    parse padded = .ok (ofNat 10) ∧ (ofNat 10).text.length ≤ padded.length := by
  intro padded
  have read : parse padded = .ok (ofNat 10) := by decide +kernel
  obtain ⟨_, _, _, _, printed, _⟩ := text_forms
  exact ⟨read, (printed (ofNat 10)).2.2 padded read⟩

end Address

end MoveClient
