import MoveClient.Proofs.Address.Spelling
import MoveClient.Proofs.Argument.Resolution
import MoveClient.Proofs.Text.Numeral

/-!
Arguments in different spellings.

Owns:
- what it is for a value to spell a truth value, an address or octets;
- `Value.IsSpellingOf`, which carries this through vectors and options;
- that an argument is encoded alike in all its spellings, or refused alike.

Does not own: texts that spell integers, see `MoveClient.Proofs.Text.Numeral`.
-/

namespace MoveClient

variable {bindings : List TypeTag} {octets : Bytes}

/-! ## Octets -/

namespace Bytes

/-- The characters are pairs of hexadecimal digits, one for each octet, with blanks around them. -/
inductive HexPairs : List Char → Bytes → Prop where
  | nil : HexPairs [] []
  | blank {c : Char} {text : List Char} {octets : Bytes}
      (isBlank : isAsciiBlank c = true)
      (others : HexPairs text octets) :
      HexPairs (c :: text) octets
  | pair {c d : Char} {high low : Nat} {text : List Char} {octets : Bytes}
      (highValued : hexDigitValue? c = some high)
      (lowValued : hexDigitValue? d = some low)
      (others : HexPairs text octets) :
      HexPairs (c :: d :: text) (UInt8.ofNat (16 * high + low) :: octets)

theorem HexPairs.ofHexDigits_eq
    {text : List Char}
    (pairs : HexPairs text octets) :
    ofHexDigits text = some octets := by
  induction pairs with
  | nil => rfl
  | @blank c text octets isBlank others inductionHypothesis =>
      cases text with
      | nil =>
          cases inductionHypothesis
          exact if_pos isBlank
      | cons d text => rw [ofHexDigits, if_pos isBlank, inductionHypothesis]
  | pair highValued lowValued others inductionHypothesis =>
      have notBlank := (not_isAsciiBlank_of_hexDigitValue? highValued).1
      simp [ofHexDigits, notBlank, highValued, lowValued, inductionHypothesis]

end Bytes

namespace Value

/-- The value is the octets, or text with a marker and the pairs of digits that spell them. -/
inductive SpellsOctets : Value → Bytes → Prop where
  | bytes (octets : Bytes) : SpellsOctets (.bytes octets) octets
  | buffer (octets : Bytes) : SpellsOctets (.buffer octets) octets
  | text {s : String} {digits : List Char} {octets : Bytes}
      (textEq : s.toList = '0' :: 'x' :: digits)
      (pairs : Bytes.HexPairs digits octets) :
      SpellsOctets (.text s) octets

theorem SpellsOctets.octets?_eq
    {value : Value}
    (spells : value.SpellsOctets octets) :
    value.octets? = some (.ok octets) := by
  cases spells with
  | bytes | buffer => rfl
  | text textEq pairs =>
      rw [octets?, octetsOfText, textEq]
      simp only [pairs.ofHexDigits_eq]

/-- Octets as a list of integers. -/
def integersOf (octets : Bytes) : Value :=
  .list (octets.map fun octet => .int octet.toNat)

theorem marshal_octet (octet : UInt8) :
    marshal .u8 (.int octet.toNat) bindings = .ok [octet] := by
  have inRange : IntegerType.u8.Holds octet.toNat := by
    have octetLt := octet.toNat_lt
    show (0 : Int) ≤ octet.toNat ∧ (octet.toNat : Int) < (256 : Nat)
    omega
  have written : Emission.integerOctets .u8 octet.toNat = [octet] := by
    show [UInt8.ofNat octet.toNat] = [octet]
    rw [UInt8.ofNat_toNat]
  have complete : Emission.integer .u8 octet.toNat = .complete [octet] := by
    rw [Emission.integer, if_pos inRange, written]
  rw [TypeTag.u8, marshal_integer, toInteger]
  exact Error.bind_eq_ok_iff.mpr ⟨octet.toNat, rfl, congrArg Emission.result complete⟩

theorem mapM_marshal_octet (octets : Bytes) :
    octets.mapM (fun octet => marshal .u8 (.int octet.toNat) bindings) =
      .ok (octets.map fun octet => [octet]) := by
  induction octets with
  | nil => rfl
  | cons octet rest inductionHypothesis =>
      rw [List.mapM_cons, inductionHypothesis, marshal_octet]
      rfl

/-- A vector of octets is encoded alike from octets and from integers. -/
theorem marshal_integersOf (octets : Bytes) :
    marshal (.vector .u8) (integersOf octets) bindings = (Emission.bytes octets).result := by
  have joined : (octets.map fun octet => [octet]).flatten = octets := by
    rw [← List.flatMap_def]
    exact List.flatMap_singleton' octets
  rw [integersOf, marshal_vector, marshalVector_listed rfl, marshalItems, List.length_map,
    List.length_map, List.mapM_map, List.mapM_map]
  simp only [Function.comp_def, mapM_marshal_octet, Emission.bytes]
  cases Emission.length octets.length with
  | broken written error => rfl
  | complete count => exact congrArg (fun all => Except.ok (count ++ all)) joined

end Value

/-! ## Truth values and addresses -/

/-- The letter of a marker is no digit. -/
theorem Address.dropMarker_of_spelledBy
    {address : Address}
    {digits : List Char}
    (spelled : address.SpelledBy digits) :
    dropMarker digits = digits := by
  unfold dropMarker
  split
  · rename_i rest
    obtain ⟨_, _, values, valued, _⟩ := spelled
    have isDigit := List.all_eq_true.mp (exists_values_iff.mp ⟨values, valued⟩)
    exact absurd (isDigit 'x' (List.mem_cons_of_mem _ List.mem_cons_self)) (by decide)
  · rfl

namespace Value

/-- The value is the truth value, or its name. -/
inductive SpellsBool : Value → Bool → Prop where
  | bool (b : Bool) : SpellsBool (.bool b) b
  | true : SpellsBool (.text "true") true
  | false : SpellsBool (.text "false") false

theorem SpellsBool.toBool_eq
    {value : Value}
    {b : Bool}
    (spells : value.SpellsBool b) :
    value.toBool = .ok b := by
  cases spells <;> rfl

/-- The value is the address, or text that spells it, with a marker or without. -/
inductive SpellsAddress : Value → Address → Prop where
  | address (address : Address) : SpellsAddress (.address address) address
  | text {s : String} {digits : List Char} {address : Address}
      (textEq : s.toList = digits ∨ s.toList = '0' :: 'x' :: digits)
      (spelled : address.SpelledBy digits) :
      SpellsAddress (.text s) address

theorem SpellsAddress.toAddress_eq
    {value : Value}
    {address : Address}
    (spells : value.SpellsAddress address) :
    value.toAddress = .ok address := by
  cases spells with
  | address => rfl
  | @text s digits _ textEq spelled =>
      have parsed : Address.parseRelaxed s = .ok address := by
        rw [Address.parseRelaxed_eq_ok_iff]
        obtain textEq | textEq := textEq
        · rw [textEq, Address.dropMarker_of_spelledBy spelled]
          exact spelled
        · rw [textEq]
          exact spelled
      rw [toAddress, parsed]

/-! ## Arguments -/

/-- For an argument of the type, the first value is a spelling of the second: the same but for how
integers, truth values, addresses, vectors and octets in it are given. -/
inductive IsSpellingOf : TypeTag → Value → Value → Prop where
  | same (tag : TypeTag) (value : Value) : IsSpellingOf tag value value
  | integer {type : IntegerType} {value : Value} {number : Int}
      (spells : value.SpellsInteger number) :
      IsSpellingOf (.integer type) value (.int number)
  | bool {value : Value} {b : Bool}
      (spells : value.SpellsBool b) :
      IsSpellingOf .bool value (.bool b)
  | address {value : Value} {address : Address}
      (spells : value.SpellsAddress address) :
      IsSpellingOf .address value (.address address)
  | object {owner : Address} {module name : String} {arguments : List TypeTag} {value : Value}
      {address : Address}
      (isObject : StructTag.isObject ⟨owner, module, name, arguments⟩ = true)
      (spells : value.SpellsAddress address) :
      IsSpellingOf (.struct owner module name arguments) value (.address address)
  | octets {value : Value} {octets : Bytes}
      (spells : value.SpellsOctets octets) :
      IsSpellingOf (.vector .u8) value (integersOf octets)
  | items {element : TypeTag} {value : Value} {items plain : List Value}
      (listed : value.listed? = some items)
      (sameLength : items.length = plain.length)
      (spell : ∀ pair ∈ items.zip plain, IsSpellingOf element pair.1 pair.2) :
      IsSpellingOf (.vector element) value (.list plain)
  | content {owner : Address} {module name : String} {element : TypeTag} {value plain : Value}
      (isOption : StructTag.isOption ⟨owner, module, name, [element]⟩ = true)
      (spells : IsSpellingOf element value plain) :
      IsSpellingOf (.struct owner module name [element]) value plain

/-- Only the absent value is a spelling of it. -/
theorem IsSpellingOf.null_iff
    {tag : TypeTag}
    {value plain : Value}
    (spells : IsSpellingOf tag value plain) :
    value = .null ↔ plain = .null := by
  induction spells with
  | same => exact Iff.rfl
  | content _ _ inductionHypothesis => exact inductionHypothesis
  | integer spells | bool spells | address spells | object _ spells | octets spells =>
      cases spells <;> exact iff_of_false nofun nofun
  | items listed =>
      apply iff_of_false _ nofun
      intro absent
      subst absent
      cases listed

/-- A value is encoded as what it is a spelling of, or refused as that is. -/
theorem IsSpellingOf.marshal_eq
    {tag : TypeTag}
    {value plain : Value}
    (spells : IsSpellingOf tag value plain) :
    marshal tag value bindings = marshal tag plain bindings := by
  induction spells with
  | same => rfl
  | integer spells => rw [marshal_integer, marshal_integer, spells.toInteger_eq, toInteger]
  | bool spells => rw [marshal_bool, marshal_bool, spells.toBool_eq, toBool]
  | address spells => rw [marshal_address, marshal_address, spells.toAddress_eq, toAddress]
  | object isObject spells =>
      rw [marshal_struct, marshal_struct, marshalStruct_object isObject,
        marshalStruct_object isObject, spells.toAddress_eq, toAddress]
  | octets spells =>
      rw [marshal_octets spells.octets?_eq, marshal_integersOf]
      rfl
  | @items element value items plain listed sameLength _ inductionHypothesis =>
      rw [marshal_vector, marshal_vector, marshalVector_listed listed, marshalVector_listed rfl]
      apply marshalItems_congr
      rw [List.map_map, List.map_map, ← List.forall₂_eq_eq_eq, List.forall₂_map_left_iff,
        List.forall₂_map_right_iff]
      exact List.forall₂_iff_zip.mpr ⟨sameLength, fun isPair => inductionHypothesis _ isPair⟩
  | @content _ _ _ _ value plain isOption spells inductionHypothesis =>
      rw [marshal_struct, marshal_struct]
      by_cases absent : value = .null
      · rw [absent, spells.null_iff.mp absent]
      · have present := mt spells.null_iff.mpr absent
        rw [marshalStruct_present isOption absent, marshalStruct_present isOption present,
          inductionHypothesis]

/-- Two spellings of a value are encoded alike, or refused alike. -/
theorem marshal_eq_of_spellings
    (bindings : List TypeTag)
    (tag : TypeTag)
    (value other plain : Value)
    (spells : IsSpellingOf tag value plain)
    (otherSpells : IsSpellingOf tag other plain) :
    marshal tag value bindings = marshal tag other bindings :=
  spells.marshal_eq.trans otherSpells.marshal_eq.symm

/-- Optional octets, given as octets and as numerals. -/
theorem marshal_eq_of_spellings_numerals :
    let tag : TypeTag := .vector (.struct .one "option" "Option" [.vector .u8])
    let value : Value := .list [.bytes [1, 31], .null]
    let other : Value := .tuple [.tuple [.text " +1", .text "0x1F"], .null]
    let plain : Value := .list [integersOf [1, 31], .null]
    IsSpellingOf tag value plain ∧ IsSpellingOf tag other plain ∧
      marshal tag value [] = .ok [2, 1, 2, 1, 31, 0] ∧
      marshal tag other [] = .ok [2, 1, 2, 1, 31, 0] := by
  intro tag value other plain
  have one : SpellsInteger (.text " +1") (Numeral.Sign.plus.apply (Numeral.ofDigits 10 [1])) :=
    .decimal .plus ⟨[' '], [], List.forall_mem_singleton.mpr rfl, List.forall_mem_nil _, rfl⟩
      (.last rfl) (by decide)
  have thirtyOne : SpellsInteger (.text "0x1F") (Numeral.ofDigits 16 [1, 15]) :=
    .hexadecimal (.inl rfl) ⟨[], [], List.forall_mem_nil _, List.forall_mem_nil _, rfl⟩
      (.next rfl (.last rfl))
  have numerals : IsSpellingOf (.vector .u8) (.tuple [.text " +1", .text "0x1F"])
      (integersOf [1, 31]) :=
    .items rfl rfl (List.forall_mem_cons.mpr
      ⟨.integer one, List.forall_mem_singleton.mpr (.integer thirtyOne)⟩)
  have spells : IsSpellingOf tag value plain :=
    .items rfl rfl (List.forall_mem_cons.mpr
      ⟨.content rfl (.octets (.bytes _)), List.forall_mem_singleton.mpr (.same _ _)⟩)
  have otherSpells : IsSpellingOf tag other plain :=
    .items rfl rfl (List.forall_mem_cons.mpr
      ⟨.content rfl numerals, List.forall_mem_singleton.mpr (.same _ _)⟩)
  have encoded : marshal tag value [] = .ok [2, 1, 2, 1, 31, 0] := rfl
  have sameEncoding := marshal_eq_of_spellings [] tag value other plain spells otherSpells
  exact ⟨spells, otherSpells, encoded, sameEncoding.symm.trans encoded⟩

/-- Zeros in front of a numeral do not change what it spells, but with 4300 of them it is refused. -/
theorem marshal_long_numeral :
    let text := List.replicate 4300 '0' ++ ['5']
    let digits := List.replicate 4300 0 ++ [5]
    Numeral.Digits .decimal text digits ∧ Numeral.ofDigits 10 digits = 5 ∧
      marshal .u8 (.int 5) [] = .ok [5] ∧
      marshal .u8 (.text (String.ofList text)) [] =
        .error (.parse (.invalidInteger "u8" (String.ofList text))) := by
  intro text digits
  have spelled : Numeral.Digits .decimal text digits := .zeros 4300 (.last rfl)
  have padded : IsPadded (String.ofList text) (Numeral.Sign.none.characters ++ text) :=
    ⟨[], [], List.forall_mem_nil _, List.forall_mem_nil _, by simp [Numeral.Sign.characters]⟩
  have many : Numeral.maxDecimalDigits < digits.length := by
    rw [List.length_append, List.length_replicate]
    decide
  have unread := integerOfText?_decimal padded spelled
  rw [if_pos many] at unread
  refine ⟨spelled, Numeral.ofDigits_zeros 10 4300 [5], rfl, ?_⟩
  rw [TypeTag.u8, marshal_integer, toInteger, unread]
  rfl

end Value

end MoveClient
