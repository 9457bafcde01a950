import MoveClient.Proofs.TypeTag.Acceptance

/-!
Printed types are read back.

Owns:
- which types can be spelled: the names in them are identifiers, and the numbers of their type
  parameters are not too long;
- the tokens of printed types, and that they make up the type;
- that reading undoes printing, and that what is read can be printed and read again.

Does not own: which texts are types.
-/

namespace MoveClient.TypeTag

mutual

/-- The names in the type are identifiers, at any depth, and no type parameter has a negative number
or one with more digits than the reader takes. -/
def IsSpellable : TypeTag → Prop
  | .primitive _ => True
  | .vector element => element.IsSpellable
  | .struct _ module name arguments =>
      IsIdentifier module.toList ∧ IsIdentifier name.toList ∧ AreSpellable arguments
  | .generic (.ofNat index) => (Nat.toDigits 10 index).length ≤ maxGenericDigits
  | .generic (.negSucc _) => False
  | .reference target => target.IsSpellable

/-- Every type of the list can be spelled. -/
def AreSpellable : List TypeTag → Prop
  | [] => True
  | first :: rest => first.IsSpellable ∧ AreSpellable rest

end

variable {tag : TypeTag} {tokens following : List TypeToken} {rest : List Char}

/-! ## Tokens of printed text -/

/-- The characters spell the tokens in front of everything that does not lengthen their last
word. -/
def Spells (characters : List Char) (tokens : List TypeToken) : Prop :=
  ∀ rest following, (∀ c ∈ rest.head?, isTokenCharacter c = false) → Tokenizes rest following →
    Tokenizes (characters ++ rest) (tokens ++ following)

theorem tokenizes_characters
    (token : TypeToken)
    (ends : token.EndsBefore rest)
    (restTokens : Tokenizes rest following) :
    Tokenizes (token.characters ++ rest) (token :: following) :=
  ⟨[], rest, nofun, rfl, ends, restTokens⟩

theorem tokenizes_space_cons
    {text : List Char}
    (tokenized : Tokenizes text tokens) :
    Tokenizes (' ' :: text) tokens := by
  have skipped : skipBlanks (' ' :: text) = skipBlanks text := rfl
  rw [← tokenizes_skipBlanks_iff, skipped, tokenizes_skipBlanks_iff]
  exact tokenized

/-- No mark lengthens a word. -/
theorem stops_of_mark
    (mark : TypeToken)
    (isMark : ∀ name, mark ≠ .word name) :
    ∀ c ∈ (mark.characters ++ rest).head?, isTokenCharacter c = false := by
  intro c member
  cases mark with
  | word name => exact absurd rfl (isMark name)
  | colons | comma | opening | closing | ampersand =>
      cases member
      decide

/-- A word spells itself. -/
theorem spells_word
    (name : List Char)
    (nonempty : name ≠ [])
    (inWord : ∀ c ∈ name, isTokenCharacter c = true) :
    Spells name [.word name] := by
  intro rest following stops restTokens
  exact tokenizes_characters (.word name) ⟨nonempty, inWord, stops⟩ restTokens

theorem isTokenCharacter_of_isDigit
    {c : Char}
    (digit : c.isDigit = true) :
    isTokenCharacter c = true := by
  rw [isTokenCharacter_iff, Char.isAlphanum, digit, Bool.or_true]
  exact .inl rfl

theorem isTokenCharacter_of_isHexDigit
    {c : Char}
    (digit : isHexDigit c = true) :
    isTokenCharacter c = true := by
  have order (left right : Char) : left ≤ right ↔ left.toNat ≤ right.toNat := Iff.rfl
  rw [isHexDigit, hexDigitValue?] at digit
  simp only [order, Char.reduceToNat] at digit
  simp only [isTokenCharacter, order, Char.reduceToNat, Bool.or_eq_true, Bool.and_eq_true,
    decide_eq_true_eq]
  grind

theorem spells_primitive (type : PrimitiveType) :
    Spells type.name.toList [.word type.name.toList] := by
  have inWord : type.name.toList ≠ [] ∧ type.name.toList.all isTokenCharacter = true := by
    rcases type with _ | ⟨_ | _, _ | _ | _ | _ | _ | _⟩ | _ | _ <;> decide
  exact spells_word _ inWord.1 (List.all_eq_true.mp inWord.2)

theorem spells_identifier
    {name : List Char}
    (isIdentifier : IsIdentifier name) :
    Spells name [.word name] := by
  obtain ⟨nonempty, inWord, _⟩ := isIdentifier_iff.mp isIdentifier
  exact spells_word name nonempty inWord

/-- The digits of an address are part of the word that their marker begins. -/
theorem spells_digits
    {address : Address}
    {digits : List Char}
    (spelled : address.SpelledBy digits) :
    Spells ('0' :: 'x' :: digits) [.word ('0' :: 'x' :: digits)] := by
  obtain ⟨_, _, values, valued, _⟩ := spelled
  have areDigits := List.all_eq_true.mp (Address.exists_values_iff.mp ⟨values, valued⟩)
  apply spells_word _ (List.cons_ne_nil _ _)
  intro c member
  rcases List.mem_cons.mp member with rfl | member
  · decide
  rcases List.mem_cons.mp member with rfl | member
  · decide
  · exact isTokenCharacter_of_isHexDigit (areDigits c member)

/-- The printed path of a structure names it. -/
theorem exists_spells_path
    {module name : String}
    (address : Address)
    (moduleIdentifier : IsIdentifier module.toList)
    (nameIdentifier : IsIdentifier name.toList) :
    ∃ path, IsPath address module name path ∧
      Spells (address.text ++ "::" ++ module ++ "::" ++ name).toList path := by
  obtain ⟨digits, textEq, spelled⟩ := address.spelledBy_text
  refine ⟨_, .intro spelled moduleIdentifier nameIdentifier, ?_⟩
  intro rest following stops restTokens
  have nameTokens := spells_identifier nameIdentifier _ _ stops restTokens
  have moduleTokens := spells_identifier moduleIdentifier _ _ (stops_of_mark .colons (by simp))
    (tokenizes_characters .colons trivial nameTokens)
  have pathTokens := spells_digits spelled _ _ (stops_of_mark .colons (by simp))
    (tokenizes_characters .colons trivial moduleTokens)
  simpa [TypeToken.characters, textEq] using pathTokens

/-- A printed number is read as the number. -/
theorem derives_generic
    {admits : List Char → Prop}
    (index : Nat)
    (admitted : admits (Nat.toDigits 10 index)) :
    Derives admits [.word ('T' :: Nat.toDigits 10 index)] (.generic index) := by
  have areDigits : AreDigits (Nat.toDigits 10 index) :=
    ⟨Nat.toDigits_ne_nil, fun _ member => Nat.isDigit_of_mem_toDigits (by decide) (by decide) member⟩
  have derived := Derives.generic areDigits admitted
  rw [Nat.ofDigitChars_ten_toDigits] at derived
  exact derived

/-! ## Printed types -/

/-- What is printed behind a type argument does not lengthen its last word. -/
theorem stops_textOfRest
    (others : List TypeTag)
    (text : List Char) :
    ∀ c ∈ ((textOfRest others).toList ++ text).head?, isTokenCharacter c = false := by
  cases others with
  | nil => exact stops_of_mark .closing (by simp)
  | cons next others =>
      have front : ∃ behind, (textOfRest (next :: others)).toList ++ text =
          TypeToken.comma.characters ++ behind := by
        simp [textOfRest, TypeToken.characters]
      obtain ⟨behind, textEq⟩ := front
      rw [textEq]
      exact stops_of_mark .comma (by simp)

mutual

/-- The printed form of a type spells tokens that make up the type. -/
theorem exists_spells_text :
    (tag : TypeTag) → tag.IsSpellable →
      ∃ tokens, Derives (Admitted true) tokens tag ∧ Spells tag.text.toList tokens
  | .primitive type, _ => ⟨_, .primitive type, spells_primitive type⟩
  | .vector element, spellable => by
      obtain ⟨tokens, derived, spells⟩ := exists_spells_text element spellable
      refine ⟨_, .vector derived, ?_⟩
      intro rest following _ restTokens
      have elementTokens := spells _ _ (stops_of_mark .closing (by simp))
        (tokenizes_characters .closing trivial restTokens)
      have vectorTokens := spells_word "vector".toList nofun (List.all_eq_true.mp rfl) _ _
        (stops_of_mark .opening (by simp)) (tokenizes_characters .opening trivial elementTokens)
      simpa [text, TypeToken.characters] using vectorTokens
  | .reference target, spellable => by
      obtain ⟨tokens, derived, spells⟩ := exists_spells_text target spellable
      refine ⟨_, .reference derived, ?_⟩
      intro rest following stops restTokens
      have ampersand := tokenizes_characters .ampersand trivial (spells _ _ stops restTokens)
      simpa [text, TypeToken.characters] using ampersand
  | .generic (.ofNat index), short => by
      refine ⟨_, derives_generic index ⟨rfl, short⟩, ?_⟩
      have textEq :
          (TypeTag.generic (.ofNat index)).text.toList = 'T' :: Nat.toDigits 10 index := by
        show ("T" ++ Nat.repr index).toList = _
        simp
      rw [textEq]
      apply spells_word _ (List.cons_ne_nil _ _)
      intro c member
      rcases List.mem_cons.mp member with rfl | member
      · decide
      · exact isTokenCharacter_of_isDigit
          (Nat.isDigit_of_mem_toDigits (by decide) (by decide) member)
  | .struct address module name [], spellable => by
      obtain ⟨path, named, spells⟩ := exists_spells_path address spellable.1 spellable.2.1
      refine ⟨path, .struct named, ?_⟩
      simpa [text, textOfArguments] using spells
  | .struct address module name (first :: others), spellable => by
      obtain ⟨path, named, spells⟩ := exists_spells_path address spellable.1 spellable.2.1
      obtain ⟨firstTokens, derived, spellsFirst⟩ := exists_spells_text first spellable.2.2.1
      obtain ⟨tokens, derives, spellsOthers⟩ := exists_spells_textOfRest others spellable.2.2.2
      refine ⟨_, .application named (derives first firstTokens derived), ?_⟩
      intro rest following _ restTokens
      have argumentsTokens := spellsFirst _ _ (stops_textOfRest others rest)
        (spellsOthers _ _ restTokens)
      have pathTokens := spells _ _ (stops_of_mark .opening (by simp))
        (tokenizes_characters .opening trivial argumentsTokens)
      simpa [text, textOfArguments, TypeToken.characters] using pathTokens

/-- The printed type arguments behind the first spell tokens that go on with them. -/
theorem exists_spells_textOfRest :
    (others : List TypeTag) → AreSpellable others →
      ∃ tokens,
        (∀ first firstTokens, Derives (Admitted true) firstTokens first →
          DerivesArguments (Admitted true) (firstTokens ++ tokens) (first :: others)) ∧
        ∀ rest following, Tokenizes rest following →
          Tokenizes ((textOfRest others).toList ++ rest) (tokens ++ .closing :: following)
  | [], _ => by
      refine ⟨[], ?_, ?_⟩
      · intro first firstTokens derived
        rw [List.append_nil]
        exact .last derived
      · intro rest following restTokens
        exact tokenizes_characters .closing trivial restTokens
  | next :: others, spellable => by
      obtain ⟨nextTokens, derived, spells⟩ := exists_spells_text next spellable.1
      obtain ⟨tokens, derives, spellsOthers⟩ := exists_spells_textOfRest others spellable.2
      refine ⟨.comma :: nextTokens ++ tokens, ?_, ?_⟩
      · intro first firstTokens firstDerived
        exact .more firstDerived (derives next nextTokens derived)
      · intro rest following restTokens
        have nextText := spells _ _ (stops_textOfRest others rest) (spellsOthers _ _ restTokens)
        have commaTokens := tokenizes_characters .comma trivial (tokenizes_space_cons nextText)
        simpa [textOfRest, TypeToken.characters] using commaTokens

end

/-! ## Reading what is printed -/

theorem ofDigitChars_lt
    {digits : List Char}
    (areDigits : ∀ digit ∈ digits, digit.isDigit = true) :
    Nat.ofDigitChars 10 digits 0 < 10 ^ digits.length := by
  induction digits with
  | nil => decide
  | cons digit digits inductionHypothesis =>
      have below := inductionHypothesis fun _ member => areDigits _ (List.mem_cons_of_mem _ member)
      have small : digit.toNat - '0'.toNat ≤ 9 := by
        have bounds := Char.isDigit_iff_toNat.mp (areDigits digit List.mem_cons_self)
        simp only [Char.reduceToNat] at bounds ⊢
        omega
      rw [Nat.ofDigitChars_cons, Nat.ofDigitChars_eq_ofDigitChars_zero, List.length_cons, Nat.pow_succ]
      calc
        10 ^ digits.length * (10 * 0 + (digit.toNat - '0'.toNat)) + Nat.ofDigitChars 10 digits 0 <
            10 ^ digits.length * 9 + 10 ^ digits.length := by
          apply Nat.add_lt_add_of_le_of_lt _ below
          apply Nat.mul_le_mul_left
          omega
        _ = 10 ^ digits.length * 10 := by omega

/-- A number has no more digits than it was read from. -/
theorem length_toDigits_ofDigitChars_le
    {digits : List Char}
    (areDigits : AreDigits digits) :
    (Nat.toDigits 10 (Nat.ofDigitChars 10 digits 0)).length ≤ digits.length := by
  have positive : 0 < digits.length := List.length_pos_iff.mpr areDigits.1
  rw [Nat.length_toDigits_le_iff (by decide) positive]
  exact ofDigitChars_lt areDigits.2

mutual

/-- Types that are derived can be spelled. -/
theorem Derives.isSpellable
    {genericsAllowed : Bool} :
    {tokens : List TypeToken} → {tag : TypeTag} → Derives (Admitted genericsAllowed) tokens tag →
      tag.IsSpellable
  | _, _, .primitive _ => trivial
  | _, _, .vector derived => derived.isSpellable
  | _, _, .reference derived => derived.isSpellable
  | _, _, .generic areDigits admitted =>
      Nat.le_trans (length_toDigits_ofDigitChars_le areDigits) admitted.2
  | _, _, .struct named => ⟨named.identifiers.1, named.identifiers.2, trivial⟩
  | _, _, .application named derived =>
      ⟨named.identifiers.1, named.identifiers.2, derived.areSpellable⟩

theorem DerivesArguments.areSpellable
    {genericsAllowed : Bool} :
    {tokens : List TypeToken} → {arguments : List TypeTag} →
      DerivesArguments (Admitted genericsAllowed) tokens arguments → AreSpellable arguments
  | _, _, .last derived => ⟨derived.isSpellable, trivial⟩
  | _, _, .more derived rest => ⟨derived.isSpellable, rest.areSpellable⟩

end

/-- The printed form of a type that can be spelled is read as the type. -/
theorem parse_text_of_isSpellable
    (spellable : tag.IsSpellable) :
    parse tag.text true = .ok tag := by
  obtain ⟨tokens, derived, spells⟩ := exists_spells_text tag spellable
  have tokenized := spells [] [] nofun nofun
  rw [List.append_nil, List.append_nil] at tokenized
  exact parse_eq_ok_iff_derives.mpr ⟨tokens, tokenized, derived⟩

/-- Types that can be spelled are read back from their printed form, so that different ones are
printed differently; and whatever text a type is read from, its printed form is read as the type
again, where type parameters are allowed and where they are not. -/
theorem parse_text :
    (∀ tag : TypeTag, tag.IsSpellable → parse tag.text true = .ok tag) ∧
      (∀ tag other : TypeTag, tag.IsSpellable → other.IsSpellable → tag.text = other.text →
        tag = other) ∧
      ∀ text tag genericsAllowed, parse text genericsAllowed = .ok tag →
        parse tag.text genericsAllowed = .ok tag := by
  refine ⟨fun tag => parse_text_of_isSpellable, ?_, ?_⟩
  · intro tag other spellable otherSpellable same
    have read := parse_text_of_isSpellable spellable
    rw [same, parse_text_of_isSpellable otherSpellable] at read
    cases read
    rfl
  · intro text tag genericsAllowed read
    obtain ⟨_, _, derived⟩ := parse_eq_ok_iff_derives.mp read
    have readAgain := parse_text_of_isSpellable derived.isSpellable
    cases genericsAllowed with
    | true => exact readAgain
    | false => exact parse_false_eq_ok_iff.mpr ⟨readAgain, (parse_false_eq_ok_iff.mp read).2⟩

theorem parse_text_applied_struct :
    let tag := TypeTag.struct ⟨List.replicate 31 0 ++ [1], rfl⟩ "coin" "CoinStore"
      [.generic 12, .reference u8]
    tag.text = "0x1::coin::CoinStore<T12, &u8>" ∧
      parse "0x1::coin::CoinStore<T12, &u8>" true = .ok tag ∧
      parse " 0x01::coin::CoinStore < T012,&u8 >" true = .ok tag := by
  intro tag
  have short : (Nat.toDigits 10 12).length ≤ maxGenericDigits := by decide
  have spellable : tag.IsSpellable := ⟨by decide, by decide, short, trivial, trivial⟩
  have textEq : tag.text = "0x1::coin::CoinStore<T12, &u8>" := rfl
  have read := parse_text.1 tag spellable
  rw [textEq] at read
  exact ⟨textEq, read, rfl⟩

end MoveClient.TypeTag
