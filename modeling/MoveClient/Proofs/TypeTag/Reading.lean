import MoveClient.Proofs.TypeTag.Grammar

/-!
What the readers of the parts of types take.

Owns:
- `StandsAt`, which says for every fault what stands at the place where it is reported;
- which texts the readers of names, addresses, identifiers and colons accept, and that they report
  what stands there where they accept none;
- that only one token stands in front of a text;
- what one step of the reader of types, and of the reader of type arguments, comes to.

Does not own: what the readers do in all their steps.
-/

namespace MoveClient

/-! ## Identifiers and addresses -/

/-- Letters are the capital ones and the small ones. -/
theorem isAlpha_iff {c : Char} :
    c.isAlpha = true ↔
      'A'.val ≤ c.val ∧ c.val ≤ 'Z'.val ∨ 'a'.val ≤ c.val ∧ c.val ≤ 'z'.val := by
  have alpha : c.isAlpha = (decide ('A'.val ≤ c.val ∧ c.val ≤ 'Z'.val) ||
    decide ('a'.val ≤ c.val) && decide (c.val ≤ 'z'.val)) := rfl
  simp only [alpha, Bool.or_eq_true, Bool.and_eq_true, decide_eq_true_eq]

theorem isTokenCharacter_iff {c : Char} :
    isTokenCharacter c = true ↔ c.isAlphanum = true ∨ c = '_' := by
  have order (left right : Char) : left ≤ right ↔ left.val ≤ right.val := Iff.rfl
  simp only [isTokenCharacter, order, Char.isAlphanum, isAlpha_iff,
    Char.isDigit, Bool.or_eq_true, Bool.and_eq_true, decide_eq_true_eq, beq_iff_eq, ge_iff_le]
  rw [or_comm (a := 'a'.val ≤ c.val ∧ c.val ≤ 'z'.val)]

/-- Letters are not digits. -/
theorem isDigit_eq_false_of_isAlpha
    {c : Char}
    (letter : c.isAlpha = true) :
    c.isDigit = false := by
  simp only [isAlpha_iff] at letter
  simp only [Char.isDigit, Bool.and_eq_false_iff, decide_eq_false_iff_not, ge_iff_le]
  grind

/-- An identifier is a word that does not begin with a digit. -/
theorem isIdentifier_iff {name : List Char} :
    IsIdentifier name ↔
      name ≠ [] ∧ (∀ c ∈ name, isTokenCharacter c = true) ∧ ∀ c ∈ name.head?, c.isDigit = false := by
  cases name with
  | nil => simp [IsIdentifier]
  | cons first rest =>
      have first_iff : (first.isAlpha = true ∨ first = '_') ↔
          isTokenCharacter first = true ∧ first.isDigit = false := by
        rw [isTokenCharacter_iff, Char.isAlphanum]
        by_cases underscore : first = '_'
        · rw [underscore]
          decide
        · cases letter : first.isAlpha with
          | false => cases digit : first.isDigit <;> simp [underscore]
          | true => simp [isDigit_eq_false_of_isAlpha letter]
      simp only [IsIdentifier, first_iff, isTokenCharacter_iff, List.forall_mem_cons, List.head?_cons,
        Option.mem_some_iff, forall_eq', ne_eq, reduceCtorEq, not_false_eq_true, true_and]
      exact and_right_comm

/-! ## Names -/

namespace PrimitiveType

variable {type : PrimitiveType}

theorem ofName?_eq_some_iff {name : String} : ofName? name = some type ↔ type.name = name := by
  apply Iff.intro
  · intro found
    have named := List.find?_some found
    exact eq_of_beq named
  · intro named
    rw [← named]
    rcases type with _ | ⟨_ | _, _ | _ | _ | _ | _ | _⟩ | _ | _ <;> rfl

/-- The names of primitive types begin with no `T`, and none of them is `vector` or `mut`. -/
theorem name_distinct (type : PrimitiveType) :
    type.name.toList.head? ≠ some 'T' ∧ type.name ≠ "vector" ∧ type.name ≠ "mut" := by
  rcases type with _ | ⟨_ | _, _ | _ | _ | _ | _ | _⟩ | _ | _ <;> decide

end PrimitiveType

namespace TypeTag

theorem genericDigits?_eq_some_iff
    {name digits : List Char} :
    genericDigits? name = some digits ↔ name = 'T' :: digits ∧ AreDigits digits := by
  unfold genericDigits?
  split
  · rename_i digit others
    by_cases allDigits : (digit :: others).all Char.isDigit = true
    · rw [if_pos allDigits]
      rw [List.all_eq_true] at allDigits
      apply Iff.intro
      · intro same
        cases same
        exact ⟨rfl, nofun, allDigits⟩
      · intro given
        rcases given with ⟨nameEq, _⟩
        rw [(List.cons.inj nameEq).2]
    · rw [if_neg allDigits]
      apply iff_of_false (by simp)
      intro given
      rcases given with ⟨nameEq, _, areDigits⟩
      rw [← (List.cons.inj nameEq).2] at areDigits
      exact allDigits (List.all_eq_true.mpr areDigits)
  · rename_i noDigits
    apply iff_of_false (by simp)
    intro given
    rcases given with ⟨nameEq, nonempty, _⟩
    obtain ⟨digit, others, rfl⟩ := List.exists_cons_of_ne_nil nonempty
    exact noDigits digit others nameEq

/-! ## Faults -/

/-- The text begins with the word, which reaches as far as it can. -/
def StartsWithWord (word text : List Char) : Prop :=
  ∃ rest, text = word ++ rest ∧ (TypeToken.word word).EndsBefore rest

/-- What stands at the place where a fault is reported. Of two faults, an empty text and a type that
is no structure, no place is reported. -/
def StandsAt (genericsAllowed : Bool) (place : List Char) : TypeTextFault → Prop
  | .empty | .notStruct => False
  | .unmatchedClose | .emptyParameterList | .trailingComma => place.head? = some '>'
  | .unexpectedComma => place.head? = some ','
  | .unexpectedBracket bracket => place.head? = some bracket ∧ (bracket = '<' ∨ bracket = '>')
  | .unexpectedEnd | .unmatchedOpen => place = []
  | .unexpectedCharacter c => place.head? = some c ∧ isTokenCharacter c = false
  | .trailingCharacters | .expectedSeparator => ∃ c, place.head? = some c ∧ c ≠ '>' ∧ c ≠ ','
  | .mutableReference => StartsWithWord "mut".toList place
  | .takesNoParameters name => place.head? = some '<' ∧ ∃ type : PrimitiveType, type.name = name
  | .vectorWithoutParameter => place.head? ≠ some '<'
  | .vectorParameterCount count => count ≠ 1
  | .genericNotAllowed =>
      genericsAllowed = false ∧ ∃ digits, StartsWithWord ('T' :: digits) place ∧ AreDigits digits
  | .unknownType name =>
      StartsWithWord name.toList place ∧ (∀ type : PrimitiveType, type.name ≠ name) ∧
        name ≠ "vector" ∧ ∀ digits, name.toList = 'T' :: digits → ¬ AreDigits digits
  | .addressWithoutMarker => ∃ word, StartsWithWord word place ∧ ¬ "0x".toList <+: word
  | .invalidAddress cause =>
      ∃ word, StartsWithWord word place ∧ Address.parseRelaxed (String.ofList word) = .error cause
  | .expectedIdentifier => ∀ c ∈ place.head?, isTokenCharacter c = false
  | .identifierStartsWithDigit name =>
      StartsWithWord name.toList place ∧ ∃ digit ∈ name.toList.head?, digit.isDigit = true
  | .expectedColons => ¬ "::".toList <+: place

/-- The reader stopped because of a fault, which stands where it is reported. -/
def StopsAtFault (genericsAllowed : Bool) (text : List Char) (stop : Stop) : Prop :=
  ∃ fault place, place <:+ text ∧ stop = .fault fault place.length ∧
    StandsAt genericsAllowed place fault

theorem StopsAtFault.of_suffix
    {genericsAllowed : Bool}
    {text inner : List Char}
    {stop : Stop}
    (stops : StopsAtFault genericsAllowed inner stop)
    (suffix : inner <:+ text) :
    StopsAtFault genericsAllowed text stop := by
  obtain ⟨fault, place, within, stopEq, stands⟩ := stops
  exact ⟨fault, place, within.trans suffix, stopEq, stands⟩

theorem skipBlanks_suffix (text : List Char) : skipBlanks text <:+ text :=
  List.dropWhile_suffix isBlank

/-! ## Parts of types -/

variable {text rest : List Char}

theorem leads_word_iff {name : List Char} :
    Leads (.word name) text rest ↔ name ≠ [] ∧ TypeTag.token (skipBlanks text) = (name, rest) := by
  apply Iff.intro
  · intro leads
    exact ⟨leads.2.1, (token_eq_iff leads.2.1).mpr leads⟩
  · intro given
    rcases given with ⟨nonempty, read⟩
    exact (token_eq_iff nonempty).mp read

theorem colons_eq_ok_iff : colons text = .ok rest ↔ Leads .colons text rest := by
  rw [Leads, colons]
  split
  · rename_i inner front
    rw [front]
    simp [TypeToken.characters, TypeToken.EndsBefore]
  · rename_i noColons
    apply iff_of_false (by simp)
    intro given
    rcases given with ⟨front, _⟩
    exact noColons rest front

theorem identifier_eq_ok_iff {name : String} :
    identifier text = .ok (name, rest) ↔
      Leads (.word name.toList) text rest ∧ IsIdentifier name.toList := by
  rw [leads_word_iff, isIdentifier_iff]
  rcases read : TypeTag.token (skipBlanks text) with ⟨word, after⟩
  simp only [identifier, read, Prod.mk.injEq]
  cases word with
  | nil =>
      apply iff_of_false (by simp)
      intro given
      rcases given with ⟨⟨nonempty, same, _⟩, _⟩
      exact nonempty same.symm
  | cons first others =>
      have inWord := ((token_eq_iff (List.cons_ne_nil first others)).mp read).2.2.1
      dsimp only
      by_cases digit : first.isDigit = true
      · rw [if_pos digit]
        apply iff_of_false (by simp)
        intro given
        rcases given with ⟨⟨_, same, _⟩, _, _, noDigit⟩
        rw [← same] at noDigit
        exact absurd (noDigit first rfl) (by simp [digit])
      · rw [if_neg digit, Except.ok.injEq, Prod.mk.injEq]
        have noDigit : ∀ c ∈ (first :: others).head?, c.isDigit = false := by simpa using digit
        apply Iff.intro
        · intro given
          rcases given with ⟨nameEq, restEq⟩
          subst nameEq
          rw [String.toList_ofList]
          exact ⟨⟨nofun, rfl, restEq⟩, nofun, inWord, noDigit⟩
        · intro given
          rcases given with ⟨⟨_, nameEq, restEq⟩, _⟩
          exact ⟨by rw [nameEq, String.ofList_toList], restEq⟩

theorem stopsAtFault_of_identifier
    {genericsAllowed : Bool}
    {stop : Stop}
    (failed : identifier text = .error stop) :
    StopsAtFault genericsAllowed text stop := by
  rcases read : TypeTag.token (skipBlanks text) with ⟨word, after⟩
  simp only [identifier, read] at failed
  cases word with
  | nil =>
      cases failed
      refine ⟨_, _, skipBlanks_suffix text, rfl, ?_⟩
      have none := congrArg Prod.fst read
      simp only [TypeTag.token, List.takeWhile_eq_nil_iff] at none
      intro c member
      cases front : skipBlanks text with
      | nil => simp [front] at member
      | cons first others => simp_all
  | cons first others =>
      have nonempty := List.cons_ne_nil first others
      dsimp only at failed
      split at failed
      · rename_i digit
        cases failed
        refine ⟨_, _, skipBlanks_suffix text, rfl, ?_⟩
        simp only [StandsAt, String.toList_ofList]
        exact ⟨⟨after, (token_eq_iff nonempty).mp read⟩, first, rfl, digit⟩
      · cases failed

theorem stopsAtFault_of_colons
    {genericsAllowed : Bool}
    {stop : Stop}
    (failed : colons text = .error stop) :
    StopsAtFault genericsAllowed text stop := by
  unfold colons at failed
  split at failed
  · cases failed
  · rename_i noColons
    cases failed
    refine ⟨_, _, skipBlanks_suffix text, rfl, ?_⟩
    intro front
    obtain ⟨rest, front⟩ := front
    exact noColons rest front.symm

theorem stopsAtFault_of_structAddress
    {genericsAllowed : Bool}
    {name : List Char}
    {stop : Stop}
    (starts : StartsWithWord name text)
    (failed : structAddress name text.length = .error stop) :
    StopsAtFault genericsAllowed text stop := by
  unfold structAddress at failed
  split at failed
  · split at failed
    · cases failed
    · rename_i cause refused
      cases failed
      exact ⟨_, _, List.suffix_refl text, rfl, _, starts, refused⟩
  · rename_i noMarker
    cases failed
    refine ⟨_, _, List.suffix_refl text, rfl, name, starts, ?_⟩
    intro marked
    obtain ⟨digits, marked⟩ := marked
    exact noMarker digits marked.symm

theorem structAddress_eq_ok_iff
    {name : List Char}
    {start : Nat}
    {address : Address} :
    structAddress name start = .ok address ↔
      ∃ digits, name = '0' :: 'x' :: digits ∧ address.SpelledBy digits := by
  unfold structAddress
  split
  · rename_i digits
    have relaxed : Address.parseRelaxed (String.ofList ('0' :: 'x' :: digits)) = .ok address ↔
        address.SpelledBy digits := by
      rw [Address.parseRelaxed_eq_ok_iff, String.toList_ofList, Address.dropMarker]
    cases read : Address.parseRelaxed (String.ofList ('0' :: 'x' :: digits)) with
    | ok found =>
        rw [read] at relaxed
        simpa using relaxed
    | error cause =>
        rw [read] at relaxed
        simpa using relaxed
  · rename_i noMarker
    apply iff_of_false (by simp)
    intro given
    rcases given with ⟨digits, nameEq, _⟩
    exact noMarker digits nameEq

/-! ## Tokens in front -/

/-- A mark begins with no character of a word. -/
theorem not_word_of_leads
    {name others : List Char}
    {c : Char}
    (leads : Leads (.word name) text others)
    (front : skipBlanks text = c :: rest) :
    isTokenCharacter c = true := by
  obtain ⟨wordFront, nonempty, inWord, _⟩ := leads
  match name, nonempty, inWord with
  | first :: name, _, inWord =>
      rw [front] at wordFront
      have same : c = first := (List.cons.inj wordFront).1
      rw [same]
      exact inWord first List.mem_cons_self

/-- Only one token stands in front of a text. -/
theorem Leads.unique
    {token other : TypeToken}
    {others : List Char}
    (leads : Leads token text rest)
    (otherLeads : Leads other text others) :
    token = other ∧ rest = others := by
  cases token with
  | word name =>
      cases other with
      | word otherName =>
          have same := (leads_word_iff.mp leads).2.symm.trans (leads_word_iff.mp otherLeads).2
          obtain ⟨rfl, rfl⟩ := Prod.mk.inj same
          exact ⟨rfl, rfl⟩
      | colons | comma | opening | closing | ampersand =>
          exact absurd (not_word_of_leads leads otherLeads.1) (by decide)
  | colons | comma | opening | closing | ampersand =>
      cases other with
      | word otherName => exact absurd (not_word_of_leads otherLeads leads.1) (by decide)
      | colons | comma | opening | closing | ampersand =>
          have same := leads.1.symm.trans otherLeads.1
          simp_all [TypeToken.characters]

/-- Where one token stands in front, no other does. -/
theorem Leads.not_leads
    {token other : TypeToken}
    (leads : Leads token text rest)
    (different : token ≠ other)
    (others : List Char) :
    ¬ Leads other text others :=
  fun otherLeads => different (leads.unique otherLeads).1

/-- There is one text behind the token in front. -/
theorem Leads.exists_and_iff
    {token : TypeToken}
    {P : List Char → Prop}
    (leads : Leads token text rest) :
    (∃ others, Leads token text others ∧ P others) ↔ P rest := by
  apply Iff.intro
  · intro given
    rcases given with ⟨others, otherLeads, holds⟩
    rw [(leads.unique otherLeads).2]
    exact holds
  · intro holds
    exact ⟨rest, leads, holds⟩

/-- What leads a text that begins with given tokens is the first of them. -/
theorem Begins.head?_of_leads
    {token : TypeToken}
    {tokens : List TypeToken}
    {others : List Char}
    (begins : Begins text tokens rest)
    (nonempty : tokens ≠ [])
    (leads : Leads token text others) :
    tokens.head? = some token := by
  cases tokens with
  | nil => exact absurd rfl nonempty
  | cons first tokens =>
      obtain ⟨middle, firstLeads, _⟩ := begins
      rw [(leads.unique firstLeads).1, List.head?_cons]

theorem startsWithMut_skipBlanks_iff :
    startsWithMut (skipBlanks text) = true ↔ ∃ rest, Leads (.word "mut".toList) text rest := by
  have ends (rest : List Char) : (TypeToken.word "mut".toList).EndsBefore rest ↔
      ∀ c ∈ rest.head?, isTokenCharacter c = false := by
    simp [TypeToken.EndsBefore, isTokenCharacter]
  simp only [Leads, ends]
  generalize skipBlanks text = front
  unfold startsWithMut
  split
  · rename_i rest
    cases rest with
    | nil => simp [TypeToken.characters]
    | cons c rest => simp [TypeToken.characters]
  · rename_i noMut
    apply iff_of_false (by simp)
    intro given
    rcases given with ⟨rest, frontEq, _⟩
    exact noMut rest frontEq

/-! ## One step of the reader -/

variable {genericsAllowed : Bool} {fuel : Nat} {tag : TypeTag}

theorem readType_of_ampersand
    {inner : List Char}
    (leads : Leads .ampersand text inner) :
    readType genericsAllowed (fuel + 1) text =
      if startsWithMut (skipBlanks inner) then
        .error (.fault .mutableReference (skipBlanks inner).length)
      else
        readType genericsAllowed fuel (skipBlanks inner) >>= fun result =>
          .ok (.reference result.1, result.2) := by
  have front : skipBlanks text = '&' :: inner := leads.1
  simp only [readType, front]
  split
  · rfl
  · cases readType genericsAllowed fuel (skipBlanks inner) with
    | error stop => rfl
    | ok result => rfl

theorem readType_of_word
    {name after : List Char}
    (leads : Leads (.word name) text after) :
    readType genericsAllowed (fuel + 1) text =
      readNamed genericsAllowed (fun text => readArguments genericsAllowed fuel text []) name
        (skipBlanks text).length (skipBlanks after) := by
  obtain ⟨nonempty, word⟩ := leads_word_iff.mp leads
  rw [readType]
  split
  · rename_i front
    exact absurd front leads.skipBlanks_ne_nil
  · rename_i inner front
    exact absurd (not_word_of_leads leads front) (by decide)
  · rename_i c tail _ front
    have inWord := not_word_of_leads leads front
    have notComma : c ≠ ',' := by
      rintro rfl
      exact absurd inWord (by decide)
    have noBracket : ¬ (c = '<' ∨ c = '>') := by
      rintro (rfl | rfl)
      · exact absurd inWord (by decide)
      · exact absurd inWord (by decide)
    rw [front] at word
    simp only [if_neg notComma, if_neg noBracket, word, if_neg nonempty, front]

/-- Where neither an ampersand nor a word stands in front, no type is read, and what stands there is
reported. -/
theorem exists_fault_of_readType
    (genericsAllowed : Bool)
    (noAmpersand : ∀ inner, ¬ Leads .ampersand text inner)
    (noWord : ∀ name after, ¬ Leads (.word name) text after) :
    ∃ stop, (∀ fuel, readType genericsAllowed (fuel + 1) text = .error stop) ∧
      StopsAtFault genericsAllowed text stop := by
  simp only [readType]
  split
  · exact ⟨_, fun _ => rfl, _, [], List.nil_suffix, rfl, rfl⟩
  · rename_i inner front
    exact absurd ⟨front, trivial⟩ (noAmpersand inner)
  rename_i c tail _ front
  have suffix : c :: tail <:+ text := front ▸ skipBlanks_suffix text
  by_cases comma : c = ','
  · simp only [if_pos comma]
    exact ⟨_, fun _ => rfl, _, _, suffix, rfl, congrArg some comma⟩
  simp only [if_neg comma]
  by_cases bracket : c = '<' ∨ c = '>'
  · simp only [if_pos bracket]
    exact ⟨_, fun _ => rfl, _, _, suffix, rfl, rfl, bracket⟩
  simp only [if_neg bracket]
  rcases word : TypeTag.token (c :: tail) with ⟨name, after⟩
  have noToken : name = [] := by
    by_contra nonempty
    rw [← front] at word
    exact noWord name after (leads_word_iff.mpr ⟨nonempty, word⟩)
  have notInWord : isTokenCharacter c = false := by
    have taken := congrArg Prod.fst word
    rw [noToken] at taken
    simpa [TypeTag.token] using taken
  simp only [if_pos noToken]
  exact ⟨_, fun _ => rfl, _, _, suffix, rfl, rfl, notInWord⟩

/-- A type that is read begins with an ampersand or with a word. -/
theorem readType_succ_eq_ok_iff :
    readType genericsAllowed (fuel + 1) text = .ok (tag, rest) ↔
      (∃ inner target, Leads .ampersand text inner ∧ startsWithMut (skipBlanks inner) = false ∧
        readType genericsAllowed fuel (skipBlanks inner) = .ok (target, rest) ∧
        tag = .reference target) ∨
      ∃ name after, Leads (.word name) text after ∧
        readNamed genericsAllowed (fun text => readArguments genericsAllowed fuel text []) name
          (skipBlanks text).length (skipBlanks after) = .ok (tag, rest) := by
  -- Only one token stands in front, so it leaves one alternative or none.
  by_cases ampersand : ∃ inner, Leads .ampersand text inner
  · obtain ⟨inner, leads⟩ := ampersand
    have noWord (name after : List Char) : ¬ Leads (.word name) text after :=
      leads.not_leads (by simp) after
    simp only [noWord, false_and, exists_false, or_false, exists_and_left, leads.exists_and_iff,
      readType_of_ampersand leads]
    by_cases isMut : startsWithMut (skipBlanks inner) = true
    · simp [isMut]
    · rw [if_neg isMut, Error.bind_eq_ok_iff]
      apply Iff.intro
      · intro given
        obtain ⟨⟨target, left⟩, targetRead, same⟩ := given
        cases same
        exact ⟨by simpa using isMut, target, targetRead, rfl⟩
      · intro given
        obtain ⟨_, target, targetRead, rfl⟩ := given
        exact ⟨(target, rest), targetRead, rfl⟩
  have noAmpersand := not_exists.mp ampersand
  simp only [noAmpersand, false_and, exists_false, false_or]
  by_cases word : ∃ name after, Leads (.word name) text after
  · obtain ⟨name, after, leads⟩ := word
    rw [readType_of_word leads]
    apply Iff.intro
    · intro read
      exact ⟨name, after, leads, read⟩
    · intro given
      obtain ⟨other, behind, otherLeads, read⟩ := given
      obtain ⟨same, rfl⟩ := leads.unique otherLeads
      cases same
      exact read
  have noWord (name after : List Char) : ¬ Leads (.word name) text after := fun leads =>
    word ⟨name, after, leads⟩
  obtain ⟨stop, failed, _⟩ := exists_fault_of_readType genericsAllowed noAmpersand noWord
  simp [failed, noWord]

/-! ## One step of the reader of type arguments -/

/-- Reading came to something else than a fault. -/
def Unfaulted {α : Type} (outcome : Except Stop α) : Prop :=
  ∀ fault remaining, outcome ≠ .error (.fault fault remaining)

theorem unfaulted_ok
    {α : Type}
    (result : α) :
    Unfaulted (.ok result) :=
  nofun

theorem unfaulted_numberTooLong {α : Type} : Unfaulted (.error .numberTooLong : Except Stop α) := by
  intro fault remaining same
  cases same

theorem StopsAtFault.not_unfaulted
    {α : Type}
    {stop : Stop}
    (stops : StopsAtFault genericsAllowed text stop) :
    ¬ Unfaulted (.error stop : Except Stop α) := by
  intro unfaulted
  obtain ⟨fault, place, _, rfl, _⟩ := stops
  exact unfaulted fault place.length rfl

/-- In front of a type that is read, or only has too many digits, there is neither a comma nor a
closing bracket. -/
theorem exists_leads_of_readType
    (unfaulted : Unfaulted (readType genericsAllowed fuel text)) :
    ∃ token after, Leads token text after ∧ token ≠ .comma ∧ token ≠ .closing := by
  cases fuel with
  | zero =>
      rw [readType] at unfaulted
      exact absurd rfl (unfaulted _ _)
  | succ fuel =>
      by_cases ampersand : ∃ inner, Leads .ampersand text inner
      · obtain ⟨inner, leads⟩ := ampersand
        exact ⟨_, inner, leads, nofun, nofun⟩
      by_cases word : ∃ name after, Leads (.word name) text after
      · obtain ⟨name, after, leads⟩ := word
        exact ⟨_, after, leads, nofun, nofun⟩
      obtain ⟨stop, failed, stops⟩ := exists_fault_of_readType
        genericsAllowed (not_exists.mp ampersand)
        (fun name after leads => word ⟨name, after, leads⟩)
      rw [failed] at unfaulted
      exact absurd unfaulted stops.not_unfaulted

variable {done : List TypeTag}

/-- What is done behind a type argument; `done` holds those already read, last first. -/
def readSeparator
    (genericsAllowed : Bool)
    (fuel : Nat)
    (done : List TypeTag)
    (text : List Char) :
    Except Stop (List TypeTag × List Char) :=
  match skipBlanks text with
  | [] => .error (.fault .unmatchedOpen 0)
  | '>' :: rest => .ok (done.reverse, rest)
  | ',' :: rest =>
      match skipBlanks rest with
      | ',' :: rest => .error (.fault .unexpectedComma (rest.length + 1))
      | rest => readArguments genericsAllowed fuel rest done
  | rest => .error (.fault .expectedSeparator rest.length)

/-- An argument is read where the text neither ends nor closes the arguments. -/
theorem readArguments_of_argument
    (nonempty : skipBlanks text ≠ [])
    (noClosing : ∀ inner, ¬ Leads .closing text inner) :
    readArguments genericsAllowed (fuel + 1) text done =
      readType genericsAllowed fuel (skipBlanks text) >>= fun result =>
        readSeparator genericsAllowed fuel (result.1 :: done) result.2 := by
  rw [readArguments]
  split
  · rename_i front
    exact absurd front nonempty
  · rename_i inner front
    exact absurd ⟨front, trivial⟩ (noClosing inner)
  · rfl

theorem exists_fault_of_readArguments
    (genericsAllowed : Bool)
    (done : List TypeTag)
    (noArgument : skipBlanks text = [] ∨ ∃ inner, Leads .closing text inner) :
    ∃ stop, (∀ fuel, readArguments genericsAllowed (fuel + 1) text done = .error stop) ∧
      StopsAtFault genericsAllowed text stop := by
  rcases noArgument with front | ⟨inner, front, _⟩
  · simp only [readArguments, front]
    exact ⟨_, fun _ => rfl, _, [], List.nil_suffix, rfl, rfl⟩
  · have suffix := skipBlanks_suffix text
    simp only [TypeToken.characters, List.cons_append, List.nil_append] at front
    simp only [readArguments, front]
    rw [front] at suffix
    refine ⟨_, fun _ => rfl, _, _, suffix, rfl, ?_⟩
    split
    · rfl
    · rfl

theorem readSeparator_of_closing
    (closing : Leads .closing text rest) :
    readSeparator genericsAllowed fuel done text = .ok (done.reverse, rest) := by
  have front : skipBlanks text = '>' :: rest := closing.1
  simp only [readSeparator, front]

theorem readSeparator_of_comma
    (comma : Leads .comma text rest)
    (noComma : ∀ inner, ¬ Leads .comma rest inner) :
    readSeparator genericsAllowed fuel done text =
      readArguments genericsAllowed fuel (skipBlanks rest) done := by
  have front : skipBlanks text = ',' :: rest := comma.1
  simp only [readSeparator, front]
  split
  · rename_i inner innerFront
    exact absurd ⟨innerFront, trivial⟩ (noComma inner)
  · rfl

theorem exists_fault_of_readSeparator_of_commas
    {inner : List Char}
    (genericsAllowed : Bool)
    (done : List TypeTag)
    (comma : Leads .comma text rest)
    (second : Leads .comma rest inner) :
    ∃ stop, (∀ fuel, readSeparator genericsAllowed fuel done text = .error stop) ∧
      StopsAtFault genericsAllowed text stop := by
  have front : skipBlanks text = ',' :: rest := comma.1
  have restFront : skipBlanks rest = ',' :: inner := second.1
  have suffix := (skipBlanks_suffix rest).trans comma.suffix
  rw [restFront] at suffix
  simp only [readSeparator, front, restFront]
  exact ⟨_, fun _ => rfl, _, _, suffix, rfl, rfl⟩

theorem exists_head?_eq_some
    {place : List Char}
    (nonempty : place = [] → False)
    (notClosing : ∀ rest, place = '>' :: rest → False)
    (notComma : ∀ rest, place = ',' :: rest → False) :
    ∃ c, place.head? = some c ∧ c ≠ '>' ∧ c ≠ ',' := by
  cases place with
  | nil => exact (nonempty rfl).elim
  | cons c rest =>
      refine ⟨c, rfl, ?_, ?_⟩
      · rintro rfl
        exact notClosing rest rfl
      · rintro rfl
        exact notComma rest rfl

theorem exists_fault_of_readSeparator
    (genericsAllowed : Bool)
    (done : List TypeTag)
    (noClosing : ∀ inner, ¬ Leads .closing text inner)
    (noComma : ∀ inner, ¬ Leads .comma text inner) :
    ∃ stop, (∀ fuel, readSeparator genericsAllowed fuel done text = .error stop) ∧
      StopsAtFault genericsAllowed text stop := by
  simp only [readSeparator]
  split
  · exact ⟨_, fun _ => rfl, _, [], List.nil_suffix, rfl, rfl⟩
  · rename_i inner front
    exact absurd ⟨front, trivial⟩ (noClosing inner)
  · rename_i inner front
    exact absurd ⟨front, trivial⟩ (noComma inner)
  · rename_i nonempty notClosing notComma
    exact ⟨_, fun _ => rfl, _, _, skipBlanks_suffix text, rfl,
      exists_head?_eq_some nonempty notClosing notComma⟩

theorem readArguments_not_unfaulted_of_comma
    (comma : Leads .comma text rest) :
    ¬ Unfaulted (readArguments genericsAllowed fuel text done) := by
  intro unfaulted
  cases fuel with
  | zero =>
      rw [readArguments] at unfaulted
      exact unfaulted _ _ rfl
  | succ fuel =>
      rw [readArguments_of_argument comma.skipBlanks_ne_nil (comma.not_leads nofun)] at unfaulted
      have typeUnfaulted : Unfaulted (readType genericsAllowed fuel (skipBlanks text)) := by
        intro fault remaining failed
        rw [failed] at unfaulted
        exact unfaulted fault remaining rfl
      obtain ⟨token, _, leads, notComma, _⟩ := exists_leads_of_readType typeUnfaulted
      exact notComma ((leads_skipBlanks_iff.mp leads).unique comma).1

/-- Behind a comma the next argument is read, if no fault comes in between. -/
theorem readSeparator_eq_iff_of_comma
    {outcome : Except Stop (List TypeTag × List Char)}
    (unfaulted : Unfaulted outcome)
    (comma : Leads .comma text rest) :
    readSeparator genericsAllowed fuel done text = outcome ↔
      readArguments genericsAllowed fuel (skipBlanks rest) done = outcome := by
  by_cases commas : ∃ inner, Leads .comma rest inner
  · obtain ⟨inner, second⟩ := commas
    obtain ⟨stop, failed, stops⟩ := exists_fault_of_readSeparator_of_commas
      genericsAllowed done comma second
    apply iff_of_false
    · intro same
      rw [← same, failed] at unfaulted
      exact stops.not_unfaulted unfaulted
    · intro same
      rw [← same] at unfaulted
      exact readArguments_not_unfaulted_of_comma (leads_skipBlanks_iff.mpr second) unfaulted
  · rw [readSeparator_of_comma comma (not_exists.mp commas)]

/-- Behind an argument the arguments are closed or go on after a comma. -/
theorem readSeparator_eq_iff
    {outcome : Except Stop (List TypeTag × List Char)}
    (unfaulted : Unfaulted outcome) :
    readSeparator genericsAllowed fuel done text = outcome ↔
      (∃ rest, Leads .closing text rest ∧ outcome = .ok (done.reverse, rest)) ∨
        ∃ others, Leads .comma text others ∧
          readArguments genericsAllowed fuel (skipBlanks others) done = outcome := by
  by_cases closes : ∃ rest, Leads .closing text rest
  · obtain ⟨rest, closing⟩ := closes
    have noComma (others : List Char) : ¬ Leads .comma text others :=
      closing.not_leads (by simp) others
    simp only [noComma, false_and, exists_false, or_false, closing.exists_and_iff,
      readSeparator_of_closing closing]
    exact eq_comm
  have noClosing := not_exists.mp closes
  simp only [noClosing, false_and, exists_false, false_or]
  by_cases goesOn : ∃ others, Leads .comma text others
  · obtain ⟨others, comma⟩ := goesOn
    rw [comma.exists_and_iff]
    exact readSeparator_eq_iff_of_comma unfaulted comma
  have noComma := not_exists.mp goesOn
  obtain ⟨stop, failed, stops⟩ := exists_fault_of_readSeparator
    genericsAllowed done noClosing noComma
  simp only [noComma, false_and, exists_false, iff_false]
  intro same
  rw [← same, failed] at unfaulted
  exact stops.not_unfaulted unfaulted

/-- Type arguments begin with a type, behind which they are closed or go on after a comma. -/
theorem readArguments_succ_eq_iff
    {outcome : Except Stop (List TypeTag × List Char)}
    (unfaulted : Unfaulted outcome) :
    readArguments genericsAllowed (fuel + 1) text done = outcome ↔
      (readType genericsAllowed fuel (skipBlanks text) = .error .numberTooLong ∧
        outcome = .error .numberTooLong) ∨
      ∃ argument after, readType genericsAllowed fuel (skipBlanks text) = .ok (argument, after) ∧
        ((∃ rest, Leads .closing after rest ∧ outcome = .ok ((argument :: done).reverse, rest)) ∨
          ∃ others, Leads .comma after others ∧
            readArguments genericsAllowed fuel (skipBlanks others) (argument :: done) =
              outcome) := by
  by_cases noArgument : skipBlanks text = [] ∨ ∃ inner, Leads .closing text inner
  · obtain ⟨stop, failed, stops⟩ := exists_fault_of_readArguments genericsAllowed done noArgument
    have noType : ¬ Unfaulted (readType genericsAllowed fuel (skipBlanks text)) := by
      intro typeUnfaulted
      obtain ⟨token, _, leads, _, notClosing⟩ := exists_leads_of_readType typeUnfaulted
      have front := leads_skipBlanks_iff.mp leads
      cases noArgument with
      | inl empty => exact front.skipBlanks_ne_nil empty
      | inr closes =>
          obtain ⟨inner, closing⟩ := closes
          exact notClosing (front.unique closing).1
    apply iff_of_false
    · intro same
      rw [← same, failed] at unfaulted
      exact stops.not_unfaulted unfaulted
    · intro alternatives
      rcases alternatives with ⟨tooLong, _⟩ | ⟨_, _, read, _⟩
      · exact noType (tooLong ▸ nofun)
      · exact noType (read ▸ unfaulted_ok _)
  rw [not_or] at noArgument
  rw [readArguments_of_argument noArgument.1 (not_exists.mp noArgument.2)]
  cases read : readType genericsAllowed fuel (skipBlanks text) with
  | error stop =>
      show Except.error stop = outcome ↔ _
      cases stop with
      | fault fault remaining => simp [(unfaulted fault remaining).symm]
      | numberTooLong => simp [eq_comm]
  | ok result =>
      obtain ⟨argument, after⟩ := result
      rw [Error.ok_bind, readSeparator_eq_iff unfaulted]
      simp [and_assoc]

theorem readArguments_succ_eq_ok_iff {arguments : List TypeTag} :
    readArguments genericsAllowed (fuel + 1) text done = .ok (arguments, rest) ↔
      ∃ argument after, readType genericsAllowed fuel (skipBlanks text) = .ok (argument, after) ∧
        ((Leads .closing after rest ∧ arguments = (argument :: done).reverse) ∨
          ∃ others, Leads .comma after others ∧
            readArguments genericsAllowed fuel (skipBlanks others) (argument :: done) =
              .ok (arguments, rest)) := by
  rw [readArguments_succ_eq_iff (unfaulted_ok _)]
  simp only [reduceCtorEq, and_false, false_or, Except.ok.injEq, Prod.mk.injEq]
  have closed (argument : TypeTag) (after : List Char) :
      (∃ other, Leads .closing after other ∧ arguments = (argument :: done).reverse ∧
        rest = other) ↔ Leads .closing after rest ∧ arguments = (argument :: done).reverse := by
    simp only [← and_assoc, exists_eq_right']
  simp only [closed]

end TypeTag

end MoveClient
