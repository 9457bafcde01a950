import MoveClient.Proofs.TypeTag.Reading

/-!
The types that are accepted are those that the grammar derives.

Owns:
- that a type that is read is derived from the tokens read for it;
- that a type that is derived is read, where what follows does not go on with it;
- which whole texts are types, with type parameters allowed and without.

Does not own: the grammar, the single steps of the readers.
-/

namespace MoveClient.TypeTag

/-- The digits that type parameters may have where they are allowed. -/
def Admitted (genericsAllowed : Bool) (digits : List Char) : Prop :=
  genericsAllowed = true ∧ digits.length ≤ maxGenericDigits

variable {genericsAllowed : Bool} {fuel : Nat} {text rest : List Char} {tag : TypeTag}
  {tokens : List TypeToken}

/-! ## What is read is derived -/

/-- Arguments that are read are derived from the tokens in front of their closing bracket. -/
def ReadsArguments
    (genericsAllowed : Bool)
    (arguments : List Char → Except Stop (List TypeTag × List Char)) : Prop :=
  ∀ text found rest, arguments text = .ok (found, rest) →
    ∃ tokens, Begins text (tokens ++ [.closing]) rest ∧
      DerivesArguments (Admitted genericsAllowed) tokens found

/-- What is read behind the first colons of a path is derived from the path and its arguments. -/
theorem derives_of_readNamed_path
    {arguments : List Char → Except Stop (List TypeTag × List Char)}
    {name after path : List Char}
    {start : Nat}
    (readsArguments : ReadsArguments genericsAllowed arguments)
    (leads : Leads (.word name) text after)
    (firstColons : Leads .colons after path)
    (read : readNamed genericsAllowed arguments name start (':' :: ':' :: path) = .ok (tag, rest)) :
    ∃ tokens, Begins text tokens rest ∧ Derives (Admitted genericsAllowed) tokens tag := by
  simp only [readNamed, Error.bind_eq_ok_iff, Prod.exists, structAddress_eq_ok_iff,
    identifier_eq_ok_iff, colons_eq_ok_iff] at read
  obtain ⟨address, ⟨digits, rfl, spelled⟩, module, _, ⟨moduleLeads, moduleIdentifier⟩, _,
    secondColons, structName, behind, ⟨nameLeads, nameIdentifier⟩, read⟩ := read
  have named := IsPath.intro spelled moduleIdentifier nameIdentifier
  have pathBegins {more : List TypeToken} (moreBegins : Begins behind more rest) :=
    leads.begins.append (firstColons.begins.append (moduleLeads.begins.append
      (secondColons.begins.append (nameLeads.begins.append moreBegins))))
  split at read
  · rename_i inner bracket
    obtain ⟨⟨found, final⟩, argumentsRead, same⟩ := Error.bind_eq_ok_iff.mp read
    cases same
    obtain ⟨tokens, innerBegins, derived⟩ := readsArguments _ _ _ argumentsRead
    have opening : Leads .opening behind inner := ⟨bracket, trivial⟩
    refine ⟨_, ?_, .application named derived⟩
    simpa using pathBegins (opening.begins.append innerBegins)
  · cases read
    exact ⟨_, pathBegins (begins_skipBlanks behind), .struct named⟩

/-- A type that is read behind a word is derived from the word and the tokens read behind it. -/
theorem derives_of_readNamed
    {arguments : List Char → Except Stop (List TypeTag × List Char)}
    {name after : List Char}
    {start : Nat}
    (readsArguments : ReadsArguments genericsAllowed arguments)
    (leads : Leads (.word name) text after)
    (read : readNamed genericsAllowed arguments name start (skipBlanks after) = .ok (tag, rest)) :
    ∃ tokens, Begins text tokens rest ∧ Derives (Admitted genericsAllowed) tokens tag := by
  by_cases path : ∃ inner, skipBlanks after = ':' :: ':' :: inner
  · obtain ⟨inner, front⟩ := path
    rw [front] at read
    exact derives_of_readNamed_path readsArguments leads ⟨front, trivial⟩ read
  unfold readNamed at read
  split at read
  · rename_i inner front
    exact absurd ⟨inner, front⟩ path
  split at read
  · rename_i type found
    split at read
    · cases read
    cases read
    have nameEq := congrArg String.toList (PrimitiveType.ofName?_eq_some_iff.mp found)
    rw [String.toList_ofList] at nameEq
    refine ⟨_, ?_, .primitive type⟩
    rw [nameEq]
    exact leads.begins.append (begins_skipBlanks after)
  split at read
  · rename_i isVector
    split at read
    · rename_i inner bracket
      obtain ⟨⟨found, final⟩, argumentsRead, same⟩ := Error.bind_eq_ok_iff.mp read
      dsimp only at same
      split at same
      · cases same
        obtain ⟨tokens, innerBegins, derived⟩ := readsArguments _ _ _ argumentsRead
        have opening : Leads .opening after inner := ⟨bracket, trivial⟩
        have nameEq := congrArg String.toList isVector
        rw [String.toList_ofList] at nameEq
        refine ⟨_, ?_, .vector derived.of_single⟩
        rw [← nameEq]
        simpa using leads.begins.append (opening.begins.append innerBegins)
      · cases same
    · cases read
  split at read
  · rename_i digits found
    obtain ⟨rfl, areDigits⟩ := genericDigits?_eq_some_iff.mp found
    split at read
    · cases read
    split at read
    · cases read
    rename_i allowed short
    cases read
    exact ⟨_, leads.begins.append (begins_skipBlanks after),
      .generic areDigits ⟨by simpa using allowed, Nat.not_lt.mp short⟩⟩
  · cases read

/-- Types and type arguments that are read are derived from the tokens in front of what is left. -/
theorem derives_of_read (fuel : Nat) :
    (∀ text tag rest, readType genericsAllowed fuel text = .ok (tag, rest) →
      ∃ tokens, Begins text tokens rest ∧ Derives (Admitted genericsAllowed) tokens tag) ∧
    (∀ done text arguments rest,
      readArguments genericsAllowed fuel text done = .ok (arguments, rest) →
        ∃ tokens found, arguments = done.reverse ++ found ∧
          Begins text (tokens ++ [.closing]) rest ∧
          DerivesArguments (Admitted genericsAllowed) tokens found) := by
  -- For both readers at once: each calls the other with less fuel.
  induction fuel with
  | zero =>
      refine ⟨?_, ?_⟩
      · intro text tag rest read
        rw [readType] at read
        cases read
      · intro done text arguments rest read
        rw [readArguments] at read
        cases read
  | succ fuel inductionHypothesis =>
      obtain ⟨ofType, ofArguments⟩ := inductionHypothesis
      have readsArguments : ReadsArguments genericsAllowed fun text =>
          readArguments genericsAllowed fuel text [] := by
        intro text found rest read
        obtain ⟨tokens, _, rfl, begins, derived⟩ := ofArguments _ _ _ _ read
        exact ⟨tokens, begins, derived⟩
      refine ⟨?_, ?_⟩
      · intro text tag rest read
        rcases readType_succ_eq_ok_iff.mp read with
          ⟨inner, target, ampersand, _, targetRead, rfl⟩ | ⟨name, after, word, namedRead⟩
        · obtain ⟨tokens, begins, derived⟩ := ofType _ _ _ targetRead
          have innerBegins := (begins_skipBlanks inner).append begins
          exact ⟨_, ampersand.begins.append innerBegins, .reference derived⟩
        · exact derives_of_readNamed readsArguments word namedRead
      · intro done text arguments rest read
        obtain ⟨argument, after, argumentRead, ending⟩ := readArguments_succ_eq_ok_iff.mp read
        obtain ⟨tokens, begins, derived⟩ := ofType _ _ _ argumentRead
        have argumentBegins := (begins_skipBlanks text).append begins
        rcases ending with ⟨closing, rfl⟩ | ⟨others, comma, othersRead⟩
        · exact ⟨tokens, [argument], by simp, argumentBegins.append closing.begins, .last derived⟩
        · obtain ⟨othersTokens, found, rfl, othersBegin, othersDerived⟩ :=
            ofArguments _ _ _ _ othersRead
          have restBegins := comma.begins.append ((begins_skipBlanks others).append othersBegin)
          refine ⟨tokens ++ .comma :: othersTokens, argument :: found, by simp, ?_,
            .more derived othersDerived⟩
          simpa using argumentBegins.append restBegins

theorem readsArguments_readArguments (fuel : Nat) :
    ReadsArguments genericsAllowed fun text => readArguments genericsAllowed fuel text [] := by
  intro text found rest read
  obtain ⟨tokens, _, rfl, begins, derived⟩ := (derives_of_read fuel).2 _ _ _ _ read
  exact ⟨tokens, begins, derived⟩

/-! ## What is derived is read -/

section Named

variable
  {arguments : List Char → Except Stop (List TypeTag × List Char)}
  {start : Nat}
  {name after inner : List Char}

theorem readNamed_primitive
    (type : PrimitiveType)
    (noColons : ∀ inner, ¬ Leads .colons after inner)
    (noOpening : ∀ inner, ¬ Leads .opening after inner) :
    readNamed genericsAllowed arguments type.name.toList start (skipBlanks after) =
      .ok (.primitive type, skipBlanks after) := by
  have found : PrimitiveType.ofName? (String.ofList type.name.toList) = some type := by
    rw [String.ofList_toList, PrimitiveType.ofName?_eq_some_iff]
  unfold readNamed
  split
  · rename_i inner front
    exact absurd ⟨front, trivial⟩ (noColons inner)
  rw [found]
  dsimp only
  split
  · rename_i inner front
    exact absurd ⟨front, trivial⟩ (noOpening inner)
  · rfl

theorem readNamed_vector
    (opening : Leads .opening after inner) :
    readNamed genericsAllowed arguments "vector".toList start (skipBlanks after) =
      arguments inner >>= fun result =>
        match result.1 with
        | [element] => .ok (.vector element, result.2)
        | _ => .error (.fault (.vectorParameterCount result.1.length) result.2.length) := by
  have front : skipBlanks after = '<' :: inner := opening.1
  have notPrimitive : PrimitiveType.ofName? "vector" = none := by decide
  simp only [front, readNamed, String.ofList_toList, notPrimitive]
  rfl

theorem readNamed_generic
    {digits : List Char}
    (areDigits : AreDigits digits)
    (noColons : ∀ inner, ¬ Leads .colons after inner) :
    readNamed genericsAllowed arguments ('T' :: digits) start (skipBlanks after) =
      if !genericsAllowed then .error (.fault .genericNotAllowed start)
      else if maxGenericDigits < digits.length then .error .numberTooLong
      else .ok (.generic (Nat.ofDigitChars 10 digits 0), skipBlanks after) := by
  have notPrimitive : PrimitiveType.ofName? (String.ofList ('T' :: digits)) = none := by
    rw [Option.eq_none_iff_forall_ne_some]
    intro type found
    have named := PrimitiveType.ofName?_eq_some_iff.mp found
    have distinct := type.name_distinct.1
    rw [named, String.toList_ofList] at distinct
    exact distinct rfl
  have notVector : String.ofList ('T' :: digits) ≠ "vector" := by
    intro same
    have characters := congrArg String.toList same
    rw [String.toList_ofList] at characters
    cases characters
  have found : genericDigits? ('T' :: digits) = some digits :=
    genericDigits?_eq_some_iff.mpr ⟨rfl, areDigits⟩
  unfold readNamed
  split
  · rename_i inner front
    exact absurd ⟨front, trivial⟩ (noColons inner)
  · rw [notPrimitive]
    dsimp only
    rw [if_neg notVector, found]

/-- A path is read up to what stands behind it, where type arguments may begin. -/
theorem exists_readNamed_of_isPath
    {address : Address}
    {module structName : String}
    {path : List TypeToken}
    (named : IsPath address module structName path)
    (begins : Begins text path rest) :
    ∃ name after, Leads (.word name) text after ∧
      ∀ arguments start,
        (∀ inner, Leads .opening rest inner →
          readNamed genericsAllowed arguments name start (skipBlanks after) =
            arguments inner >>= fun result =>
              .ok (.struct address module structName result.1, result.2)) ∧
        ((∀ inner, ¬ Leads .opening rest inner) →
          readNamed genericsAllowed arguments name start (skipBlanks after) =
            .ok (.struct address module structName [], skipBlanks rest)) := by
  obtain @⟨digits, spelled, moduleIdentifier, nameIdentifier⟩ := named
  obtain ⟨after, word, colons, firstColons, afterModule, moduleLeads, afterColons, secondColons,
    behind, nameLeads, blank⟩ := begins
  have front : skipBlanks after = ':' :: ':' :: colons := firstColons.1
  have addressRead (start : Nat) : structAddress ('0' :: 'x' :: digits) start = .ok address :=
    structAddress_eq_ok_iff.mpr ⟨digits, rfl, spelled⟩
  have moduleRead : identifier colons = .ok (module, afterModule) :=
    identifier_eq_ok_iff.mpr ⟨moduleLeads, moduleIdentifier⟩
  have colonsRead : TypeTag.colons afterModule = .ok afterColons := colons_eq_ok_iff.mpr secondColons
  have nameRead : identifier afterColons = .ok (structName, behind) :=
    identifier_eq_ok_iff.mpr ⟨nameLeads, nameIdentifier⟩
  have behindEq := skipBlanks_eq_of_begins_nil blank
  refine ⟨_, after, word, ?_⟩
  intro arguments start
  rw [front]
  simp only [readNamed, addressRead, moduleRead, colonsRead, nameRead, behindEq, Error.ok_bind]
  refine ⟨?_, ?_⟩
  · intro inner opening
    have bracket : skipBlanks rest = '<' :: inner := opening.1
    simp only [bracket]
  · intro noOpening
    split
    · rename_i inner bracket
      exact absurd ⟨bracket, trivial⟩ (noOpening inner)
    · rfl

end Named

theorem Derives.tokens_ne_nil
    {admits : List Char → Prop}
    (derived : Derives admits tokens tag) :
    tokens ≠ [] := by
  rcases derived with _ | _ | _ | _ | named | named
  · nofun
  · nofun
  · nofun
  · nofun
  · rcases named
    nofun
  · rcases named
    nofun

/-- No type begins with the word that marks a mutable reference. -/
theorem Derives.head?_ne_mut
    {admits : List Char → Prop}
    (derived : Derives admits tokens tag) :
    tokens.head? ≠ some (.word "mut".toList) := by
  rcases derived with type | _ | _ | _ | named | named
  · intro same
    have nameEq : type.name = "mut" := String.toList_inj.mp (by simpa using same)
    exact type.name_distinct.2.2 nameEq
  · simp
  · simp
  · simp
  · rcases named
    simp
  · rcases named
    simp

mutual

/-- A derived type is read, unless what follows goes on with it. -/
theorem Derives.exists_readType :
    {tokens : List TypeToken} → {tag : TypeTag} → Derives (Admitted genericsAllowed) tokens tag →
      (fuel : Nat) → (text rest : List Char) → tokens.length ≤ fuel → Begins text tokens rest →
      (∀ inner, ¬ Leads .opening rest inner) → (∀ inner, ¬ Leads .colons rest inner) →
      ∃ left, readType genericsAllowed fuel text = .ok (tag, left) ∧
        skipBlanks left = skipBlanks rest
  -- The recursion is on the derivation. A step spends one unit of fuel and takes a token at least,
  -- so that the tokens of a part always leave it enough; arguments count their closing bracket.
  | _, _, derived, 0, _, _, enough, _, _, _ =>
      absurd (List.length_eq_zero_iff.mp (Nat.le_zero.mp enough)) derived.tokens_ne_nil
  | _, _, .primitive type, fuel + 1, text, rest, _, begins, noOpening, noColons => by
      obtain ⟨after, word, blank⟩ := begins
      have afterEq := skipBlanks_eq_of_begins_nil blank
      refine ⟨skipBlanks after, (readType_of_word word).trans ?_, by rw [skipBlanks_skipBlanks, afterEq]⟩
      apply readNamed_primitive
      · intro inner leads
        exact noColons inner ((leads_iff_of_skipBlanks_eq afterEq).mp leads)
      · intro inner leads
        exact noOpening inner ((leads_iff_of_skipBlanks_eq afterEq).mp leads)
  | _, _, @Derives.vector _ tokens _ derived, fuel + 1, text, rest, enough, begins, _, _ => by
      obtain ⟨after, word, inner, opening, innerBegins⟩ := begins
      have argumentsEnough : tokens.length < fuel := by
        simp only [List.length_append, List.length_cons, List.length_nil] at enough
        omega
      obtain ⟨left, argumentsRead, leftEq⟩ := (DerivesArguments.last derived).exists_readArguments
        fuel inner [] rest argumentsEnough innerBegins
      refine ⟨left, (readType_of_word word).trans ?_, leftEq⟩
      rw [readNamed_vector opening, argumentsRead]
      rfl
  | _, _, .reference derived, fuel + 1, text, rest, enough, begins, noOpening, noColons => by
      obtain ⟨inner, ampersand, innerBegins⟩ := begins
      have frontBegins := (begins_skipBlanks_iff derived.tokens_ne_nil).mpr innerBegins
      have notMut : startsWithMut (skipBlanks inner) = false := by
        rw [Bool.eq_false_iff, Ne, startsWithMut_skipBlanks_iff]
        intro given
        obtain ⟨_, word⟩ := given
        exact derived.head?_ne_mut (innerBegins.head?_of_leads derived.tokens_ne_nil word)
      obtain ⟨left, read, leftEq⟩ := derived.exists_readType fuel _ rest
        (Nat.le_of_succ_le_succ enough) frontBegins noOpening noColons
      exact ⟨left, readType_succ_eq_ok_iff.mpr (.inl ⟨inner, _, ampersand, notMut, read, rfl⟩),
        leftEq⟩
  | _, _, .generic areDigits admitted, fuel + 1, text, rest, _, begins, _, noColons => by
      obtain ⟨after, word, blank⟩ := begins
      have afterEq := skipBlanks_eq_of_begins_nil blank
      refine ⟨skipBlanks after, (readType_of_word word).trans ?_, by rw [skipBlanks_skipBlanks, afterEq]⟩
      have noColonsAfter (inner : List Char) : ¬ Leads .colons after inner := fun leads =>
        noColons inner ((leads_iff_of_skipBlanks_eq afterEq).mp leads)
      rw [readNamed_generic areDigits noColonsAfter, if_neg (by simp [admitted.1]),
        if_neg (Nat.not_lt.mpr admitted.2)]
  | _, _, .struct named, fuel + 1, text, rest, _, begins, noOpening, _ => by
      obtain ⟨_, after, word, reads⟩ := exists_readNamed_of_isPath named begins
      exact ⟨skipBlanks rest, (readType_of_word word).trans ((reads _ _).2 noOpening),
        skipBlanks_skipBlanks rest⟩
  | _, _, @Derives.application _ _ _ _ path tokens _ named derived, fuel + 1, text, rest,
      enough, begins, _, _ => by
      rw [List.append_assoc] at begins
      obtain ⟨behind, pathBegins, inner, opening, innerBegins⟩ := begins_append_iff.mp begins
      obtain ⟨_, after, word, reads⟩ := exists_readNamed_of_isPath named pathBegins
      have argumentsEnough : tokens.length < fuel := by
        simp only [List.length_append, List.length_cons, List.length_nil] at enough
        omega
      obtain ⟨left, argumentsRead, leftEq⟩ := derived.exists_readArguments fuel inner [] rest
        argumentsEnough innerBegins
      refine ⟨left, (readType_of_word word).trans ?_, leftEq⟩
      rw [(reads _ _).1 inner opening, argumentsRead]
      rfl

/-- Derived type arguments are read up to their closing bracket. -/
theorem DerivesArguments.exists_readArguments :
    {tokens : List TypeToken} → {arguments : List TypeTag} →
      DerivesArguments (Admitted genericsAllowed) tokens arguments →
      (fuel : Nat) → (text : List Char) → (done : List TypeTag) → (rest : List Char) →
      tokens.length < fuel → Begins text (tokens ++ [.closing]) rest →
      ∃ left, readArguments genericsAllowed fuel text done = .ok (done.reverse ++ arguments, left) ∧
        skipBlanks left = skipBlanks rest
  | _, _, .last derived, fuel + 1, text, done, rest, enough, begins => by
      obtain ⟨middle, argumentBegins, left, closing, blank⟩ := begins_append_iff.mp begins
      have frontBegins := (begins_skipBlanks_iff derived.tokens_ne_nil).mpr argumentBegins
      obtain ⟨after, read, afterEq⟩ := derived.exists_readType fuel (skipBlanks text) middle
        (Nat.le_of_lt_succ enough) frontBegins (closing.not_leads nofun) (closing.not_leads nofun)
      have afterCloses := (leads_iff_of_skipBlanks_eq afterEq).mpr closing
      refine ⟨left, readArguments_succ_eq_ok_iff.mpr ⟨_, after, read, .inl ⟨afterCloses, ?_⟩⟩,
        skipBlanks_eq_of_begins_nil blank⟩
      rw [List.reverse_cons]
  | _, _, @DerivesArguments.more _ tokens others argument _ derived more, fuel + 1, text, done,
      rest, enough, begins => by
      have lengthEq : (tokens ++ .comma :: others).length = tokens.length + others.length + 1 := by
        simp only [List.length_append, List.length_cons]
        omega
      rw [List.append_assoc, List.cons_append] at begins
      obtain ⟨middle, argumentBegins, behind, comma, othersBegin⟩ := begins_append_iff.mp begins
      have frontBegins := (begins_skipBlanks_iff derived.tokens_ne_nil).mpr argumentBegins
      have othersFront := (begins_skipBlanks_iff (by simp)).mpr othersBegin
      obtain ⟨after, read, afterEq⟩ := derived.exists_readType fuel (skipBlanks text) middle
        (by omega) frontBegins (comma.not_leads nofun) (comma.not_leads nofun)
      obtain ⟨left, othersRead, leftEq⟩ := more.exists_readArguments fuel (skipBlanks behind)
        (argument :: done) rest (by omega) othersFront
      rw [List.reverse_cons, List.append_assoc] at othersRead
      have afterComma := (leads_iff_of_skipBlanks_eq afterEq).mpr comma
      exact ⟨left, readArguments_succ_eq_ok_iff.mpr
        ⟨argument, after, read, .inr ⟨behind, afterComma, othersRead⟩⟩, leftEq⟩

end

/-! ## Whole texts -/

/-- Reading a whole text is reading a type behind which there are only blanks. -/
theorem parse_eq_ok_iff {text : String} :
    parse text genericsAllowed = .ok tag ↔
      ∃ rest, readType genericsAllowed (2 * text.toList.length + 2) text.toList = .ok (tag, rest) ∧
        skipBlanks rest = [] := by
  generalize charactersEq : text.toList = characters
  rw [parse, charactersEq]
  dsimp only
  by_cases empty : skipBlanks characters = []
  · rw [if_pos empty]
    apply iff_of_false (by simp)
    intro given
    rcases given with ⟨rest, read, _⟩
    obtain ⟨_, _, leads, _⟩ := exists_leads_of_readType (read ▸ unfaulted_ok _)
    exact leads.skipBlanks_ne_nil empty
  rw [if_neg empty]
  split
  · rename_i stop read
    apply iff_of_false (by simp)
    intro given
    rcases given with ⟨rest, okRead, _⟩
    rw [read] at okRead
    cases okRead
  · rename_i read
    apply iff_of_false (by simp)
    intro given
    rcases given with ⟨rest, okRead, _⟩
    rw [read] at okRead
    cases okRead
  · rename_i found rest read
    have rest_iff : (∃ other, readType genericsAllowed (2 * characters.length + 2) characters =
        .ok (tag, other) ∧ skipBlanks other = []) ↔ found = tag ∧ skipBlanks rest = [] := by
      simp [read, and_assoc]
    rw [rest_iff]
    split
    · rename_i atEnd
      simp [atEnd]
    · rename_i front
      simp [front]
    · rename_i front
      simp [front]
    · rename_i notEmpty _ _
      apply iff_of_false (by simp)
      intro given
      rcases given with ⟨_, atEnd⟩
      exact notEmpty atEnd

/-- Exactly the texts whose tokens make up a type are read, as that type. -/
theorem parse_eq_ok_iff_derives {text : String} :
    parse text genericsAllowed = .ok tag ↔
      ∃ tokens, Tokenizes text.toList tokens ∧ Derives (Admitted genericsAllowed) tokens tag := by
  rw [parse_eq_ok_iff]
  apply Iff.intro
  · intro given
    obtain ⟨rest, read, atEnd⟩ := given
    obtain ⟨tokens, begins, derived⟩ := (derives_of_read _).1 _ _ _ read
    have blank := begins_skipBlanks rest
    rw [atEnd] at blank
    have whole := begins.append blank
    rw [List.append_nil] at whole
    exact ⟨tokens, tokenizes_iff_begins.mpr whole, derived⟩
  · intro given
    obtain ⟨tokens, tokenized, derived⟩ := given
    have begins := tokenizes_iff_begins.mp tokenized
    have enough := begins.length_le
    have noneLeads (token : TypeToken) (inner : List Char) : ¬ Leads token [] inner := by
      intro leads
      exact absurd leads.length_lt (Nat.not_lt_zero _)
    obtain ⟨rest, read, restEq⟩ := derived.exists_readType
      (2 * text.toList.length + 2) _ [] (by omega) begins (noneLeads _) (noneLeads _)
    exact ⟨rest, read, restEq⟩

/-- The text derives from the grammar, and the derivation denotes the type. -/
def Denotes (text : String) (tag : TypeTag) : Prop :=
  ∃ tokens, Tokenizes text.toList tokens ∧ Derives (fun _ => True) tokens tag

/-- Without type parameters exactly the types without type parameters are read. -/
theorem parse_false_eq_ok_iff {text : String} :
    parse text false = .ok tag ↔ parse text true = .ok tag ∧ tag.HasNoParameter := by
  simp only [parse_eq_ok_iff_derives]
  apply Iff.intro
  · intro given
    rcases given with ⟨tokens, tokenized, derived⟩
    have free := derived.hasNoParameter (fun _ admitted => Bool.noConfusion admitted.1)
    exact ⟨⟨tokens, tokenized, derived.of_hasNoParameter free⟩, free⟩
  · intro given
    rcases given with ⟨⟨tokens, tokenized, derived⟩, free⟩
    exact ⟨tokens, tokenized, derived.of_hasNoParameter free⟩

/-- Where no type parameter has too many digits, exactly the texts of the grammar are read, as the
type that the derivation denotes; and without type parameters exactly the types without them. -/
theorem parse_eq_ok_iff_denotes
    (text : String)
    (tag : TypeTag)
    (short : ∀ tokens digits, Tokenizes text.toList tokens → HasParameter tokens digits →
      digits.length ≤ maxGenericDigits) :
    (parse text true = .ok tag ↔ Denotes text tag) ∧
      (parse text false = .ok tag ↔ parse text true = .ok tag ∧ tag.HasNoParameter) := by
  refine ⟨?_, parse_false_eq_ok_iff⟩
  rw [parse_eq_ok_iff_derives]
  apply exists_congr
  intro tokens
  apply and_congr_right
  intro tokenized
  apply Iff.intro
  · intro derived
    exact derived.restrict fun _ _ _ => trivial
  · intro derived
    apply derived.restrict
    intro digits has _
    exact ⟨rfl, short tokens digits tokenized has⟩

/-- A type parameter of a text has fewer digits than the text has characters. -/
theorem length_lt_of_hasParameter
    {digits : List Char}
    (tokenized : Tokenizes text tokens)
    (has : HasParameter tokens digits) :
    digits.length < text.length := by
  obtain ⟨_, before, after, rfl, _⟩ := has
  have member : TypeToken.word ('T' :: digits) ∈ before ++ .word ('T' :: digits) :: after := by simp
  exact length_characters_le_of_tokenizes tokenized member

theorem denotes_vector_of_parameter :
    Denotes " vector<\n&T07> " (.vector (.reference (.generic 7))) ∧
      parse " vector<\n&T07> " false ≠ .ok (.vector (.reference (.generic 7))) := by
  have short : ∀ tokens digits, Tokenizes " vector<\n&T07> ".toList tokens →
      HasParameter tokens digits → digits.length ≤ maxGenericDigits := by
    intro tokens digits tokenized has
    have below := length_lt_of_hasParameter tokenized has
    exact Nat.le_trans (Nat.le_of_lt below) (by decide)
  have accepted := parse_eq_ok_iff_denotes " vector<\n&T07> " (.vector (.reference (.generic 7))) short
  refine ⟨accepted.1.mp rfl, ?_⟩
  intro read
  exact (accepted.2.mp read).2

end MoveClient.TypeTag
