import MoveClient.Proofs.TypeTag.Acceptance

/-!
How reading a type fails.

Owns:
- `Awaits`, the grammar of what stands in front of a place where a type is awaited;
- that every reader stops because of a fault, which stands where it is reported, or because it came
  to a type parameter with too many digits, and that it does stop there;
- that more fuel than the text has characters changes nothing.

Does not own: which texts are read, and as which types.
-/

namespace MoveClient.TypeTag

variable {genericsAllowed : Bool} {fuel : Nat} {text rest middle : List Char} {stop : Stop}
  {tokens before : List TypeToken} {done : List TypeTag}

/-! ## Places where a type is awaited -/

mutual

/-- The tokens stand in front of a place where a type is awaited. -/
inductive Awaits (admits : List Char → Prop) : List TypeToken → Prop where
  | start : Awaits admits []
  | target
      {before : List TypeToken}
      (awaits : Awaits admits before) :
      Awaits admits (.ampersand :: before)
  | element
      {before : List TypeToken}
      (awaits : AwaitsArgument admits before) :
      Awaits admits (.word "vector".toList :: .opening :: before)
  | argument
      {address : Address}
      {module name : String}
      {path before : List TypeToken}
      (named : IsPath address module name path)
      (awaits : AwaitsArgument admits before) :
      Awaits admits (path ++ .opening :: before)

/-- The tokens stand behind an opening bracket, in front of a place where a type is awaited. -/
inductive AwaitsArgument (admits : List Char → Prop) : List TypeToken → Prop where
  | first
      {before : List TypeToken}
      (awaits : Awaits admits before) :
      AwaitsArgument admits before
  | later
      {tokens before : List TypeToken}
      {argument : TypeTag}
      (derived : Derives admits tokens argument)
      (awaits : AwaitsArgument admits before) :
      AwaitsArgument admits (tokens ++ .comma :: before)

end

/-- The digits are those of a type parameter in front of `rest`, and no number is read from so
many. -/
structure IsLongParameter (digits rest : List Char) : Prop where
  areDigits : AreDigits digits
  long : maxGenericDigits < digits.length
  noPath : ∀ inner, ¬ Leads .colons rest inner

/-- Such a type parameter stands in the text at a place where a type is awaited. -/
def ComesToLongParameter (awaits : List TypeToken → Prop) (text : List Char) : Prop :=
  ∃ before digits rest, awaits before ∧ Begins text (before ++ [.word ('T' :: digits)]) rest ∧
    IsLongParameter digits rest

/-! ## Why the readers stop -/

/-- The reader stopped because of a fault, which stands where it is reported, or at a type parameter
with too many digits where type parameters are allowed. -/
def HasReason
    (genericsAllowed : Bool)
    (awaits : List TypeToken → Prop)
    (text : List Char)
    (stop : Stop) : Prop :=
  StopsAtFault genericsAllowed text stop ∨
    stop = .numberTooLong ∧ genericsAllowed = true ∧ ComesToLongParameter awaits text

/-- What stops a reader behind some tokens stops the one that has read them. -/
theorem HasReason.behind
    {awaits awaitsBehind : List TypeToken → Prop}
    (reason : HasReason genericsAllowed awaitsBehind middle stop)
    (begins : Begins text tokens middle)
    (goesOn : ∀ before, awaitsBehind before → awaits (tokens ++ before)) :
    HasReason genericsAllowed awaits text stop := by
  cases reason with
  | inl stops => exact .inl (stops.of_suffix begins.suffix)
  | inr tooLong =>
      obtain ⟨stopEq, allowed, before, digits, rest, awaitsBefore, beginsBehind, isLong⟩ := tooLong
      refine .inr ⟨stopEq, allowed, tokens ++ before, digits, rest, goesOn before awaitsBefore, ?_,
        isLong⟩
      rw [List.append_assoc]
      exact begins.append beginsBehind

section Named

variable
  {arguments : List Char → Except Stop (List TypeTag × List Char)}
  {name after : List Char}

/-- What the readers of type arguments stop at, in texts that are short enough. -/
def ArgumentsHaveReason
    (genericsAllowed : Bool)
    (arguments : List Char → Except Stop (List TypeTag × List Char))
    (bound : Nat) : Prop :=
  ∀ inner stop, inner.length + 1 < bound → arguments inner = .error stop →
    HasReason genericsAllowed (AwaitsArgument (Admitted genericsAllowed)) inner stop

/-- What stops the reader of a path is a fault, or stops the reader of its type arguments. -/
theorem hasReason_of_readNamed_path
    {path : List Char}
    (argumentsHave : ArgumentsHaveReason genericsAllowed arguments text.length)
    (leads : Leads (.word name) text after)
    (firstColons : Leads .colons after path)
    (failed : readNamed genericsAllowed arguments name (skipBlanks text).length
      (':' :: ':' :: path) = .error stop) :
    HasReason genericsAllowed (Awaits (Admitted genericsAllowed)) text stop := by
  have starts : StartsWithWord name (skipBlanks text) := ⟨after, leads⟩
  have pathBegins := leads.begins.append firstColons.begins
  rw [readNamed] at failed
  rcases Error.bind_eq_error_iff.mp failed with addressFailed | ⟨address, addressRead, failed⟩
  · exact .inl ((stopsAtFault_of_structAddress starts addressFailed).of_suffix
      (skipBlanks_suffix text))
  rcases Error.bind_eq_error_iff.mp failed with moduleFailed | ⟨⟨module, _⟩, moduleRead, failed⟩
  · exact .inl ((stopsAtFault_of_identifier moduleFailed).of_suffix pathBegins.suffix)
  obtain ⟨moduleLeads, moduleIdentifier⟩ := identifier_eq_ok_iff.mp moduleRead
  have moduleBegins := pathBegins.append moduleLeads.begins
  rcases Error.bind_eq_error_iff.mp failed with colonsFailed | ⟨_, colonsRead, failed⟩
  · exact .inl ((stopsAtFault_of_colons colonsFailed).of_suffix moduleBegins.suffix)
  have colonsBegin := moduleBegins.append (colons_eq_ok_iff.mp colonsRead).begins
  rcases Error.bind_eq_error_iff.mp failed with nameFailed | ⟨⟨structName, behind⟩, nameRead, failed⟩
  · exact .inl ((stopsAtFault_of_identifier nameFailed).of_suffix colonsBegin.suffix)
  obtain ⟨nameLeads, nameIdentifier⟩ := identifier_eq_ok_iff.mp nameRead
  have begins := colonsBegin.append nameLeads.begins
  dsimp only at failed
  split at failed
  · rename_i inner bracket
    have opening : Leads .opening behind inner := ⟨bracket, trivial⟩
    have innerBegins := begins.append opening.begins
    have shorter := innerBegins.length_le
    simp only [List.length_append, List.length_cons, List.length_nil] at shorter
    rcases Error.bind_eq_error_iff.mp failed with argumentsFailed | ⟨_, _, failed⟩
    · have reason := argumentsHave inner stop (by omega) argumentsFailed
      apply reason.behind innerBegins
      intro before awaits
      obtain ⟨digits, rfl, spelled⟩ := structAddress_eq_ok_iff.mp addressRead
      have named := IsPath.intro spelled moduleIdentifier nameIdentifier
      simpa using Awaits.argument named awaits
    · cases failed
  · cases failed

/-- What stops the reader of a vector is a fault, or stops the reader of its arguments. -/
theorem hasReason_of_vector
    {inner : List Char}
    (readsArguments : ReadsArguments genericsAllowed arguments)
    (argumentsHave : ArgumentsHaveReason genericsAllowed arguments text.length)
    (leads : Leads (.word "vector".toList) text after)
    (opening : Leads .opening after inner)
    (failed : readNamed genericsAllowed arguments "vector".toList (skipBlanks text).length
      (skipBlanks after) = .error stop) :
    HasReason genericsAllowed (Awaits (Admitted genericsAllowed)) text stop := by
  have begins := leads.begins.append opening.begins
  rw [readNamed_vector opening, Error.bind_eq_error_iff] at failed
  rcases failed with failed | ⟨⟨found, behind⟩, read, failed⟩
  · have shorter := begins.length_le
    simp only [List.length_append, List.length_cons, List.length_nil] at shorter
    have reason := argumentsHave inner stop (by omega) failed
    apply reason.behind begins
    intro before awaits
    exact .element awaits
  · dsimp only at failed
    split at failed
    · cases failed
    · rename_i notSingle
      cases failed
      obtain ⟨tokens, argumentsBegin, _⟩ := readsArguments _ _ _ read
      refine .inl ⟨_, behind, argumentsBegin.suffix.trans begins.suffix, rfl, ?_⟩
      intro single
      obtain ⟨element, foundEq⟩ := List.length_eq_one_iff.mp single
      exact notSingle element foundEq

/-- What stops the reader of a type parameter is that none is allowed, or that it has too many
digits. -/
theorem hasReason_of_generic
    {digits : List Char}
    (areDigits : AreDigits digits)
    (leads : Leads (.word ('T' :: digits)) text after)
    (noColons : ∀ inner, ¬ Leads .colons after inner)
    (failed : readNamed genericsAllowed arguments ('T' :: digits) (skipBlanks text).length
      (skipBlanks after) = .error stop) :
    HasReason genericsAllowed (Awaits (Admitted genericsAllowed)) text stop := by
  rw [readNamed_generic areDigits noColons] at failed
  split at failed
  · rename_i forbidden
    cases failed
    exact .inl ⟨_, _, skipBlanks_suffix text, rfl, by simpa using forbidden, digits,
      ⟨after, leads⟩, areDigits⟩
  split at failed
  · rename_i allowed long
    cases failed
    exact .inr ⟨rfl, by simpa using allowed, [], digits, after, .start, leads.begins, areDigits,
      long, noColons⟩
  · cases failed

/-- Where a word begins no path, is no vector with its argument and no type parameter, the reader
stops at a fault. -/
theorem stopsAtFault_of_readNamed
    (leads : Leads (.word name) text after)
    (noColons : ∀ inner, ¬ Leads .colons after inner)
    (noVector : ¬ (name = "vector".toList ∧ ∃ inner, Leads .opening after inner))
    (noParameter : ¬ ∃ digits, name = 'T' :: digits ∧ AreDigits digits)
    (failed : readNamed genericsAllowed arguments name (skipBlanks text).length (skipBlanks after) =
      .error stop) :
    StopsAtFault genericsAllowed text stop := by
  have afterSuffix := (skipBlanks_suffix after).trans leads.suffix
  unfold readNamed at failed
  split at failed
  · rename_i inner front
    exact absurd ⟨front, trivial⟩ (noColons inner)
  split at failed
  · rename_i type found
    split at failed
    · rename_i inner front
      cases failed
      refine ⟨_, _, afterSuffix, rfl, ?_, type, PrimitiveType.ofName?_eq_some_iff.mp found⟩
      rw [front]
      rfl
    · cases failed
  rename_i notPrimitive
  split at failed
  · rename_i isVector
    have nameEq := congrArg String.toList isVector
    rw [String.toList_ofList] at nameEq
    split at failed
    · rename_i inner bracket
      exact absurd ⟨nameEq, inner, bracket, trivial⟩ noVector
    · rename_i noBracket
      cases failed
      refine ⟨_, _, afterSuffix, rfl, ?_⟩
      intro front
      obtain ⟨inner, bracket⟩ := List.head?_eq_some_iff.mp front
      exact noBracket inner bracket
  rename_i notVector
  split at failed
  · rename_i digits found
    exact absurd ⟨digits, genericDigits?_eq_some_iff.mp found⟩ noParameter
  · cases failed
    refine ⟨_, _, skipBlanks_suffix text, rfl, ?_, ?_, notVector, ?_⟩
    · rw [String.toList_ofList]
      exact ⟨after, leads⟩
    · intro type named
      rw [PrimitiveType.ofName?_eq_some_iff.mpr named] at notPrimitive
      cases notPrimitive
    · intro digits nameEq areDigits
      rw [String.toList_ofList] at nameEq
      exact noParameter ⟨digits, nameEq, areDigits⟩

/-- What stops the reader behind a word is a fault, or a type parameter with too many digits. -/
theorem hasReason_of_readNamed
    (readsArguments : ReadsArguments genericsAllowed arguments)
    (argumentsHave : ArgumentsHaveReason genericsAllowed arguments text.length)
    (leads : Leads (.word name) text after)
    (failed : readNamed genericsAllowed arguments name (skipBlanks text).length (skipBlanks after) =
      .error stop) :
    HasReason genericsAllowed (Awaits (Admitted genericsAllowed)) text stop := by
  by_cases path : ∃ inner, Leads .colons after inner
  · obtain ⟨inner, firstColons⟩ := path
    have front : skipBlanks after = ':' :: ':' :: inner := firstColons.1
    rw [front] at failed
    exact hasReason_of_readNamed_path argumentsHave leads firstColons failed
  have noColons := not_exists.mp path
  by_cases vector : name = "vector".toList ∧ ∃ inner, Leads .opening after inner
  · obtain ⟨rfl, inner, opening⟩ := vector
    exact hasReason_of_vector readsArguments argumentsHave leads opening failed
  by_cases parameter : ∃ digits, name = 'T' :: digits ∧ AreDigits digits
  · obtain ⟨digits, rfl, areDigits⟩ := parameter
    exact hasReason_of_generic areDigits leads noColons failed
  · exact .inl (stopsAtFault_of_readNamed leads noColons vector parameter failed)

end Named

/-- What stops the reader of separators is a fault, or stops the reader of the next arguments. -/
theorem hasReason_of_readSeparator
    {argument : TypeTag}
    (argumentsHave : ∀ inner, inner.length < rest.length →
      readArguments genericsAllowed fuel inner done = .error stop →
        HasReason genericsAllowed (AwaitsArgument (Admitted genericsAllowed)) inner stop)
    (begins : Begins text tokens rest)
    (derived : Derives (Admitted genericsAllowed) tokens argument)
    (failed : readSeparator genericsAllowed fuel done rest = .error stop) :
    HasReason genericsAllowed (AwaitsArgument (Admitted genericsAllowed)) text stop := by
  by_cases closes : ∃ inner, Leads .closing rest inner
  · obtain ⟨inner, closing⟩ := closes
    rw [readSeparator_of_closing closing] at failed
    cases failed
  by_cases goesOn : ∃ inner, Leads .comma rest inner
  · obtain ⟨inner, comma⟩ := goesOn
    by_cases commas : ∃ others, Leads .comma inner others
    · obtain ⟨others, second⟩ := commas
      obtain ⟨found, foundFailed, stops⟩ := exists_fault_of_readSeparator_of_commas
        genericsAllowed done comma second
      cases (foundFailed fuel).symm.trans failed
      exact .inl (stops.of_suffix begins.suffix)
    · rw [readSeparator_of_comma comma (not_exists.mp commas)] at failed
      have shorter := comma.length_lt
      have front := length_skipBlanks_le inner
      have reason := argumentsHave _ (by omega) failed
      apply reason.behind (begins.append (comma.begins.append (begins_skipBlanks inner)))
      intro before awaits
      simpa using AwaitsArgument.later derived awaits
  · obtain ⟨found, foundFailed, stops⟩ := exists_fault_of_readSeparator genericsAllowed done
      (not_exists.mp closes) (not_exists.mp goesOn)
    cases (foundFailed fuel).symm.trans failed
    exact .inl (stops.of_suffix begins.suffix)

/-- What stops the reader of types is a fault, or stops it behind an ampersand or a word. -/
theorem hasReason_of_readType_succ
    (ofType : ∀ inner, inner.length < text.length →
      readType genericsAllowed fuel inner = .error stop →
        HasReason genericsAllowed (Awaits (Admitted genericsAllowed)) inner stop)
    (ofArguments : ArgumentsHaveReason genericsAllowed
      (fun inner => readArguments genericsAllowed fuel inner []) text.length)
    (failed : readType genericsAllowed (fuel + 1) text = .error stop) :
    HasReason genericsAllowed (Awaits (Admitted genericsAllowed)) text stop := by
  by_cases ampersand : ∃ inner, Leads .ampersand text inner
  · obtain ⟨inner, leads⟩ := ampersand
    have begins := leads.begins.append (begins_skipBlanks inner)
    rw [readType_of_ampersand leads] at failed
    split at failed
    · rename_i isMut
      cases failed
      rw [← skipBlanks_skipBlanks, startsWithMut_skipBlanks_iff] at isMut
      obtain ⟨rest, word⟩ := isMut
      rw [Leads, skipBlanks_skipBlanks] at word
      exact .inl ⟨_, _, begins.suffix, rfl, rest, word⟩
    rcases Error.bind_eq_error_iff.mp failed with failed | ⟨_, _, failed⟩
    · have shorter := leads.length_lt
      have front := length_skipBlanks_le inner
      have reason := ofType _ (by omega) failed
      apply reason.behind begins
      intro before awaits
      exact .target awaits
    · cases failed
  by_cases word : ∃ name after, Leads (.word name) text after
  · obtain ⟨name, after, leads⟩ := word
    rw [readType_of_word leads] at failed
    exact hasReason_of_readNamed (readsArguments_readArguments fuel) ofArguments leads failed
  · obtain ⟨found, foundFailed, stops⟩ := exists_fault_of_readType
      genericsAllowed (not_exists.mp ampersand)
      (fun name after leads => word ⟨name, after, leads⟩)
    cases (foundFailed fuel).symm.trans failed
    exact .inl stops

/-- What stops the reader of type arguments is a fault, or stops it in an argument or behind one. -/
theorem hasReason_of_readArguments_succ
    (ofType : ∀ inner, inner.length ≤ text.length →
      readType genericsAllowed fuel inner = .error stop →
        HasReason genericsAllowed (Awaits (Admitted genericsAllowed)) inner stop)
    (ofArguments : ∀ inner done, inner.length < text.length →
      readArguments genericsAllowed fuel inner done = .error stop →
        HasReason genericsAllowed (AwaitsArgument (Admitted genericsAllowed)) inner stop)
    (failed : readArguments genericsAllowed (fuel + 1) text done = .error stop) :
    HasReason genericsAllowed (AwaitsArgument (Admitted genericsAllowed)) text stop := by
  by_cases noArgument : skipBlanks text = [] ∨ ∃ inner, Leads .closing text inner
  · obtain ⟨found, foundFailed, stops⟩ := exists_fault_of_readArguments
      genericsAllowed done noArgument
    cases (foundFailed fuel).symm.trans failed
    exact .inl stops
  rw [not_or] at noArgument
  rw [readArguments_of_argument noArgument.1 (not_exists.mp noArgument.2)] at failed
  rcases Error.bind_eq_error_iff.mp failed with failed | ⟨⟨argument, rest⟩, read, failed⟩
  · have reason := ofType _ (length_skipBlanks_le text) failed
    apply reason.behind (begins_skipBlanks text)
    intro before awaits
    exact .first awaits
  · obtain ⟨tokens, argumentBegins, derived⟩ := (derives_of_read fuel).1 _ _ _ read
    have begins := (begins_skipBlanks text).append argumentBegins
    have shorter := begins.suffix.length_le
    apply hasReason_of_readSeparator _ begins derived failed
    intro inner short
    exact ofArguments inner _ (by omega)

/-- With fuel for every character of the text, the readers stop for a reason. -/
theorem hasReason_of_failed
    (genericsAllowed : Bool)
    (fuel : Nat) :
    (∀ text stop, text.length < fuel → readType genericsAllowed fuel text = .error stop →
      HasReason genericsAllowed (Awaits (Admitted genericsAllowed)) text stop) ∧
    (∀ text done stop, text.length + 1 < fuel →
      readArguments genericsAllowed fuel text done = .error stop →
        HasReason genericsAllowed (AwaitsArgument (Admitted genericsAllowed)) text stop) := by
  -- For both readers at once: each calls the other with less fuel, behind a token at least.
  induction fuel with
  | zero => exact ⟨nofun, nofun⟩
  | succ fuel inductionHypothesis =>
      obtain ⟨ofType, ofArguments⟩ := inductionHypothesis
      refine ⟨?_, ?_⟩
      · intro text stop enough
        apply hasReason_of_readType_succ
        · intro inner shorter
          exact ofType inner stop (by omega)
        · intro inner stop shorter
          exact ofArguments inner [] stop (by omega)
      · intro text done stop enough
        apply hasReason_of_readArguments_succ
        · intro inner shorter
          exact ofType inner stop (by omega)
        · intro inner done shorter
          exact ofArguments inner done stop (by omega)

/-! ## The readers stop at a type parameter with too many digits -/

variable {digits : List Char}

/-- No place where a type is awaited is reached through the word that marks a mutable reference. -/
theorem Awaits.head?_ne_mut
    {admits : List Char → Prop}
    (awaits : Awaits admits before) :
    (before ++ [TypeToken.word ('T' :: digits)]).head? ≠ some (.word "mut".toList) := by
  cases awaits with
  | start => simp
  | target awaits => simp
  | element awaits => simp
  | argument named awaits =>
      cases named
      simp

mutual

/-- The reader of types comes to every place where a type is awaited. -/
theorem Awaits.readType_eq
    (isLong : IsLongParameter digits rest) :
    {before : List TypeToken} → Awaits (Admitted true) before → (fuel : Nat) →
      (text : List Char) → before.length < fuel →
      Begins text (before ++ [.word ('T' :: digits)]) rest →
      readType true fuel text = .error .numberTooLong
  | _, .start, fuel + 1, text, _, begins => by
      obtain ⟨after, word, blank⟩ := begins
      have noColons (inner : List Char) : ¬ Leads .colons after inner := fun leads =>
        isLong.noPath inner
          ((leads_iff_of_skipBlanks_eq (skipBlanks_eq_of_begins_nil blank)).mp leads)
      rw [readType_of_word word, readNamed_generic isLong.areDigits noColons, if_neg (by decide),
        if_pos isLong.long]
  | _, .target awaits, fuel + 1, text, enough, begins => by
      obtain ⟨inner, ampersand, innerBegins⟩ := begins
      have frontBegins := (begins_skipBlanks_iff (by simp)).mpr innerBegins
      have notMut : ¬ startsWithMut (skipBlanks inner) = true := by
        rw [startsWithMut_skipBlanks_iff]
        intro given
        obtain ⟨_, word⟩ := given
        exact awaits.head?_ne_mut (innerBegins.head?_of_leads (by simp) word)
      rw [readType_of_ampersand ampersand, if_neg notMut,
        awaits.readType_eq isLong fuel _ (Nat.lt_of_succ_lt_succ enough) frontBegins]
      rfl
  | _, @Awaits.element _ before awaits, fuel + 1, text, enough, begins => by
      obtain ⟨after, word, inner, opening, innerBegins⟩ := begins
      have argumentsEnough : before.length + 1 < fuel := by
        simp only [List.length_cons] at enough
        omega
      rw [readType_of_word word, readNamed_vector opening,
        awaits.readArguments_eq isLong fuel inner [] argumentsEnough innerBegins]
      rfl
  | _, @Awaits.argument _ _ _ _ path before named awaits, fuel + 1, text, enough, begins => by
      rw [List.append_assoc, List.cons_append] at begins
      obtain ⟨behind, pathBegins, inner, opening, innerBegins⟩ := begins_append_iff.mp begins
      obtain ⟨_, after, word, reads⟩ := exists_readNamed_of_isPath named pathBegins
      have argumentsEnough : before.length + 1 < fuel := by
        have pathLength : 0 < path.length := by
          cases named
          simp
        simp only [List.length_append, List.length_cons] at enough
        omega
      rw [readType_of_word word, (reads _ _).1 inner opening,
        awaits.readArguments_eq isLong fuel inner [] argumentsEnough innerBegins]
      rfl

/-- The reader of type arguments comes to every place where a type is awaited. -/
theorem AwaitsArgument.readArguments_eq
    (isLong : IsLongParameter digits rest) :
    {before : List TypeToken} → AwaitsArgument (Admitted true) before → (fuel : Nat) →
      (text : List Char) → (done : List TypeTag) → before.length + 1 < fuel →
      Begins text (before ++ [.word ('T' :: digits)]) rest →
      readArguments true fuel text done = .error .numberTooLong
  | _, .first awaits, fuel + 1, text, done, enough, begins => by
      have frontBegins := (begins_skipBlanks_iff (by simp)).mpr begins
      have failed := awaits.readType_eq isLong fuel _ (Nat.lt_of_succ_lt_succ enough) frontBegins
      exact (readArguments_succ_eq_iff unfaulted_numberTooLong).mpr (.inl ⟨failed, rfl⟩)
  | _, @AwaitsArgument.later _ tokens before argument derived awaits, fuel + 1, text, done, enough,
      begins => by
      simp only [List.length_append, List.length_cons] at enough
      rw [List.append_assoc, List.cons_append] at begins
      obtain ⟨middle, argumentBegins, behind, comma, behindBegins⟩ := begins_append_iff.mp begins
      have frontBegins := (begins_skipBlanks_iff derived.tokens_ne_nil).mpr argumentBegins
      have behindFront := (begins_skipBlanks_iff (by simp)).mpr behindBegins
      obtain ⟨after, read, afterEq⟩ := derived.exists_readType fuel (skipBlanks text) middle
        (by omega) frontBegins (comma.not_leads (by simp)) (comma.not_leads (by simp))
      have afterComma := (leads_iff_of_skipBlanks_eq afterEq).mpr comma
      have tokensLength := List.length_pos_iff.mpr derived.tokens_ne_nil
      have failed := awaits.readArguments_eq isLong fuel _ (argument :: done) (by omega)
        behindFront
      exact (readArguments_succ_eq_iff unfaulted_numberTooLong).mpr
        (.inr ⟨_, after, read, .inr ⟨behind, afterComma, failed⟩⟩)

end

/-! ## Fuel -/

section Named

variable
  {arguments others : List Char → Except Stop (List TypeTag × List Char)}
  {name : List Char}
  {start : Nat}

/-- Only the arguments of texts behind the name matter. -/
theorem readNamed_congr
    (same : ∀ inner, inner.length < rest.length → arguments inner = others inner) :
    readNamed genericsAllowed arguments name start rest =
      readNamed genericsAllowed others name start rest := by
  unfold readNamed
  split
  · rename_i path
    simp only [List.length_cons] at same
    apply Error.bind_congr
    intro address _
    apply Error.bind_congr
    intro ⟨module, afterModule⟩ moduleRead
    apply Error.bind_congr
    intro afterColons colonsRead
    apply Error.bind_congr
    intro ⟨structName, behind⟩ nameRead
    have moduleShorter := (identifier_eq_ok_iff.mp moduleRead).1.length_lt
    have colonsShorter := (colons_eq_ok_iff.mp colonsRead).length_lt
    have nameShorter := (identifier_eq_ok_iff.mp nameRead).1.length_lt
    dsimp only at moduleShorter nameShorter ⊢
    split
    · rename_i inner bracket
      have opening : Leads .opening behind inner := ⟨bracket, trivial⟩
      have openingShorter := opening.length_lt
      rw [same inner (by omega)]
    · rfl
  · split
    · rfl
    split
    · split
      · rename_i inner _
        rw [same inner (by simp)]
      · rfl
    · rfl

end Named

theorem readSeparator_congr
    {other : Nat}
    (same : ∀ inner, inner.length < rest.length →
      readArguments genericsAllowed fuel inner done =
        readArguments genericsAllowed other inner done) :
    readSeparator genericsAllowed fuel done rest =
      readSeparator genericsAllowed other done rest := by
  unfold readSeparator
  split
  · rfl
  · rfl
  · rename_i inner front
    split
    · rfl
    · have comma : Leads .comma rest inner := ⟨front, trivial⟩
      have shorter := comma.length_lt
      have innerFront := length_skipBlanks_le inner
      exact same _ (by omega)
  · rfl

/-- Fuel beyond the length of the text changes nothing. -/
theorem read_add_fuel (fuel : Nat) :
    (∀ text more, text.length < fuel →
      readType genericsAllowed (fuel + more) text = readType genericsAllowed fuel text) ∧
    (∀ text done more, text.length + 1 < fuel →
      readArguments genericsAllowed (fuel + more) text done =
        readArguments genericsAllowed fuel text done) := by
  -- For both readers at once: each calls the other with less fuel, behind a token at least.
  induction fuel with
  | zero => exact ⟨nofun, nofun⟩
  | succ fuel inductionHypothesis =>
      obtain ⟨ofType, ofArguments⟩ := inductionHypothesis
      refine ⟨?_, ?_⟩
      · intro text more enough
        rw [Nat.add_right_comm]
        by_cases ampersand : ∃ inner, Leads .ampersand text inner
        · obtain ⟨inner, leads⟩ := ampersand
          have shorter := leads.length_lt
          have front := length_skipBlanks_le inner
          rw [readType_of_ampersand leads, readType_of_ampersand leads, ofType _ more (by omega)]
        by_cases word : ∃ name after, Leads (.word name) text after
        · obtain ⟨name, after, leads⟩ := word
          have shorter := leads.length_lt
          have front := length_skipBlanks_le after
          rw [readType_of_word leads, readType_of_word leads]
          apply readNamed_congr
          intro inner short
          exact ofArguments inner [] more (by omega)
        · obtain ⟨stop, failed, _⟩ := exists_fault_of_readType
            genericsAllowed (not_exists.mp ampersand)
            (fun name after leads => word ⟨name, after, leads⟩)
          rw [failed, failed]
      · intro text done more enough
        rw [Nat.add_right_comm]
        by_cases noArgument : skipBlanks text = [] ∨ ∃ inner, Leads .closing text inner
        · obtain ⟨stop, failed, _⟩ := exists_fault_of_readArguments genericsAllowed done noArgument
          rw [failed, failed]
        rw [not_or] at noArgument
        have noClosing := not_exists.mp noArgument.2
        have front := length_skipBlanks_le text
        rw [readArguments_of_argument noArgument.1 noClosing,
          readArguments_of_argument noArgument.1 noClosing, ofType _ more (by omega)]
        apply Error.bind_congr
        intro ⟨argument, rest⟩ read
        obtain ⟨tokens, begins, _⟩ := (derives_of_read fuel).1 _ _ _ read
        have shorter := begins.suffix.length_le
        apply readSeparator_congr
        intro inner (short : inner.length < rest.length)
        exact ofArguments inner _ more (by omega)

/-! ## Whole texts -/

/-- What is reported of a text that is not read: nothing but a fault where there are only blanks, and
else the number of characters in front of the place where the fault stands. -/
def ReportedAt
    (genericsAllowed : Bool)
    (text : String)
    (fault : TypeTextFault) :
    Option Nat → Prop
  | none => fault = .empty ∧ ∀ c ∈ text.toList, isBlank c = true
  | some position =>
      ∃ before place, text.toList = before ++ place ∧ position = before.length ∧
        StandsAt genericsAllowed place fault

theorem ReportedAt.position_le
    {text : String}
    {fault : TypeTextFault}
    {position : Nat}
    (reported : ReportedAt genericsAllowed text fault (some position)) :
    position ≤ text.length := by
  obtain ⟨before, place, textEq, rfl, _⟩ := reported
  rw [← String.length_toList, textEq, List.length_append]
  exact Nat.le_add_right _ _

/-- The place is found again from the number of characters left. -/
theorem reportedAt_of_suffix
    {text : String}
    {fault : TypeTextFault}
    {place : List Char}
    (suffix : place <:+ text.toList)
    (stands : StandsAt genericsAllowed place fault) :
    ReportedAt genericsAllowed text fault (some (text.toList.length - place.length)) := by
  obtain ⟨before, textEq⟩ := suffix
  refine ⟨before, place, textEq.symm, ?_, stands⟩
  rw [← textEq, List.length_append, Nat.add_sub_cancel]

/-- Where a whole text is not read, a fault is reported, or there is a type parameter with too many
digits in it. -/
theorem parse_failed
    {text : String}
    {error : Error}
    (failed : parse text genericsAllowed = .error error) :
    (error = .numberTooLong ∧ genericsAllowed = true ∧
        ComesToLongParameter (Awaits (Admitted genericsAllowed)) text.toList) ∨
      ∃ fault position, error = .typeText ⟨fault, position, text⟩ ∧
        ReportedAt genericsAllowed text fault position := by
  unfold parse at failed
  dsimp only at failed
  split at failed
  · rename_i empty
    cases failed
    exact .inr ⟨_, none, rfl, rfl, List.dropWhile_eq_nil_iff.mp empty⟩
  have reasons := (hasReason_of_failed genericsAllowed (2 * text.toList.length + 2)).1 text.toList
  split at failed
  · rename_i fault remaining stopped
    cases failed
    rcases reasons _ (by omega) stopped with ⟨_, place, suffix, same, stands⟩ | ⟨same, _⟩
    · cases same
      exact .inr ⟨_, _, rfl, reportedAt_of_suffix suffix stands⟩
    · cases same
  · rename_i stopped
    cases failed
    rcases reasons _ (by omega) stopped with ⟨_, _, _, same, _⟩ | ⟨_, allowed, comes⟩
    · cases same
    · exact .inl ⟨rfl, allowed, comes⟩
  · rename_i tag rest read
    obtain ⟨tokens, begins, _⟩ := (derives_of_read _).1 _ _ _ read
    have suffix := (skipBlanks_suffix rest).trans begins.suffix
    split at failed
    · cases failed
    · rename_i inner front
      cases failed
      rw [front] at suffix
      exact .inr ⟨_, _, rfl, reportedAt_of_suffix suffix rfl⟩
    · rename_i inner front
      cases failed
      rw [front] at suffix
      exact .inr ⟨_, _, rfl, reportedAt_of_suffix suffix rfl⟩
    · rename_i nonempty notClosing notComma
      cases failed
      exact .inr ⟨_, _, rfl, reportedAt_of_suffix suffix
        (exists_head?_eq_some nonempty notClosing notComma)⟩

/-- Exactly at a type parameter with too many digits a text fails without a fault. -/
theorem parse_eq_numberTooLong_iff {text : String} :
    parse text genericsAllowed = .error .numberTooLong ↔
      genericsAllowed = true ∧
        ComesToLongParameter (Awaits (Admitted genericsAllowed)) text.toList := by
  apply Iff.intro
  · intro failed
    rcases parse_failed failed with ⟨_, found⟩ | ⟨_, _, same, _⟩
    · exact found
    · cases same
  · intro given
    obtain ⟨rfl, before, digits, rest, awaits, begins, isLong⟩ := given
    have enough := begins.length_le
    simp only [List.length_append, List.length_cons, List.length_nil] at enough
    have failed := awaits.readType_eq isLong (2 * text.toList.length + 2) text.toList (by omega) begins
    have nonempty := begins.skipBlanks_ne_nil (by simp)
    unfold parse
    dsimp only
    rw [if_neg nonempty, failed]

/-- Reading a type ends: more steps than the text has characters are never needed. It gives a type or
reports a fault of the text, at a place of the text where it stands, or at none if there is nothing
but blanks; except that, with type parameters allowed, it fails without a fault exactly where it
comes to a type parameter with more digits than a number is read from. -/
theorem parse_outcome
    (text : String)
    (genericsAllowed : Bool) :
    (∀ more, readType genericsAllowed (text.length + 1 + more) text.toList =
      readType genericsAllowed (text.length + 1) text.toList) ∧
    (parse text genericsAllowed = .error .numberTooLong ↔
      genericsAllowed = true ∧
        ComesToLongParameter (Awaits (Admitted genericsAllowed)) text.toList) ∧
    ((∃ tag, parse text genericsAllowed = .ok tag) ∨
      parse text genericsAllowed = .error .numberTooLong ∨
      ∃ fault position, parse text genericsAllowed = .error (.typeText ⟨fault, position, text⟩) ∧
        (∀ found ∈ position, found ≤ text.length) ∧
        ReportedAt genericsAllowed text fault position) := by
  refine ⟨?_, parse_eq_numberTooLong_iff, ?_⟩
  · intro more
    rw [← String.length_toList]
    exact (read_add_fuel _).1 text.toList more (Nat.lt_succ_self _)
  · cases outcome : parse text genericsAllowed with
    | ok tag => exact .inl ⟨tag, rfl⟩
    | error error =>
        rcases parse_failed outcome with ⟨rfl, _⟩ | ⟨fault, position, rfl, reported⟩
        · exact .inr (.inl rfl)
        · refine .inr (.inr ⟨fault, position, rfl, ?_, reported⟩)
          rintro found rfl
          exact reported.position_le

/-- A type parameter with 4301 digits is neither read nor reported as a fault of the text. -/
theorem parse_long_parameter :
    parse (String.ofList ('T' :: List.replicate 4301 '0')) true = .error .numberTooLong := by
  rw [parse_eq_numberTooLong_iff, String.toList_ofList]
  have areDigits : AreDigits (List.replicate 4301 '0') := by
    refine ⟨List.cons_ne_nil _ _, ?_⟩
    intro digit member
    rw [List.eq_of_mem_replicate member]
    rfl
  have ends : (TypeToken.word ('T' :: List.replicate 4301 '0')).EndsBefore [] := by
    refine ⟨nofun, ?_, nofun⟩
    intro c member
    rcases List.mem_cons.mp member with rfl | member
    · rfl
    · rw [List.eq_of_mem_replicate member]
      rfl
  have word : Leads (.word ('T' :: List.replicate 4301 '0')) ('T' :: List.replicate 4301 '0') [] :=
    ⟨(List.append_nil _).symm, ends⟩
  have noColons (inner : List Char) : ¬ Leads .colons [] inner := fun leads =>
    leads.skipBlanks_ne_nil rfl
  refine ⟨rfl, [], _, [], .start, word.begins, areDigits, ?_, noColons⟩
  rw [List.length_replicate]
  decide

end MoveClient.TypeTag
