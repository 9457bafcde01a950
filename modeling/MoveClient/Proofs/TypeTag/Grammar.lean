import MoveClient.Proofs.Address.Spelling
import MoveClient.Proofs.TypeTag.Tokens

/-!
The grammar of written types.

Owns:
- `Derives`, which says which tokens make up a type, whatever reader or printer there is;
- the parameters of a text and of a type, and how a derivation depends on the digits that its
  parameters may have.

Does not own: how a text is cut into tokens.

The grammar is

    Type      ::= Primitive | vector < Type > | & Type | T digits | Path (< Arguments >)?
    Path      ::= 0x digits :: Identifier :: Identifier
    Arguments ::= Type | Type , Arguments
-/

namespace MoveClient

/-- A letter or underscore, and then letters, digits and underscores. -/
def IsIdentifier : List Char → Prop
  | [] => False
  | first :: rest =>
      (first.isAlpha = true ∨ first = '_') ∧ ∀ c ∈ rest, c.isAlphanum = true ∨ c = '_'

instance : DecidablePred IsIdentifier
  | [] => inferInstanceAs (Decidable False)
  | _ :: rest => @instDecidableAnd _ _ inferInstance (List.decidableBAll _ rest)

namespace TypeTag

/-- The tokens name a structure: its address after `0x`, and the names of its module and its own. -/
inductive IsPath (address : Address) (module name : String) : List TypeToken → Prop where
  | intro
      {digits : List Char}
      (spelled : address.SpelledBy digits)
      (moduleIdentifier : IsIdentifier module.toList)
      (nameIdentifier : IsIdentifier name.toList) :
      IsPath address module name
        [.word ('0' :: 'x' :: digits), .colons, .word module.toList, .colons, .word name.toList]

theorem IsPath.identifiers
    {address : Address}
    {module name : String}
    {tokens : List TypeToken}
    (named : IsPath address module name tokens) :
    IsIdentifier module.toList ∧ IsIdentifier name.toList := by
  obtain ⟨_, moduleIdentifier, nameIdentifier⟩ := named
  exact ⟨moduleIdentifier, nameIdentifier⟩

/-- The digits of a type parameter. -/
def AreDigits (digits : List Char) : Prop :=
  digits ≠ [] ∧ ∀ digit ∈ digits, digit.isDigit = true

mutual

/-- The tokens make up the type; `admits` says which digits a type parameter may have. -/
inductive Derives (admits : List Char → Prop) : List TypeToken → TypeTag → Prop where
  | primitive (type : PrimitiveType) :
      Derives admits [.word type.name.toList] (.primitive type)
  | vector
      {tokens : List TypeToken}
      {element : TypeTag}
      (derived : Derives admits tokens element) :
      Derives admits (.word "vector".toList :: .opening :: tokens ++ [.closing]) (.vector element)
  | reference
      {tokens : List TypeToken}
      {target : TypeTag}
      (derived : Derives admits tokens target) :
      Derives admits (.ampersand :: tokens) (.reference target)
  | generic
      {digits : List Char}
      (areDigits : AreDigits digits)
      (admitted : admits digits) :
      Derives admits [.word ('T' :: digits)] (.generic (Nat.ofDigitChars 10 digits 0))
  | struct
      {address : Address}
      {module name : String}
      {path : List TypeToken}
      (named : IsPath address module name path) :
      Derives admits path (.struct address module name [])
  | application
      {address : Address}
      {module name : String}
      {path tokens : List TypeToken}
      {arguments : List TypeTag}
      (named : IsPath address module name path)
      (derived : DerivesArguments admits tokens arguments) :
      Derives admits (path ++ .opening :: tokens ++ [.closing])
        (.struct address module name arguments)

/-- The tokens make up types, at least one, with commas between them. -/
inductive DerivesArguments (admits : List Char → Prop) : List TypeToken → List TypeTag → Prop where
  | last
      {tokens : List TypeToken}
      {argument : TypeTag}
      (derived : Derives admits tokens argument) :
      DerivesArguments admits tokens [argument]
  | more
      {tokens others : List TypeToken}
      {argument : TypeTag}
      {arguments : List TypeTag}
      (derived : Derives admits tokens argument)
      (rest : DerivesArguments admits others arguments) :
      DerivesArguments admits (tokens ++ .comma :: others) (argument :: arguments)

end

/-- A single type argument is a type. -/
theorem DerivesArguments.of_single
    {admits : List Char → Prop}
    {tokens : List TypeToken}
    {argument : TypeTag}
    (derived : DerivesArguments admits tokens [argument]) :
    Derives admits tokens argument := by
  rcases derived with derived | ⟨_, rest⟩
  · exact derived
  · cases rest

/-! ## Type parameters -/

/-- The digits belong to a type parameter among the tokens: a word `T` with these digits that is no
part of a path. -/
def HasParameter (tokens : List TypeToken) (digits : List Char) : Prop :=
  AreDigits digits ∧ ∃ before after, tokens = before ++ .word ('T' :: digits) :: after ∧
    before.getLast? ≠ some .colons ∧ after.head? ≠ some .colons

mutual

/-- No type parameter occurs in the type, at any depth. -/
def HasNoParameter : TypeTag → Prop
  | .primitive _ => True
  | .vector element => element.HasNoParameter
  | .struct _ _ _ arguments => HaveNoParameter arguments
  | .generic _ => False
  | .reference target => target.HasNoParameter

/-- No type parameter occurs in any of the types. -/
def HaveNoParameter : List TypeTag → Prop
  | [] => True
  | first :: rest => first.HasNoParameter ∧ HaveNoParameter rest

end

variable {admits others : List Char → Prop} {tokens : List TypeToken} {tag : TypeTag}

/-- What is a parameter among some tokens is one among more tokens, if these do not join it to a
path. -/
theorem HasParameter.embed
    {digits : List Char}
    (has : HasParameter tokens digits)
    (before after : List TypeToken)
    (noPathBefore : before.getLast? ≠ some .colons)
    (noPathAfter : after.head? ≠ some .colons) :
    HasParameter (before ++ tokens ++ after) digits := by
  obtain ⟨areDigits, front, back, rfl, frontEnd, backStart⟩ := has
  refine ⟨areDigits, before ++ front, back ++ after, by simp, ?_, ?_⟩
  · rw [List.getLast?_append]
    cases found : front.getLast? with
    | none => simpa using noPathBefore
    | some token =>
        rw [found] at frontEnd
        simpa using frontEnd
  · rw [List.head?_append]
    cases found : back.head? with
    | none => simpa using noPathAfter
    | some token =>
        rw [found] at backStart
        simpa using backStart

mutual

/-- A derivation stands with any digits that hold of the parameters among its tokens. -/
theorem Derives.restrict :
    {tokens : List TypeToken} → {tag : TypeTag} → Derives admits tokens tag →
      (∀ digits, HasParameter tokens digits → admits digits → others digits) →
      Derives others tokens tag
  | _, _, .primitive type, _ => .primitive type
  | _, _, .vector derived, hold => by
      apply Derives.vector
      apply derived.restrict
      intro digits has
      have embedded := has.embed [.word "vector".toList, .opening] [.closing] nofun nofun
      exact hold digits embedded
  | _, _, .reference derived, hold => by
      apply Derives.reference
      apply derived.restrict
      intro digits has
      have embedded := has.embed [.ampersand] [] nofun nofun
      rw [List.append_nil] at embedded
      exact hold digits embedded
  | _, _, .generic areDigits admitted, hold =>
      .generic areDigits (hold _ ⟨areDigits, [], [], rfl, nofun, nofun⟩ admitted)
  | _, _, .struct named, _ => .struct named
  | _, _, @Derives.application _ _ _ _ path _ _ named derived, hold => by
      apply Derives.application named
      apply derived.restrict
      intro digits has
      have embedded := has.embed (path ++ [.opening]) [.closing] (by simp) nofun
      rw [List.append_assoc path] at embedded
      exact hold digits embedded

theorem DerivesArguments.restrict :
    {tokens : List TypeToken} → {arguments : List TypeTag} →
      DerivesArguments admits tokens arguments →
      (∀ digits, HasParameter tokens digits → admits digits → others digits) →
      DerivesArguments others tokens arguments
  | _, _, .last derived, hold => .last (derived.restrict hold)
  | _, _, @DerivesArguments.more _ tokens following _ _ derived rest, hold => by
      apply DerivesArguments.more
      · apply derived.restrict
        intro digits has
        have embedded := has.embed [] (.comma :: following) nofun nofun
        exact hold digits embedded
      · apply rest.restrict
        intro digits has
        have embedded := has.embed (tokens ++ [.comma]) [] (by simp) nofun
        rw [List.append_nil, List.append_assoc] at embedded
        exact hold digits embedded

end

mutual

/-- Without type parameters it does not matter which digits they may have. -/
theorem Derives.of_hasNoParameter :
    {tokens : List TypeToken} → {tag : TypeTag} → Derives admits tokens tag →
      tag.HasNoParameter → Derives others tokens tag
  | _, _, .primitive type, _ => .primitive type
  | _, _, .vector derived, free => .vector (derived.of_hasNoParameter free)
  | _, _, .reference derived, free => .reference (derived.of_hasNoParameter free)
  | _, _, .struct named, _ => .struct named
  | _, _, .application named derived, free => .application named (derived.of_haveNoParameter free)

theorem DerivesArguments.of_haveNoParameter :
    {tokens : List TypeToken} → {arguments : List TypeTag} →
      DerivesArguments admits tokens arguments → HaveNoParameter arguments →
      DerivesArguments others tokens arguments
  | _, _, .last derived, free => .last (derived.of_hasNoParameter free.1)
  | _, _, .more derived rest, free =>
      .more (derived.of_hasNoParameter free.1) (rest.of_haveNoParameter free.2)

end

mutual

/-- Where no digits are admitted there are no type parameters. -/
theorem Derives.hasNoParameter
    (admitsNone : ∀ digits, ¬ admits digits) :
    {tokens : List TypeToken} → {tag : TypeTag} → Derives admits tokens tag → tag.HasNoParameter
  | _, _, .primitive _ => trivial
  | _, _, .vector derived => derived.hasNoParameter admitsNone
  | _, _, .reference derived => derived.hasNoParameter admitsNone
  | _, _, .generic _ admitted => absurd admitted (admitsNone _)
  | _, _, .struct _ => trivial
  | _, _, .application _ derived => derived.haveNoParameter admitsNone

theorem DerivesArguments.haveNoParameter
    (admitsNone : ∀ digits, ¬ admits digits) :
    {tokens : List TypeToken} → {arguments : List TypeTag} →
      DerivesArguments admits tokens arguments → HaveNoParameter arguments
  | _, _, .last derived => ⟨derived.hasNoParameter admitsNone, trivial⟩
  | _, _, .more derived rest =>
      ⟨derived.hasNoParameter admitsNone, rest.haveNoParameter admitsNone⟩

end

end TypeTag

end MoveClient
