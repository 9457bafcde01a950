import MoveClient.Proofs.TypeTag.Acceptance
import MoveClient.Proofs.Wire.TypeTag

/-!
Types that hold references.

Owns:
- `HasNoReference`, and that a written type holds a reference exactly if an ampersand stands in its
  text;
- that what keeps a type off the wire is a type parameter, a reference or a name that is too long.

Does not own: which types are read from a text, see `MoveClient.Proofs.TypeTag.Acceptance`.
-/

namespace MoveClient

namespace TypeTag

mutual

/-- No reference occurs in the type, at any depth. -/
def HasNoReference : TypeTag → Prop
  | .primitive _ | .generic _ => True
  | .vector element => element.HasNoReference
  | .struct _ _ _ arguments => HaveNoReference arguments
  | .reference _ => False

/-- No reference occurs in any of the types. -/
def HaveNoReference : List TypeTag → Prop
  | [] => True
  | first :: rest => first.HasNoReference ∧ HaveNoReference rest

end

mutual

/-- No name in the type and no list of type arguments is too long for its length on the wire. -/
def HasShortNames : TypeTag → Prop
  | .primitive _ | .generic _ => True
  | .vector element => element.HasShortNames
  | .struct _ module name arguments =>
      (Emission.textOctets module).length ≤ maxLength ∧
        (Emission.textOctets name).length ≤ maxLength ∧
        arguments.length ≤ maxLength ∧ HaveShortNames arguments
  | .reference target => target.HasShortNames

/-- No name in any of the types is too long. -/
def HaveShortNames : List TypeTag → Prop
  | [] => True
  | first :: rest => first.HasShortNames ∧ HaveShortNames rest

end

mutual

/-- A type can be written exactly if it holds no type parameter and no reference, and nothing that
is too long. -/
theorem hasWireForm_iff :
    (tag : TypeTag) →
      (tag.HasWireForm ↔ (tag.HasNoParameter ∧ tag.HasNoReference) ∧ tag.HasShortNames)
  | .primitive _ => by simp [HasWireForm, HasNoParameter, HasNoReference, HasShortNames]
  | .vector element => hasWireForm_iff element
  | .struct _ _ _ arguments => by
      simp only [HasWireForm, HasNoParameter, HasNoReference, HasShortNames,
        haveWireForms_iff_free arguments]
      constructor
      · rintro ⟨module, name, count, free, short⟩
        exact ⟨free, module, name, count, short⟩
      · rintro ⟨free, module, name, count, short⟩
        exact ⟨module, name, count, free, short⟩
  | .generic _ => by simp [HasWireForm, HasNoParameter]
  | .reference _ => by simp [HasWireForm, HasNoReference]

theorem haveWireForms_iff_free :
    (tags : List TypeTag) →
      (HaveWireForms tags ↔ (HaveNoParameter tags ∧ HaveNoReference tags) ∧ HaveShortNames tags)
  | [] => by simp [HaveWireForms, HaveNoParameter, HaveNoReference, HaveShortNames]
  | first :: rest => by
      simp only [HaveWireForms, HaveNoParameter, HaveNoReference, HaveShortNames,
        hasWireForm_iff first, haveWireForms_iff_free rest]
      constructor
      · rintro ⟨⟨⟨parameter, reference⟩, short⟩, ⟨parameters, references⟩, shorts⟩
        exact ⟨⟨⟨parameter, parameters⟩, reference, references⟩, short, shorts⟩
      · rintro ⟨⟨⟨parameter, parameters⟩, reference, references⟩, short, shorts⟩
        exact ⟨⟨⟨parameter, reference⟩, short⟩, ⟨parameters, references⟩, shorts⟩

end

/-! ## Ampersands -/

variable {admits : List Char → Prop} {text : List Char} {tokens : List TypeToken} {tag : TypeTag}

theorem IsPath.ampersand_not_mem
    {address : Address}
    {module name : String}
    (named : IsPath address module name tokens) :
    TypeToken.ampersand ∉ tokens := by
  obtain ⟨_, _, _⟩ := named
  simp

mutual

/-- A reference is spelled by an ampersand, and nothing else is. -/
theorem Derives.hasNoReference_iff :
    {tokens : List TypeToken} → {tag : TypeTag} → Derives admits tokens tag →
      (tag.HasNoReference ↔ TypeToken.ampersand ∉ tokens)
  | _, _, .primitive _ => by simp [HasNoReference]
  | _, _, .vector derived => by simp [HasNoReference, derived.hasNoReference_iff]
  | _, _, .reference _ => by simp [HasNoReference]
  | _, _, .generic _ _ => by simp [HasNoReference]
  | _, _, .struct named => by simp [HasNoReference, HaveNoReference, named.ampersand_not_mem]
  | _, _, .application named derived => by
      simp [HasNoReference, derived.haveNoReference_iff, named.ampersand_not_mem]

theorem DerivesArguments.haveNoReference_iff :
    {tokens : List TypeToken} → {arguments : List TypeTag} →
      DerivesArguments admits tokens arguments →
      (HaveNoReference arguments ↔ TypeToken.ampersand ∉ tokens)
  | _, _, .last derived => by simp [HaveNoReference, derived.hasNoReference_iff]
  | _, _, .more derived rest => by
      simp [HaveNoReference, derived.hasNoReference_iff, rest.haveNoReference_iff]

end

/-- An ampersand is a token of its own. -/
theorem ampersand_mem_iff_of_tokenizes
    (tokenized : Tokenizes text tokens) :
    TypeToken.ampersand ∈ tokens ↔ '&' ∈ text := by
  induction tokens generalizing text with
  | nil =>
      apply iff_of_false List.not_mem_nil
      intro member
      cases tokenized '&' member
  | cons token rest inductionHypothesis =>
      obtain ⟨blanks, behind, allBlank, rfl, ends, behindTokens⟩ := tokenized
      have notInBlanks : '&' ∉ blanks := by
        intro member
        cases allBlank '&' member
      have token_iff : TypeToken.ampersand = token ↔ '&' ∈ token.characters := by
        cases token with
        | word characters =>
            apply iff_of_false nofun
            intro member
            cases ends.2.1 '&' member
        | colons | comma | opening | closing | ampersand => decide
      simp only [List.mem_cons, List.mem_append, notInBlanks, false_or, token_iff,
        inductionHypothesis behindTokens]

/-- The type that a text is read as holds a reference exactly if there is an ampersand. -/
theorem hasNoReference_iff_of_parse
    {text : String}
    {genericsAllowed : Bool}
    (read : parse text genericsAllowed = .ok tag) :
    tag.HasNoReference ↔ '&' ∉ text.toList := by
  obtain ⟨tokens, tokenized, derived⟩ := parse_eq_ok_iff_derives.mp read
  rw [derived.hasNoReference_iff, ampersand_mem_iff_of_tokenizes tokenized]

end TypeTag

end MoveClient
