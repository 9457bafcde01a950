import MoveClient.Proofs.Argument.Marshalling
import MoveClient.Proofs.Key.Signers

/-!
Encoding arguments by resolved types.

Owns:
- `TypeTag.resolved`: the type with its parameters replaced and its references taken away;
- `HidesOctets`: octets that are given for a vector whose element type is not written as `u8` but
  resolves to it;
- that encoding by a type is encoding by the resolved type, but for octets that are hidden.

Does not own: what is encoded by the forms of types, see `MoveClient.Proofs.Argument.Marshalling`.
-/

namespace MoveClient

namespace TypeTag

variable {bindings : List TypeTag}

mutual

/-- The type with each parameter replaced by what it is bound to. -/
def substitute (bindings : List TypeTag) : TypeTag → TypeTag
  | .primitive type => .primitive type
  | .vector element => .vector (element.substitute bindings)
  | .struct owner module name arguments =>
      .struct owner module name (substituteAll bindings arguments)
  | .generic index => (bound? bindings index).getD (.generic index)
  | .reference target => .reference (target.substitute bindings)

/-- The types with each parameter replaced by what it is bound to. -/
def substituteAll (bindings : List TypeTag) : List TypeTag → List TypeTag
  | [] => []
  | first :: rest => first.substitute bindings :: substituteAll bindings rest

end

mutual

/-- The type with a target in place of each reference. -/
def withoutReferences : TypeTag → TypeTag
  | .primitive type => .primitive type
  | .vector element => .vector element.withoutReferences
  | .struct owner module name arguments => .struct owner module name (allWithoutReferences arguments)
  | .generic index => .generic index
  | .reference target => target.withoutReferences

/-- The types with a target in place of each reference. -/
def allWithoutReferences : List TypeTag → List TypeTag
  | [] => []
  | first :: rest => first.withoutReferences :: allWithoutReferences rest

end

/-- The type with each parameter replaced by what it is bound to, and no reference left. -/
def resolved (bindings : List TypeTag) (tag : TypeTag) : TypeTag :=
  (tag.substitute bindings).withoutReferences

/-- The types, each of them resolved. -/
def allResolved (bindings : List TypeTag) (tags : List TypeTag) : List TypeTag :=
  allWithoutReferences (substituteAll bindings tags)

mutual

/-- There is nothing to replace in a type without parameters. -/
theorem substitute_of_hasNoParameter :
    (tag : TypeTag) → tag.HasNoParameter → tag.substitute bindings = tag
  | .primitive _, _ => rfl
  | .vector element, concrete => congrArg vector (substitute_of_hasNoParameter element concrete)
  | .struct owner module name arguments, concrete =>
      congrArg (struct owner module name) (substituteAll_of_haveNoParameter arguments concrete)
  | .reference target, concrete =>
      congrArg reference (substitute_of_hasNoParameter target concrete)

theorem substituteAll_of_haveNoParameter :
    (tags : List TypeTag) → HaveNoParameter tags → substituteAll bindings tags = tags
  | [], _ => rfl
  | first :: rest, concrete =>
      congrArg₂ List.cons (substitute_of_hasNoParameter first concrete.1)
        (substituteAll_of_haveNoParameter rest concrete.2)

end

theorem resolved_bound
    (concrete : HaveNoParameter bindings)
    {index : Int}
    {bound : TypeTag}
    (isBound : bound? bindings index = some bound) :
    resolved bindings (.generic index) = bound.resolved bindings := by
  have boundConcrete := hasNoParameter_of_mem concrete (mem_of_bound? isBound)
  rw [resolved, resolved, substitute, isBound, substitute_of_hasNoParameter bound boundConcrete]
  rfl

theorem resolved_unbound
    {index : Int}
    (isUnbound : bound? bindings index = none) :
    resolved bindings (.generic index) = .generic index := by
  rw [resolved, substitute, isUnbound]
  rfl

theorem allResolved_singleton (tag : TypeTag) :
    allResolved bindings [tag] = [tag.resolved bindings] :=
  rfl

theorem length_allResolved (tags : List TypeTag) :
    (allResolved bindings tags).length = tags.length := by
  induction tags with
  | nil => rfl
  | cons first rest inductionHypothesis => exact congrArg (· + 1) inductionHypothesis

end TypeTag

/-- The value is given as octets: as a byte string, or as text that spells one. -/
def Value.IsOctets : Value → Prop
  | .bytes _ | .buffer _ | .text _ | .brokenText _ => True
  | _ => False

/-- Somewhere in the value octets are given for a vector whose element type is not written as `u8`
but resolves to it. -/
inductive HidesOctets (bindings : List TypeTag) : TypeTag → Value → Prop where
  | here {element : TypeTag} {value : Value}
      (written : element ≠ .u8)
      (resolves : element.resolved bindings = .u8)
      (isOctets : value.IsOctets) :
      HidesOctets bindings (.vector element) value
  | item {element : TypeTag} {value item : Value} {items : List Value}
      (listed : value.listed? = some items)
      (isItem : item ∈ items)
      (hides : HidesOctets bindings element item) :
      HidesOctets bindings (.vector element) value
  | reference {target : TypeTag} {value : Value}
      (hides : HidesOctets bindings target value) :
      HidesOctets bindings (.reference target) value
  | bound {index : Int} {bound : TypeTag} {value : Value}
      (isBound : TypeTag.bound? bindings index = some bound)
      (hides : HidesOctets bindings bound value) :
      HidesOctets bindings (.generic index) value
  | option {owner : Address} {module name : String} {element : TypeTag} {value : Value}
      (isOption : StructTag.isOption ⟨owner, module, name, [element]⟩ = true)
      (present : value ≠ .null)
      (hides : HidesOctets bindings element value) :
      HidesOctets bindings (.struct owner module name [element]) value

namespace HidesOctets

variable {bindings : List TypeTag} {value : Value}

theorem reference_iff {target : TypeTag} :
    HidesOctets bindings (.reference target) value ↔ HidesOctets bindings target value := by
  constructor
  · intro hides
    cases hides with
    | reference hides => exact hides
  · exact .reference

theorem bound_iff
    {index : Int}
    {bound : TypeTag}
    (isBound : TypeTag.bound? bindings index = some bound) :
    HidesOctets bindings (.generic index) value ↔ HidesOctets bindings bound value := by
  constructor
  · intro hides
    cases hides with
    | bound isOther hides =>
        rw [isBound] at isOther
        cases isOther
        exact hides
  · exact .bound isBound

theorem option_iff
    {owner : Address}
    {module name : String}
    {element : TypeTag}
    (isOption : StructTag.isOption ⟨owner, module, name, [element]⟩ = true)
    (present : value ≠ .null) :
    HidesOctets bindings (.struct owner module name [element]) value ↔
      HidesOctets bindings element value := by
  constructor
  · intro hides
    cases hides with
    | option _ _ hides => exact hides
  · exact .option isOption present

/-- Structures other than options with a content are not looked into. -/
theorem not_struct
    {owner : Address}
    {module name : String}
    {arguments : List TypeTag}
    (plain : StructTag.isOption ⟨owner, module, name, arguments⟩ = true → value = .null) :
    ¬ HidesOctets bindings (.struct owner module name arguments) value := by
  intro hides
  cases hides with
  | option isOption present hides => exact present (plain isOption)

theorem list_iff
    {element : TypeTag}
    {items : List Value}
    (listed : value.listed? = some items) :
    HidesOctets bindings (.vector element) value ↔
      ∃ item ∈ items, HidesOctets bindings element item := by
  constructor
  · intro hides
    cases hides with
    | here written resolves isOctets =>
        cases value with
        | bytes octets | buffer octets | text s | brokenText broken => cases listed
        | _ => exact absurd isOctets id
    | item isListed isItem hides =>
        rw [listed] at isListed
        cases isListed
        exact ⟨_, isItem, hides⟩
  · intro found
    obtain ⟨item, isItem, hides⟩ := found
    exact .item listed isItem hides

/-- Without items only the value itself can be hidden. -/
theorem vector_iff
    {element : TypeTag}
    (single : value.listed? = none) :
    HidesOctets bindings (.vector element) value ↔
      element ≠ .u8 ∧ element.resolved bindings = .u8 ∧ value.IsOctets := by
  constructor
  · intro hides
    cases hides with
    | here written resolves isOctets => exact ⟨written, resolves, isOctets⟩
    | item isListed isItem hides =>
        rw [single] at isListed
        cases isListed
  · intro hidden
    exact .here hidden.1 hidden.2.1 hidden.2.2

end HidesOctets

namespace Value

variable {bindings : List TypeTag} {value : Value} {octets : Bytes}

theorem error_ne_ok {error : Error} : (.error error : Except Error Bytes) ≠ .ok octets := by
  intro equal
  cases equal

/-! ## Vectors -/

theorem isOctets_of_marshalVector
    (spelled : marshalVector none .u8 value = .ok octets) :
    value.IsOctets := by
  cases value with
  | bytes content | buffer content | text s | brokenText broken => trivial
  | _ => cases spelled

/-- A single value is a vector of octets and of nothing else. -/
theorem marshalVector_single_eq_ok_iff (element : TypeTag) :
    marshalVector none element value = .ok octets ↔
      element = .u8 ∧ marshalVector none .u8 value = .ok octets := by
  by_cases ofOctets : element = .u8
  · subst ofOctets
    exact (and_iff_right rfl).symm
  · have refused : marshalVector none element value ≠ .ok octets := by
      cases value with
      | bytes content | buffer content | text s | brokenText broken =>
          simp only [marshalVector, if_neg ofOctets]
          exact error_ne_ok
      | _ => exact error_ne_ok
    constructor
    · intro spelled
      exact absurd spelled refused
    · intro spelled
      exact absurd spelled.1 ofOctets

/-- What a single value is refused for by the element type as it is written, and not by the resolved
one, are hidden octets. -/
theorem marshalVector_single_resolved
    {element : TypeTag}
    (single : value.listed? = none) :
    marshalVector none element value = .ok octets ↔
      marshalVector none (element.resolved bindings) value = .ok octets ∧
        ¬ HidesOctets bindings (.vector element) value := by
  rw [marshalVector_single_eq_ok_iff element,
    marshalVector_single_eq_ok_iff (element.resolved bindings), HidesOctets.vector_iff single]
  by_cases written : element = .u8
  · subst written
    have shown : ¬ (TypeTag.u8 ≠ .u8 ∧ TypeTag.u8.resolved bindings = .u8 ∧ value.IsOctets) :=
      fun hidden => hidden.1 rfl
    rw [and_iff_left shown]
    rfl
  · apply iff_of_false
    · intro spelled
      exact written spelled.1
    · intro spelled
      obtain ⟨⟨resolves, spelled⟩, shown⟩ := spelled
      exact shown ⟨written, resolves, isOctets_of_marshalVector spelled⟩

theorem marshalVector_listed
    {encode : Value → TypeTag → Except Error Bytes}
    {element : TypeTag}
    {items : List Value}
    (listed : value.listed? = some items) :
    marshalVector (value.encoders encode) element value =
      marshalItems (items.map encode) element := by
  cases value with
  | list others | tuple others =>
      cases listed
      rfl
  | _ => cases listed

theorem map_eq_ok_iff_of_forall
    {first other : Except Error Bytes}
    {hidden : Prop}
    {image : Bytes → Bytes}
    (agree : ∀ result, first = .ok result ↔ other = .ok result ∧ ¬ hidden) :
    first.map image = .ok octets ↔ other.map image = .ok octets ∧ ¬ hidden := by
  show image <$> first = _ ↔ image <$> other = _ ∧ _
  simp only [Error.map_eq_ok_iff, agree]
  constructor
  · intro found
    obtain ⟨result, ⟨encoded, shown⟩, imageEq⟩ := found
    exact ⟨⟨result, encoded, imageEq⟩, shown⟩
  · intro found
    obtain ⟨⟨result, encoded, imageEq⟩, shown⟩ := found
    exact ⟨result, ⟨encoded, shown⟩, imageEq⟩

theorem mapM_eq_ok_iff_of_forall
    {encode other : Value → Except Error Bytes}
    {Hidden : Value → Prop}
    {items : List Value}
    {results : List Bytes}
    (agree : ∀ item ∈ items, ∀ result,
      encode item = .ok result ↔ other item = .ok result ∧ ¬ Hidden item) :
    items.mapM encode = .ok results ↔
      items.mapM other = .ok results ∧ ¬ ∃ item ∈ items, Hidden item := by
  rw [Error.mapM_eq_ok_iff, Error.mapM_eq_ok_iff]
  induction items generalizing results with
  | nil => simp
  | cons item rest inductionHypothesis =>
      obtain ⟨itemAgrees, restAgree⟩ := List.forall_mem_cons.mp agree
      simp only [List.forall₂_cons_left_iff, itemAgrees, inductionHypothesis restAgree,
        List.exists_mem_cons_iff]
      constructor
      · intro encodedAll
        obtain ⟨result, others, ⟨encoded, shown⟩, ⟨othersEncoded, othersShown⟩, resultsEq⟩ :=
          encodedAll
        exact ⟨⟨result, others, encoded, othersEncoded, resultsEq⟩,
          not_or.mpr ⟨shown, othersShown⟩⟩
      · intro encodedAll
        obtain ⟨⟨result, others, encoded, othersEncoded, resultsEq⟩, shown⟩ := encodedAll
        obtain ⟨itemShown, othersShown⟩ := not_or.mp shown
        exact ⟨result, others, ⟨encoded, itemShown⟩, ⟨othersEncoded, othersShown⟩, resultsEq⟩

theorem marshalItems_map_eq_ok_iff
    {encode : Value → TypeTag → Except Error Bytes}
    {items : List Value}
    {element : TypeTag} :
    marshalItems (items.map encode) element = .ok octets ↔
      ∃ count, (Emission.length items.length).result = .ok count ∧
        ∃ encoded, items.mapM (encode · element) = .ok encoded ∧
          count ++ encoded.flatten = octets := by
  rw [marshalItems, List.length_map, List.mapM_map]
  simp only [Error.bind_eq_ok_iff, Except.ok.injEq]
  rfl

/-- Lists are encoded alike if their items are. -/
theorem marshalItems_eq_ok_iff_of_forall
    {encode other : Value → TypeTag → Except Error Bytes}
    {Hidden : Value → Prop}
    {items : List Value}
    {element otherElement : TypeTag}
    (agree : ∀ item ∈ items, ∀ result,
      encode item element = .ok result ↔ other item otherElement = .ok result ∧ ¬ Hidden item) :
    marshalItems (items.map encode) element = .ok octets ↔
      marshalItems (items.map other) otherElement = .ok octets ∧
        ¬ ∃ item ∈ items, Hidden item := by
  simp only [marshalItems_map_eq_ok_iff, mapM_eq_ok_iff_of_forall agree]
  constructor
  · intro encodedAlike
    obtain ⟨count, counted, encoded, ⟨encodedEq, shown⟩, octetsEq⟩ := encodedAlike
    exact ⟨⟨count, counted, encoded, encodedEq, octetsEq⟩, shown⟩
  · intro encodedAlike
    obtain ⟨⟨count, counted, encoded, encodedEq, octetsEq⟩, shown⟩ := encodedAlike
    exact ⟨count, counted, encoded, ⟨encodedEq, shown⟩, octetsEq⟩

/-! ## Structures -/

/-- Of the type arguments of a structure without content only their number makes a difference. -/
theorem marshalStruct_plain
    {nested other : TypeTag → Except Error Bytes}
    {owner : Address}
    {module name : String}
    {arguments others : List TypeTag}
    (plain : StructTag.isOption ⟨owner, module, name, arguments⟩ ≠ true)
    (sameLength : others.length = arguments.length) :
    marshalStruct nested ⟨owner, module, name, arguments⟩ value = .ok octets ↔
      marshalStruct other ⟨owner, module, name, others⟩ value = .ok octets := by
  have otherPlain : StructTag.isOption ⟨owner, module, name, others⟩ ≠ true := by
    intro isOption
    apply plain
    simp only [StructTag.isOption, sameLength] at isOption ⊢
    exact isOption
  -- Neither of the other two looks at the type arguments.
  have sameString : StructTag.isString ⟨owner, module, name, others⟩ =
      StructTag.isString ⟨owner, module, name, arguments⟩ := rfl
  have sameObject : StructTag.isObject ⟨owner, module, name, others⟩ =
      StructTag.isObject ⟨owner, module, name, arguments⟩ := rfl
  unfold marshalStruct
  rw [if_neg plain, if_neg otherPlain, sameString, sameObject]
  by_cases isString : StructTag.isString ⟨owner, module, name, arguments⟩ = true
  · rw [if_pos isString, if_pos isString]
    cases value with
    | text s => exact Iff.rfl
    | _ => exact iff_of_false error_ne_ok error_ne_ok
  by_cases isObject : StructTag.isObject ⟨owner, module, name, arguments⟩ = true
  · rw [if_neg isString, if_neg isString, if_pos isObject, if_pos isObject]
  · rw [if_neg isString, if_neg isString, if_neg isObject, if_neg isObject]
    exact iff_of_false error_ne_ok error_ne_ok

/-- Structures are encoded by resolved types if the content of an option is. -/
theorem marshalStruct_resolved
    {nested other : TypeTag → Except Error Bytes}
    {owner : Address}
    {module name : String}
    {arguments : List TypeTag}
    (agree : ∀ element, PassesOn bindings value (.struct owner module name arguments) element →
      ∀ result, nested element = .ok result ↔
        other (element.resolved bindings) = .ok result ∧ ¬ HidesOctets bindings element value) :
    marshalStruct nested ⟨owner, module, name, arguments⟩ value = .ok octets ↔
      marshalStruct other ⟨owner, module, name, TypeTag.allResolved bindings arguments⟩ value =
          .ok octets ∧
        ¬ HidesOctets bindings (.struct owner module name arguments) value := by
  by_cases isOption : StructTag.isOption ⟨owner, module, name, arguments⟩ = true
  · obtain ⟨element, argumentsEq⟩ := StructTag.exists_of_isOption isOption
    subst argumentsEq
    rw [TypeTag.allResolved_singleton]
    -- Resolving leaves an option an option.
    have staysOption :
        StructTag.isOption ⟨owner, module, name, [element.resolved bindings]⟩ = true :=
      isOption
    by_cases absent : value = .null
    · subst absent
      rw [marshalStruct_absent isOption, marshalStruct_absent staysOption]
      exact (and_iff_left (HidesOctets.not_struct fun _ => rfl)).symm
    · rw [marshalStruct_present isOption absent, marshalStruct_present staysOption absent,
        HidesOctets.option_iff isOption absent]
      exact map_eq_ok_iff_of_forall (agree element (.content isOption absent))
  · have shown : ¬ HidesOctets bindings (.struct owner module name arguments) value :=
      HidesOctets.not_struct fun holds => absurd holds isOption
    rw [and_iff_left shown]
    exact marshalStruct_plain isOption (TypeTag.length_allResolved arguments)

/-! ## Resolved types -/

/-- Encoding by a type is encoding by the resolved type, except that octets which the type hides
are refused. -/
theorem marshal_eq_ok_iff_resolved
    (bindings : List TypeTag)
    (concrete : TypeTag.HaveNoParameter bindings)
    (tag : TypeTag)
    (value : Value)
    (octets : Bytes) :
    marshal tag value bindings = .ok octets ↔
      marshal (tag.resolved bindings) value [] = .ok octets ∧
        ¬ HidesOctets bindings tag value := by
  induction tag, value using marshal_induction concrete generalizing octets with
  | primitive type value =>
      have shown : ¬ HidesOctets bindings (.primitive type) value := nofun
      rw [marshal_primitive]
      exact (and_iff_left shown).symm
  | reference target value inductionHypothesis =>
      rw [marshal_reference, HidesOctets.reference_iff]
      exact inductionHypothesis octets
  | generic index value inductionHypothesis =>
      cases isBound : TypeTag.bound? bindings index with
      | some bound =>
          rw [marshal_bound isBound, HidesOctets.bound_iff isBound,
            TypeTag.resolved_bound concrete isBound]
          exact inductionHypothesis bound isBound octets
      | none =>
          rw [marshal_unbound isBound, TypeTag.resolved_unbound isBound,
            marshal_unbound (TypeTag.bound?_nil index)]
          exact iff_of_false error_ne_ok fun encoded => error_ne_ok encoded.1
  | vector element value inductionHypothesis =>
      show _ ↔ marshal (.vector (element.resolved bindings)) value [] = _ ∧ _
      rw [marshal_vector, marshal_vector]
      cases listed : value.listed? with
      | some items =>
          rw [marshalVector_listed listed, marshalVector_listed listed,
            HidesOctets.list_iff listed]
          apply marshalItems_eq_ok_iff_of_forall
          exact inductionHypothesis items listed
      | none =>
          rw [encoders, encoders, listed]
          exact marshalVector_single_resolved listed
  | struct owner module name arguments value inductionHypothesis =>
      show _ ↔ marshal (.struct owner module name (TypeTag.allResolved bindings arguments)) value []
        = _ ∧ _
      rw [marshal_struct, marshal_struct]
      apply marshalStruct_resolved
      intro element passes result
      exact inductionHypothesis element passes result

/-- A list of numbers for a vector of references to what a parameter is bound to. -/
theorem marshal_eq_ok_iff_resolved_numbers :
    let bindings : List TypeTag := [.integer .u16]
    let tag : TypeTag := .vector (.reference (.generic 0))
    let value : Value := .list [.int 1, .int 2]
    TypeTag.HaveNoParameter bindings ∧ tag.resolved bindings = .vector (.integer .u16) ∧
      marshal tag value bindings = .ok [2, 1, 0, 2, 0] ∧
      marshal (.vector (.integer .u16)) value [] = .ok [2, 1, 0, 2, 0] ∧
      ¬ HidesOctets bindings tag value := by
  intro bindings tag value
  have concrete : TypeTag.HaveNoParameter bindings := ⟨trivial, trivial⟩
  have encoded : marshal tag value bindings = .ok [2, 1, 0, 2, 0] := rfl
  obtain ⟨encodedAlike, shown⟩ :=
    (marshal_eq_ok_iff_resolved bindings concrete tag value _).mp encoded
  exact ⟨concrete, rfl, encoded, encodedAlike, shown⟩

/-- Two octets for a vector whose element type is a parameter bound to `u8`, or a reference to
`u8`, are refused, while they are taken for a vector of `u8`. -/
theorem marshal_hidden_octets :
    let value : Value := .bytes [1, 2]
    let parameter : TypeTag := .vector (.generic 0)
    let reference : TypeTag := .vector (.reference .u8)
    marshal parameter value [.u8] = .error (.parse (.notList (.generic 0) "bytes")) ∧
      marshal reference value [] = .error (.parse (.notList (.reference .u8) "bytes")) ∧
      parameter.resolved [.u8] = .vector .u8 ∧ reference.resolved [] = .vector .u8 ∧
      marshal (.vector .u8) value [] = .ok [2, 1, 2] := by
  intro value parameter reference
  have shown : TypeTag.isShowable (.generic 0) = true := by decide +kernel
  exact ⟨congrArg Except.error (Error.stated_of_isShowable shown), rfl, rfl, rfl, rfl⟩

end Value

end MoveClient
