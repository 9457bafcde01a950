import Mathlib.Logic.Relation
import MoveClient.Argument.Marshal
import MoveClient.Proofs.TypeTag.Grammar

/-!
Encoding arguments without counting steps.

Owns:
- `PassesOn`, which says by which type a value is encoded next, and `EndsWithin`, which bounds how
  often it is passed on;
- that a value is passed on at most once for each node of the type and of the bindings, unless it is
  passed on in a circle;
- what `Value.marshal` does for each form of type, whatever the type parameters are bound to;
- the induction that goes with it, if they are bound to types without parameters.

Does not own: which bindings lead in a circle, see `MoveClient.Proofs.Argument.Recursion`.
-/

namespace MoveClient

open Relation TypeTag

variable {bindings : List TypeTag} {value : Value}

/-! ## Passing a value on -/

/-- Encoding the value by the first type goes on with the same value by the second. -/
inductive PassesOn (bindings : List TypeTag) (value : Value) : TypeTag → TypeTag → Prop where
  | reference (target : TypeTag) : PassesOn bindings value (.reference target) target
  | bound {index : Int} {bound : TypeTag}
      (isBound : bound? bindings index = some bound) :
      PassesOn bindings value (.generic index) bound
  | content {owner : Address} {module name : String} {element : TypeTag}
      (isOption : StructTag.isOption ⟨owner, module, name, [element]⟩ = true)
      (present : value ≠ .null) :
      PassesOn bindings value (.struct owner module name [element]) element

/-- From the type on, the value is passed on fewer than so many times. -/
inductive EndsWithin (bindings : List TypeTag) (value : Value) : Nat → TypeTag → Prop where
  | next {steps : Nat} {tag : TypeTag}
      (ends : ∀ other, PassesOn bindings value tag other → EndsWithin bindings value steps other) :
      EndsWithin bindings value (steps + 1) tag

/-- From the type on, the value is passed on in a circle. -/
def Circles (bindings : List TypeTag) (value : Value) (tag : TypeTag) : Prop :=
  ∃ other, ReflTransGen (PassesOn bindings value) tag other ∧
    TransGen (PassesOn bindings value) other other

namespace EndsWithin

theorem ends
    {steps : Nat}
    {tag other : TypeTag}
    (within : EndsWithin bindings value (steps + 1) tag)
    (passes : PassesOn bindings value tag other) :
    EndsWithin bindings value steps other := by
  cases within with
  | next ends => exact ends other passes

theorem mono
    {steps more : Nat}
    {tag : TypeTag}
    (within : EndsWithin bindings value steps tag)
    (atMost : steps ≤ more) :
    EndsWithin bindings value more tag := by
  induction within generalizing more with
  | next _ inductionHypothesis =>
      cases more with
      | zero => exact absurd atMost (Nat.not_succ_le_zero _)
      | succ more =>
          apply EndsWithin.next
          intro other passes
          exact inductionHypothesis other passes (Nat.le_of_succ_le_succ atMost)

/-- A value that is passed on to an end does not return to a type. -/
theorem not_circles
    {steps : Nat}
    {tag : TypeTag}
    (within : EndsWithin bindings value steps tag) :
    ¬ Circles bindings value tag := by
  induction within with
  | next _ inductionHypothesis =>
      intro circles
      obtain ⟨other, reached, returns⟩ := circles
      obtain rfl | ⟨next, passes, reached⟩ := reached.cases_head
      · obtain ⟨next, passes, reached⟩ := TransGen.head'_iff.mp returns
        exact inductionHypothesis next passes ⟨next, .refl, TransGen.tail' reached passes⟩
      · exact inductionHypothesis next passes ⟨other, reached, returns⟩

/-- Unless it is passed on in a circle, a value is passed on once for each type at most. -/
theorem of_not_circles
    {types : List TypeTag}
    {tag : TypeTag}
    (inside : ∀ other, ReflTransGen (PassesOn bindings value) tag other → other ∈ types)
    (noCircle : ¬ Circles bindings value tag) :
    EndsWithin bindings value types.length tag := by
  induction lengthEq : types.length generalizing types tag with
  | zero =>
      have found := inside tag .refl
      rw [List.length_eq_zero_iff.mp lengthEq] at found
      exact absurd found List.not_mem_nil
  | succ count inductionHypothesis =>
      apply EndsWithin.next
      intro next passes
      -- The type itself is left behind: whatever comes after it is another one.
      refine inductionHypothesis (?_ : ∀ other, _ → other ∈ types.erase tag) ?_ ?_
      · intro other reached
        apply (List.mem_erase_of_ne _).mpr (inside other (.head passes reached))
        intro same
        subst same
        exact noCircle ⟨other, .refl, TransGen.head' passes reached⟩
      · intro circles
        obtain ⟨other, reached, returns⟩ := circles
        exact noCircle ⟨other, .head passes reached, returns⟩
      · rw [List.length_erase_of_mem (inside tag .refl), lengthEq]
        rfl

end EndsWithin

/-! ## The types that can be come to -/

namespace TypeTag

mutual

/-- The nodes of the type, itself in front. -/
def parts : TypeTag → List TypeTag
  | .primitive type => [.primitive type]
  | .vector element => .vector element :: element.parts
  | .struct owner module name arguments =>
      .struct owner module name arguments :: partsOfAll arguments
  | .generic index => [.generic index]
  | .reference target => .reference target :: target.parts

/-- The nodes of several types. -/
def partsOfAll : List TypeTag → List TypeTag
  | [] => []
  | first :: rest => first.parts ++ partsOfAll rest

end

mutual

theorem length_parts : (tag : TypeTag) → tag.parts.length = tag.size
  | .primitive _ | .generic _ => rfl
  | .vector element => congrArg (· + 1) (length_parts element)
  | .struct _ _ _ arguments => congrArg (· + 1) (length_partsOfAll arguments)
  | .reference target => congrArg (· + 1) (length_parts target)

theorem length_partsOfAll : (tags : List TypeTag) → (partsOfAll tags).length = sizeOfAll tags
  | [] => rfl
  | first :: rest => by
      rw [partsOfAll, sizeOfAll, List.length_append, length_parts first, length_partsOfAll rest]

end

theorem mem_parts (tag : TypeTag) : tag ∈ tag.parts := by
  cases tag <;> exact List.mem_cons_self

theorem parts_subset_partsOfAll
    {tags : List TypeTag}
    {tag : TypeTag}
    (listed : tag ∈ tags) :
    tag.parts ⊆ partsOfAll tags := by
  induction tags with
  | nil => cases listed
  | cons first rest inductionHypothesis =>
      rw [partsOfAll]
      cases List.mem_cons.mp listed with
      | inl isFirst =>
          subst isFirst
          exact List.subset_append_left _ _
      | inr inRest => exact List.subset_append_of_subset_right _ (inductionHypothesis inRest)

/-- The types are all that can be come to from the type: its nodes, and those of the types that
parameters are bound to. -/
def IsCovered (bindings types : List TypeTag) (tag : TypeTag) : Prop :=
  tag.parts ⊆ types ∧ partsOfAll bindings ⊆ types

namespace IsCovered

variable {types : List TypeTag} {tag other : TypeTag}

theorem part
    (covered : IsCovered bindings types tag)
    (isPart : other.parts ⊆ tag.parts) :
    IsCovered bindings types other :=
  ⟨List.Subset.trans isPart covered.1, covered.2⟩

/-- The type that the value is passed on to is among the types. -/
theorem passesOn
    (covered : IsCovered bindings types tag)
    (passes : PassesOn bindings value tag other) :
    IsCovered bindings types other := by
  cases passes with
  | reference => exact covered.part (List.subset_cons_self _ _)
  | bound isBound =>
      have listed := parts_subset_partsOfAll (mem_of_bound? isBound)
      exact ⟨List.Subset.trans listed covered.2, covered.2⟩
  | content =>
      apply covered.part
      rw [parts]
      exact List.subset_cons_of_subset _ (parts_subset_partsOfAll List.mem_cons_self)

theorem reached
    (covered : IsCovered bindings types tag)
    (reached : ReflTransGen (PassesOn bindings value) tag other) :
    IsCovered bindings types other := by
  induction reached with
  | refl => exact covered
  | tail _ passes inductionHypothesis => exact inductionHypothesis.passesOn passes

end IsCovered

/-- So many steps are enough for all types that can be come to. -/
def Suffices (bindings : List TypeTag) (steps : Nat) (tag : TypeTag) : Prop :=
  ∃ types : List TypeTag, types.length ≤ steps ∧ IsCovered bindings types tag

namespace Suffices

variable {steps : Nat} {tag : TypeTag}

/-- One step for each node is enough. -/
theorem of_size (tag : TypeTag) : Suffices bindings (tag.size + sizeOfAll bindings) tag := by
  refine ⟨tag.parts ++ partsOfAll bindings, ?_, List.subset_append_left _ _,
    List.subset_append_right _ _⟩
  rw [List.length_append, length_parts, length_partsOfAll]

theorem mono
    {more : Nat}
    (enough : Suffices bindings steps tag)
    (atMost : steps ≤ more) :
    Suffices bindings more tag := by
  obtain ⟨types, few, covered⟩ := enough
  exact ⟨types, Nat.le_trans few atMost, covered⟩

theorem element
    {element : TypeTag}
    (enough : Suffices bindings steps (.vector element)) :
    Suffices bindings steps element := by
  obtain ⟨types, few, covered⟩ := enough
  exact ⟨types, few, covered.part (List.subset_cons_self _ _)⟩

theorem reached
    {other : TypeTag}
    (enough : Suffices bindings steps tag)
    (reached : ReflTransGen (PassesOn bindings value) tag other) :
    Suffices bindings steps other := by
  obtain ⟨types, few, covered⟩ := enough
  exact ⟨types, few, covered.reached reached⟩

theorem passesOn
    {other : TypeTag}
    (enough : Suffices bindings steps tag)
    (passes : PassesOn bindings value tag other) :
    Suffices bindings steps other :=
  enough.reached (.single passes)

theorem endsWithin
    (enough : Suffices bindings steps tag)
    (noCircle : ¬ Circles bindings value tag) :
    EndsWithin bindings value steps tag := by
  obtain ⟨types, few, covered⟩ := enough
  apply EndsWithin.mono _ few
  apply EndsWithin.of_not_circles _ noCircle
  intro other reached
  exact (covered.reached reached).1 other.mem_parts

end Suffices

end TypeTag

/-- An option has one type argument. -/
theorem StructTag.exists_of_isOption
    {struct : StructTag}
    (isOption : struct.isOption = true) :
    ∃ element, struct.typeArguments = [element] := by
  simp only [StructTag.isOption, Bool.and_eq_true, beq_iff_eq] at isOption
  exact List.length_eq_one_iff.mp isOption.2

namespace Value

/-- The items of a list or tuple. -/
def listed? : Value → Option (List Value)
  | .list items | .tuple items => some items
  | _ => none

theorem sizeOf_lt_of_listed
    {value item : Value}
    {items : List Value}
    (listed : value.listed? = some items)
    (isItem : item ∈ items) :
    sizeOf item < sizeOf value := by
  have smaller := List.sizeOf_lt_of_mem isItem
  cases value with
  | list others | tuple others =>
      cases listed
      simp only [list.sizeOf_spec, tuple.sizeOf_spec]
      omega
  | _ => cases listed

/-! ## One step -/

/-- Encoders of the items, if the value is a list or a tuple. -/
def encoders
    (encode : Value → TypeTag → Except Error Bytes)
    (value : Value) :
    Option (List (TypeTag → Except Error Bytes)) :=
  value.listed?.map (List.map encode)

theorem marshalEach_eq
    (steps : Nat)
    (items : List Value) :
    marshalEach bindings steps items = items.map (marshalWithin bindings steps) := by
  induction items with
  | nil => rfl
  | cons item rest inductionHypothesis =>
      rw [marshalEach, inductionHypothesis, List.map_cons]

theorem marshalWithin_eq
    (steps : Nat)
    (value : Value) :
    marshalWithin bindings steps value =
      marshalFor bindings (value.encoders (marshalWithin bindings steps)) value steps := by
  cases value with
  | list items | tuple items =>
      rw [marshalWithin, marshalEach_eq]
      rfl
  | _ => rfl

/-- Only what the encoders do with the element type makes a difference. -/
theorem marshalItems_congr
    {items others : List (TypeTag → Except Error Bytes)}
    {element : TypeTag}
    (same : items.map (· element) = others.map (· element)) :
    marshalItems items element = marshalItems others element := by
  have collected (items : List (TypeTag → Except Error Bytes)) :
      marshalItems items element = (do
        let count ← (Emission.length (items.map (· element)).length).result
        let encoded ← (items.map (· element)).mapM id
        .ok (count ++ encoded.flatten)) := by
    rw [marshalItems, List.length_map, List.mapM_map]
    rfl
  rw [collected, collected, same]

theorem marshalVector_congr
    {encode other : Value → TypeTag → Except Error Bytes}
    {element : TypeTag}
    {value : Value}
    (agree : ∀ items, value.listed? = some items → ∀ item ∈ items,
      encode item element = other item element) :
    marshalVector (value.encoders encode) element value =
      marshalVector (value.encoders other) element value := by
  cases value with
  | list items | tuple items =>
      show marshalItems (items.map encode) element = marshalItems (items.map other) element
      apply marshalItems_congr
      rw [List.map_map, List.map_map]
      exact List.map_congr_left (agree items rfl)
  | _ => rfl

/-- Encodes a value by a structure type, with the content of an option encoded by `nested`. -/
def marshalStruct
    (nested : TypeTag → Except Error Bytes)
    (struct : StructTag)
    (value : Value) :
    Except Error Bytes :=
  if struct.isString then value.marshalText struct.toTypeTag
  else if struct.isOption then
    match value, struct.typeArguments with
    | .null, _ => .ok [0]
    | _, element :: _ => (nested element).map (1 :: ·)
    | _, [] => .error (Error.unsupported (.argumentType struct.toTypeTag)).stated
  else if struct.isObject then do
    let named ← value.toAddress
    named.write.result
  else .error (Error.unsupported (.argumentType struct.toTypeTag)).stated

theorem marshalFor_struct
    (items : Option (List (TypeTag → Except Error Bytes)))
    (value : Value)
    (steps : Nat)
    (owner : Address)
    (module name : String)
    (arguments : List TypeTag) :
    marshalFor bindings items value (steps + 1) (.struct owner module name arguments) =
      marshalStruct (marshalFor bindings items value steps) ⟨owner, module, name, arguments⟩
        value :=
  rfl

theorem isString_of_isOption
    {struct : StructTag}
    (isOption : struct.isOption = true) :
    struct.isString = false := by
  simp only [StructTag.isOption, StructTag.isFramework, Bool.and_eq_true, beq_iff_eq] at isOption
  simp [StructTag.isString, StructTag.isFramework, isOption.1.2]

theorem marshalStruct_absent
    {nested : TypeTag → Except Error Bytes}
    {struct : StructTag}
    (isOption : struct.isOption = true) :
    marshalStruct nested struct .null = .ok [0] := by
  have notString := isString_of_isOption isOption
  simp only [marshalStruct, notString, isOption]
  rfl

theorem marshalStruct_present
    {nested : TypeTag → Except Error Bytes}
    {owner : Address}
    {module name : String}
    {element : TypeTag}
    {value : Value}
    (isOption : StructTag.isOption ⟨owner, module, name, [element]⟩ = true)
    (present : value ≠ .null) :
    marshalStruct nested ⟨owner, module, name, [element]⟩ value =
      (nested element).map (1 :: ·) := by
  have notString := isString_of_isOption isOption
  simp only [marshalStruct, notString, isOption]
  cases value with
  | null => exact absurd rfl present
  | _ => rfl

theorem isString_of_isObject
    {struct : StructTag}
    (isObject : struct.isObject = true) :
    struct.isString = false := by
  simp only [StructTag.isObject, StructTag.isFramework, Bool.and_eq_true, beq_iff_eq] at isObject
  simp [StructTag.isString, StructTag.isFramework, isObject]

theorem isOption_of_isObject
    {struct : StructTag}
    (isObject : struct.isObject = true) :
    struct.isOption = false := by
  simp only [StructTag.isObject, StructTag.isFramework, Bool.and_eq_true, beq_iff_eq] at isObject
  simp [StructTag.isOption, StructTag.isFramework, isObject]

theorem marshalStruct_string
    {nested : TypeTag → Except Error Bytes}
    {struct : StructTag}
    {value : Value}
    (isString : struct.isString = true) :
    marshalStruct nested struct value = value.marshalText struct.toTypeTag :=
  if_pos isString

theorem marshalStruct_object
    {nested : TypeTag → Except Error Bytes}
    {struct : StructTag}
    {value : Value}
    (isObject : struct.isObject = true) :
    marshalStruct nested struct value =
      value.toAddress >>= fun named => named.write.result := by
  have notString := isString_of_isObject isObject
  have notOption := isOption_of_isObject isObject
  simp only [marshalStruct, notString, notOption, isObject]
  rfl

theorem marshalStruct_other
    {nested : TypeTag → Except Error Bytes}
    {struct : StructTag}
    {value : Value}
    (notString : ¬ struct.isString = true)
    (notOption : ¬ struct.isOption = true)
    (notObject : ¬ struct.isObject = true) :
    marshalStruct nested struct value =
      .error (Error.unsupported (.argumentType struct.toTypeTag)).stated := by
  unfold marshalStruct
  rw [if_neg notString, if_neg notOption, if_neg notObject]

/-- The content of an option is all that is encoded by another type. -/
theorem marshalStruct_congr
    {nested other : TypeTag → Except Error Bytes}
    {owner : Address}
    {module name : String}
    {arguments : List TypeTag}
    {value : Value}
    (agree : ∀ element, PassesOn bindings value (.struct owner module name arguments) element →
      nested element = other element) :
    marshalStruct nested ⟨owner, module, name, arguments⟩ value =
      marshalStruct other ⟨owner, module, name, arguments⟩ value := by
  by_cases isOption : StructTag.isOption ⟨owner, module, name, arguments⟩ = true
  · obtain ⟨element, argumentsEq⟩ := StructTag.exists_of_isOption isOption
    subst argumentsEq
    by_cases absent : value = .null
    · subst absent
      rw [marshalStruct_absent isOption, marshalStruct_absent isOption]
    · rw [marshalStruct_present isOption absent, marshalStruct_present isOption absent,
        agree element (.content isOption absent)]
  · unfold marshalStruct
    rw [if_neg isOption, if_neg isOption]

/-! ## The number of steps does not matter -/

/-- Where the value is passed on to an end, the number of steps is of no importance. -/
theorem marshalFor_eq_of_endsWithin
    {items others : Option (List (TypeTag → Except Error Bytes))}
    {tag : TypeTag}
    {steps otherSteps : Nat}
    (within : EndsWithin bindings value steps tag)
    (otherWithin : EndsWithin bindings value otherSteps tag)
    (agree : ∀ element, ReflTransGen (PassesOn bindings value) tag (.vector element) →
      marshalVector items element value = marshalVector others element value) :
    marshalFor bindings items value steps tag =
      marshalFor bindings others value otherSteps tag := by
  induction within generalizing otherSteps with
  | @next steps tag _ inductionHypothesis =>
      cases otherWithin with
      | @next otherSteps _ otherEnds =>
          -- What is left is the same for all types that the value is passed on to.
          have passed (other : TypeTag) (passes : PassesOn bindings value tag other) :
              marshalFor bindings items value steps other =
                marshalFor bindings others value otherSteps other := by
            apply inductionHypothesis other passes (otherEnds other passes)
            intro element reached
            exact agree element (.head passes reached)
          cases tag with
          | primitive type => cases type <;> rfl
          | reference target => exact passed target (.reference target)
          | generic index =>
              rw [marshalFor, marshalFor]
              cases isBound : bound? bindings index with
              | none => rfl
              | some bound => exact passed bound (.bound isBound)
          | vector element => exact agree element .refl
          | struct owner module name arguments =>
              rw [marshalFor_struct, marshalFor_struct]
              exact marshalStruct_congr passed

theorem marshalFor_of_not_endsWithin
    {items : Option (List (TypeTag → Except Error Bytes))}
    {tag : TypeTag}
    {steps : Nat}
    (endless : ¬ EndsWithin bindings value steps tag) :
    marshalFor bindings items value steps tag = .error .endlessType := by
  induction steps generalizing tag with
  | zero => rfl
  | succ steps inductionHypothesis =>
      have passed : ∃ other, PassesOn bindings value tag other ∧
          ¬ EndsWithin bindings value steps other := by
        by_contra none
        apply endless
        apply EndsWithin.next
        intro other passes
        by_contra notEnds
        exact none ⟨other, passes, notEnds⟩
      obtain ⟨other, passes, notEnds⟩ := passed
      have rest := inductionHypothesis notEnds
      cases passes with
      | reference => exact rest
      | bound isBound =>
          rw [marshalFor, isBound]
          exact rest
      | content isOption present =>
          rw [marshalFor_struct, marshalStruct_present isOption present, rest]
          rfl

/-- Any two numbers of steps that are enough give the same, for the value and for each of its
items. -/
theorem marshalFor_eq_of_suffices
    {tag : TypeTag}
    {value : Value}
    {steps left otherSteps otherLeft : Nat}
    (enough : Suffices bindings left tag)
    (atMost : left ≤ steps)
    (otherEnough : Suffices bindings otherLeft tag)
    (otherAtMost : otherLeft ≤ otherSteps) :
    marshalFor bindings (value.encoders (marshalWithin bindings steps)) value left tag =
      marshalFor bindings (value.encoders (marshalWithin bindings otherSteps)) value otherLeft
        tag := by
  induction sizeEq : sizeOf value using Nat.strongRecOn
    generalizing value tag left otherLeft with
  | ind size inductionHypothesis =>
      by_cases circles : Circles bindings value tag
      · rw [marshalFor_of_not_endsWithin fun within => within.not_circles circles,
          marshalFor_of_not_endsWithin fun within => within.not_circles circles]
      · apply marshalFor_eq_of_endsWithin (enough.endsWithin circles)
          (otherEnough.endsWithin circles)
        intro element reached
        apply marshalVector_congr
        intro items listed item isItem
        have smaller := sizeOf_lt_of_listed listed isItem
        rw [sizeEq] at smaller
        rw [marshalWithin_eq, marshalWithin_eq]
        exact inductionHypothesis _ smaller ((enough.reached reached).element.mono atMost)
          (Nat.le_refl _) ((otherEnough.reached reached).element.mono otherAtMost)
          (Nat.le_refl _) rfl

/-- Whatever number of steps is enough, it gives what `marshal` gives. -/
theorem marshalFor_eq_marshal
    {tag : TypeTag}
    {steps left : Nat}
    (enough : Suffices bindings left tag)
    (atMost : left ≤ steps)
    (value : Value) :
    marshalFor bindings (value.encoders (marshalWithin bindings steps)) value left tag =
      marshal tag value bindings := by
  rw [marshal, marshalWithin_eq]
  exact marshalFor_eq_of_suffices enough atMost ((Suffices.of_size tag).mono (Nat.le_succ _))
    (Nat.le_refl _)

/-! ## Each form of type -/

/-- Whatever number of steps is counted, a value that is passed on in a circle uses them up. -/
theorem marshal_of_circles
    {tag : TypeTag}
    (circles : Circles bindings value tag) :
    marshal tag value bindings = .error .endlessType := by
  rw [marshal, marshalWithin_eq]
  exact marshalFor_of_not_endsWithin fun within => within.not_circles circles

theorem marshal_integer
    (type : IntegerType)
    (value : Value) :
    marshal (.integer type) value bindings =
      value.toInteger type.name >>= fun number => (Emission.integer type number).result := by
  rw [marshal, marshalWithin_eq]
  rfl

theorem marshal_bool (value : Value) :
    marshal .bool value bindings = value.toBool >>= fun b => (Emission.bool b).result := by
  rw [marshal, marshalWithin_eq]
  rfl

theorem marshal_address (value : Value) :
    marshal .address value bindings = value.toAddress >>= fun named => named.write.result := by
  rw [marshal, marshalWithin_eq]
  rfl

theorem marshal_signer (value : Value) :
    marshal .signer value bindings = .error (.unsupported .signerArgument) := by
  rw [marshal, marshalWithin_eq]
  rfl

theorem marshal_primitive
    (type : PrimitiveType)
    (value : Value) :
    marshal (.primitive type) value bindings = marshal (.primitive type) value [] := by
  cases type with
  | integer type => exact (marshal_integer type value).trans (marshal_integer type value).symm
  | bool => exact (marshal_bool value).trans (marshal_bool value).symm
  | address => exact (marshal_address value).trans (marshal_address value).symm
  | signer => exact (marshal_signer value).trans (marshal_signer value).symm

theorem marshal_reference
    (target : TypeTag)
    (value : Value) :
    marshal (.reference target) value bindings = marshal target value bindings := by
  rw [marshal, marshalWithin_eq]
  exact marshalFor_eq_marshal
    ((Suffices.of_size (.reference target)).passesOn (.reference target : PassesOn _ value _ _))
    (Nat.le_succ _) value

theorem marshal_bound
    {index : Int}
    {bound : TypeTag}
    (isBound : bound? bindings index = some bound)
    (value : Value) :
    marshal (.generic index) value bindings = marshal bound value bindings := by
  rw [marshal, marshalWithin_eq, marshalFor, isBound]
  exact marshalFor_eq_marshal
    ((Suffices.of_size (.generic index)).passesOn (.bound isBound : PassesOn _ value _ _))
    (Nat.le_succ _) value

theorem marshal_unbound
    {index : Int}
    (isUnbound : bound? bindings index = none)
    (value : Value) :
    marshal (.generic index) value bindings = .error (unbound index bindings.length) := by
  rw [marshal, marshalWithin_eq, marshalFor, isUnbound]

theorem marshal_vector
    (element : TypeTag)
    (value : Value) :
    marshal (.vector element) value bindings =
      marshalVector (value.encoders fun item type => marshal type item bindings) element value := by
  rw [marshal, marshalWithin_eq, marshalFor]
  apply marshalVector_congr
  intro items listed item isItem
  rw [marshalWithin_eq]
  exact marshalFor_eq_marshal
    ((Suffices.of_size (.vector element)).element.mono (Nat.le_succ _)) (Nat.le_refl _) item

/-- The octets of a value that is given as octets, if they can be read. -/
def octets? : Value → Option (Except Error Bytes)
  | .bytes octets | .buffer octets => some (.ok octets)
  | .text s => some (octetsOfText s)
  | .brokenText broken => some (octetsOfBroken broken)
  | _ => none

/-- A vector of octets is encoded from a value that is given as octets. -/
theorem marshal_octets
    {read : Except Error Bytes}
    (given : value.octets? = some read) :
    marshal (.vector .u8) value bindings =
      read >>= fun octets => (Emission.bytes octets).result := by
  rw [marshal_vector]
  cases value with
  | bytes octets | buffer octets | text s | brokenText broken =>
      cases given
      rfl
  | _ => cases given

theorem marshal_struct
    (owner : Address)
    (module name : String)
    (arguments : List TypeTag)
    (value : Value) :
    marshal (.struct owner module name arguments) value bindings =
      marshalStruct (fun element => marshal element value bindings)
        ⟨owner, module, name, arguments⟩ value := by
  rw [marshal, marshalWithin_eq, marshalFor_struct]
  apply marshalStruct_congr
  intro element (passes : PassesOn bindings value _ element)
  exact marshalFor_eq_marshal
    ((Suffices.of_size (.struct owner module name arguments)).passesOn passes)
    (Nat.le_succ _) value

/-! ## Types whose parameters are bound to types without parameters -/

end Value

theorem TypeTag.hasNoParameter_of_mem
    {tags : List TypeTag}
    {tag : TypeTag}
    (concrete : HaveNoParameter tags)
    (listed : tag ∈ tags) :
    tag.HasNoParameter := by
  induction listed with
  | head => exact concrete.1
  | tail _ _ inductionHypothesis => exact inductionHypothesis concrete.2

namespace EndsWithin

/-- A value is passed on to an end by a type without parameters, or if it is by whatever parameters
are bound to. -/
theorem exists_of_parameters :
    (tag : TypeTag) →
      (tag.HasNoParameter ∨ ∀ (index : Int) (other : TypeTag), bound? bindings index = some other →
        ∃ steps, EndsWithin bindings value steps other) →
        ∃ steps, EndsWithin bindings value steps tag
  | .primitive _, _ => ⟨1, .next nofun⟩
  | .vector _, _ => ⟨1, .next nofun⟩
  | .reference target, parameters => by
      obtain ⟨steps, within⟩ := exists_of_parameters target parameters
      refine ⟨steps + 1, .next ?_⟩
      intro other passes
      cases passes with
      | reference => exact within
  | .generic index, parameters => by
      have bound := parameters.resolve_left id
      cases isBound : bound? bindings index with
      | none =>
          refine ⟨1, .next ?_⟩
          intro other passes
          cases passes with
          | bound isOther =>
              rw [isBound] at isOther
              cases isOther
      | some found =>
          obtain ⟨steps, within⟩ := bound index found isBound
          refine ⟨steps + 1, .next ?_⟩
          intro other passes
          cases passes with
          | bound isOther =>
              rw [isBound] at isOther
              cases isOther
              exact within
  | .struct _ _ _ [element], parameters => by
      obtain ⟨steps, within⟩ := exists_of_parameters element (parameters.imp_left And.left)
      refine ⟨steps + 1, .next ?_⟩
      intro other passes
      cases passes with
      | content => exact within
  | .struct _ _ _ [], _ => ⟨1, .next nofun⟩
  | .struct _ _ _ (_ :: _ :: _), _ => ⟨1, .next nofun⟩

theorem exists_of_concrete
    (concrete : HaveNoParameter bindings)
    (value : Value)
    (tag : TypeTag) :
    ∃ steps, EndsWithin bindings value steps tag := by
  apply exists_of_parameters tag (.inr _)
  intro index other isBound
  exact exists_of_parameters other (.inl (hasNoParameter_of_mem concrete (mem_of_bound? isBound)))

end EndsWithin

namespace Value

/-- What holds of a type and a value if it holds of all that encoding goes on with holds of every
type and value. -/
theorem marshal_induction
    (concrete : HaveNoParameter bindings)
    {motive : TypeTag → Value → Prop}
    (primitive : ∀ type value, motive (.primitive type) value)
    (reference : ∀ target value, motive target value → motive (.reference target) value)
    (generic : ∀ index value, (∀ bound, bound? bindings index = some bound → motive bound value) →
      motive (.generic index) value)
    (vector : ∀ element value,
      (∀ items, value.listed? = some items → ∀ item ∈ items, motive element item) →
      motive (.vector element) value)
    (struct : ∀ owner module name arguments value,
      (∀ element, PassesOn bindings value (.struct owner module name arguments) element →
        motive element value) →
      motive (.struct owner module name arguments) value)
    (tag : TypeTag)
    (value : Value) :
    motive tag value := by
  induction sizeEq : sizeOf value using Nat.strongRecOn generalizing tag value with
  | ind size valueHypothesis =>
      -- Items are smaller values; whatever keeps the value comes closer to where it ends.
      obtain ⟨steps, within⟩ := EndsWithin.exists_of_concrete concrete value tag
      induction within with
      | @next steps tag _ passedHypothesis =>
          cases tag with
          | primitive type => exact primitive type value
          | reference target =>
              exact reference target value (passedHypothesis target (.reference target))
          | generic index =>
              apply generic index value
              intro bound isBound
              exact passedHypothesis bound (.bound isBound)
          | vector element =>
              apply vector element value
              intro items listed item isItem
              have smaller := sizeOf_lt_of_listed listed isItem
              rw [sizeEq] at smaller
              exact valueHypothesis _ smaller element item rfl
          | struct owner module name arguments =>
              exact struct owner module name arguments value passedHypothesis

end Value

end MoveClient
