import Mathlib.Order.WellFounded
import MoveClient.Proofs.Argument.Resolution

/-!
How encoding an argument ends.

Owns:
- `MarshalCall` and `Calls`, the recursion of encoding: which call is made by which, in order;
- `Refuses`, the causes that a call fails with by itself, and `IsUnforeseen`, the calls whose cause
  is none that encoding is known for;
- that encoding fails exactly with what a call refuses that is come to, and does not end exactly
  where the calls go on for ever, which is where a value is passed on in a circle.

Does not own: what is encoded, see `MoveClient.Proofs.Argument.Marshalling`.
-/

namespace MoveClient

open Relation

variable {bindings : List TypeTag} {value : Value}

/-! ## Failures of what is written -/

namespace Emission

theorem outOfRange_eq_stated
    (number : Int)
    (form : IntegerForm) :
    outOfRange number form = (Error.range (.notEncodable (.int number) form)).stated := by
  simp [outOfRange, Error.stated, Error.isShowable, Value.isShowable]

theorem result_length_eq_error_iff
    {number : Nat}
    {error : Error} :
    (length number).result = .error error ↔
      maxLength < number ∧
        (Error.range (.notEncodable (.int number) .uleb128)).stated = error := by
  rw [← outOfRange_eq_stated, length]
  by_cases small : number ≤ maxLength
  · rw [if_pos small]
    apply iff_of_false nofun
    intro large
    omega
  · rw [if_neg small]
    simp [fail, result, Nat.lt_of_not_le small]

theorem result_integer_eq_error_iff
    {type : IntegerType}
    {number : Int}
    {error : Error} :
    (integer type number).result = .error error ↔
      ¬ type.Holds number ∧
        (Error.range (.notEncodable (.int number) (.fixed type))).stated = error := by
  rw [← outOfRange_eq_stated, integer]
  by_cases inRange : type.Holds number
  · rw [if_pos inRange]
    apply iff_of_false nofun
    intro outside
    exact outside.1 inRange
  · rw [if_neg inRange]
    simp [fail, result, inRange]

theorem result_bytes_eq_error_iff
    {octets : Bytes}
    {error : Error} :
    (bytes octets).result = .error error ↔
      maxLength < octets.length ∧
        (Error.range (.notEncodable (.int octets.length) .uleb128)).stated = error := by
  rw [← result_length_eq_error_iff, bytes]
  cases length octets.length with
  | complete count => exact iff_of_false nofun nofun
  | broken count cause => rfl

end Emission

namespace Error

/-- The failures that encoding an argument is known for: a value that cannot be read as the type
wants it, a number out of range or a type parameter that is not bound, and a type that has no
arguments. -/
def IsArgumentFailure : Error → Prop
  | .parse _ | .addressText _ | .range _ | .unsupported _ => True
  | _ => False

end Error

/-! ## Failures of reading values -/

namespace Value

theorem argumentFailure_of_toInteger
    {expected : String}
    {cause : Error}
    (unread : value.toInteger expected = .error cause) :
    cause.IsArgumentFailure ∧ cause.stated = cause := by
  cases value with
  | int number => cases unread
  | text s =>
      rw [toInteger] at unread
      cases read : integerOfText? s with
      | some number =>
          rw [read] at unread
          cases unread
      | none =>
          rw [read] at unread
          cases unread
          exact ⟨trivial, rfl⟩
  | _ =>
      cases unread
      exact ⟨trivial, rfl⟩

theorem argumentFailure_of_toAddress
    {cause : Error}
    (unread : value.toAddress = .error cause) :
    cause.IsArgumentFailure ∧ cause.stated = cause := by
  cases value with
  | address a => cases unread
  | text s =>
      rw [toAddress] at unread
      cases parsed : Address.parseRelaxed s with
      | ok a =>
          rw [parsed] at unread
          cases unread
      | error reason =>
          rw [parsed] at unread
          cases unread
          exact ⟨trivial, rfl⟩
  | _ =>
      cases unread
      exact ⟨trivial, rfl⟩

theorem toBool_eq_error_iff {error : Error} :
    value.toBool = .error error ↔
      (∀ b, value.toBool ≠ .ok b) ∧ (Error.parse (.notBool value)).stated = error := by
  cases value with
  | bool b =>
      apply iff_of_false nofun
      intro refused
      exact refused.1 b rfl
  | text s =>
      simp only [toBool]
      split
      · apply iff_of_false nofun
        intro refused
        exact refused.1 true rfl
      · split
        · apply iff_of_false nofun
          intro refused
          exact refused.1 false rfl
        · simp [Error.stated, Error.isShowable, isShowable]
  | _ => simp [toBool]

/-- The text has a half of a character and is not meant to be hexadecimal. -/
def IsBrokenPlain (value : Value) : Prop :=
  ∃ broken : BrokenText, value = .brokenText broken ∧
    ∀ digits, broken.front ≠ '0' :: 'x' :: digits

theorem IsBrokenPlain.octets?_eq
    (isBroken : value.IsBrokenPlain) :
    value.octets? = some (.error .halfCharacter) := by
  obtain ⟨broken, valueEq, unmarked⟩ := isBroken
  subst valueEq
  rw [octets?, octetsOfBroken]
  split
  next digits frontEq => exact absurd frontEq (unmarked digits)
  next => rfl

theorem failure_of_octets?
    {cause : Error}
    (unread : value.octets? = some (.error cause)) :
    (cause.IsArgumentFailure ∨ cause = .halfCharacter ∧ value.IsBrokenPlain) ∧
      cause.stated = cause := by
  cases value with
  | text s =>
      replace unread := Option.some.inj unread
      rw [octetsOfText] at unread
      split at unread
      · split at unread
        · cases unread
        · cases unread
          exact ⟨.inl trivial, rfl⟩
      · cases unread
  | brokenText broken =>
      replace unread := Option.some.inj unread
      rw [octetsOfBroken] at unread
      split at unread
      next =>
        cases unread
        exact ⟨.inl trivial, rfl⟩
      next unmarked =>
        cases unread
        exact ⟨.inr ⟨rfl, broken, rfl, unmarked⟩, rfl⟩
  | _ => cases unread

/-- Encoding items fails if there are too many, or else as the first item does that fails. -/
theorem marshalItems_map_eq_error_iff
    {encode : Value → TypeTag → Except Error Bytes}
    {items : List Value}
    {element : TypeTag}
    {error : Error} :
    marshalItems (items.map encode) element = .error error ↔
      (Emission.length items.length).result = .error error ∨
        items.length ≤ maxLength ∧ items.mapM (encode · element) = .error error := by
  have few {count : Bytes} (counted : (Emission.length items.length).result = .ok count) :
      items.length ≤ maxLength := by
    by_contra many
    rw [Emission.result_length_eq_error_iff.mpr ⟨Nat.lt_of_not_le many, rfl⟩] at counted
    cases counted
  rw [marshalItems, List.length_map, List.mapM_map]
  simp only [Error.bind_eq_error_iff]
  constructor
  · intro failed
    obtain many | ⟨count, counted, failed | ⟨_, _, failed⟩⟩ := failed
    · exact .inl many
    · exact .inr ⟨few counted, failed⟩
    · cases failed
  · intro failed
    obtain many | ⟨atMost, failed⟩ := failed
    · exact .inl many
    · exact .inr ⟨_, congrArg Emission.result (if_pos atMost), .inl failed⟩

end Value

/-! ## Calls -/

/-- A value that is to be encoded, and the type that it is to be encoded by. -/
structure MarshalCall where
  tag : TypeTag
  value : Value

namespace MarshalCall

/-- What the call comes to. -/
def result (bindings : List TypeTag) (call : MarshalCall) : Except Error Bytes :=
  Value.marshal call.tag call.value bindings

/-- The second call is made by the first. An item is encoded once all items in front of it have
been. -/
inductive Calls (bindings : List TypeTag) : MarshalCall → MarshalCall → Prop where
  | pass {value : Value} {tag other : TypeTag}
      (passes : PassesOn bindings value tag other) :
      Calls bindings ⟨tag, value⟩ ⟨other, value⟩
  | item {element : TypeTag} {value item : Value} {before after : List Value}
      (listed : value.listed? = some (before ++ item :: after))
      (few : (before ++ item :: after).length ≤ maxLength)
      (encoded : ∀ earlier ∈ before, ∃ octets, result bindings ⟨element, earlier⟩ = .ok octets) :
      Calls bindings ⟨.vector element, value⟩ ⟨element, item⟩

/-- The call itself, and none that it makes, cannot go on, because of the failure. -/
inductive Refuses (bindings : List TypeTag) : MarshalCall → Error → Prop where
  | notInteger {type : IntegerType} {value : Value} {cause : Error}
      (unread : value.toInteger type.name = .error cause) :
      Refuses bindings ⟨.integer type, value⟩ cause
  | outOfRange {type : IntegerType} {value : Value} {number : Int}
      (read : value.toInteger type.name = .ok number)
      (outside : ¬ type.Holds number) :
      Refuses bindings ⟨.integer type, value⟩ (.range (.notEncodable (.int number) (.fixed type)))
  | notBool {value : Value}
      (unread : ∀ b, value.toBool ≠ .ok b) :
      Refuses bindings ⟨.bool, value⟩ (.parse (.notBool value))
  | notAddress {value : Value} {cause : Error}
      (unread : value.toAddress = .error cause) :
      Refuses bindings ⟨.address, value⟩ cause
  | signer (value : Value) :
      Refuses bindings ⟨.signer, value⟩ (.unsupported .signerArgument)
  | unbound {place : Nat} (value : Value)
      (few : bindings.length ≤ place) :
      Refuses bindings ⟨.generic (.ofNat place), value⟩
        (.range (.unboundTypeParameter place bindings.length))
  | beforeFirst {place : Nat} (value : Value)
      (few : bindings.length ≤ place) :
      Refuses bindings ⟨.generic (.negSucc place), value⟩ .missingItem
  | nullVector (element : TypeTag) :
      Refuses bindings ⟨.vector element, .null⟩ (.parse (.nullVector element))
  | notList {element : TypeTag} {value : Value}
      (present : value ≠ .null)
      (single : value.listed? = none)
      (notOctets : element = .u8 → value.octets? = none) :
      Refuses bindings ⟨.vector element, value⟩ (.parse (.notList element value.kindName))
  | manyItems {element : TypeTag} {value : Value} {items : List Value}
      (listed : value.listed? = some items)
      (many : maxLength < items.length) :
      Refuses bindings ⟨.vector element, value⟩
        (.range (.notEncodable (.int items.length) .uleb128))
  | notHex {value : Value} {cause : Error}
      (unread : value.octets? = some (.error cause)) :
      Refuses bindings ⟨.vector .u8, value⟩ cause
  | manyOctets {value : Value} {octets : Bytes}
      (read : value.octets? = some (.ok octets))
      (many : maxLength < octets.length) :
      Refuses bindings ⟨.vector .u8, value⟩
        (.range (.notEncodable (.int octets.length) .uleb128))
  | notText {owner : Address} {module name : String} {arguments : List TypeTag} {value : Value}
      (isString : StructTag.isString ⟨owner, module, name, arguments⟩ = true)
      (unread : value.kindName ≠ "str") :
      Refuses bindings ⟨.struct owner module name arguments, value⟩
        (.parse (.notText (.struct owner module name arguments) value.kindName))
  | brokenText {owner : Address} {module name : String} {arguments : List TypeTag}
      (isString : StructTag.isString ⟨owner, module, name, arguments⟩ = true)
      (broken : BrokenText) :
      Refuses bindings ⟨.struct owner module name arguments, .brokenText broken⟩ .halfCharacter
  | longText {owner : Address} {module name : String} {arguments : List TypeTag} {s : String}
      (isString : StructTag.isString ⟨owner, module, name, arguments⟩ = true)
      (long : maxLength < (Emission.textOctets s).length) :
      Refuses bindings ⟨.struct owner module name arguments, .text s⟩
        (.range (.notEncodable (.int (Emission.textOctets s).length) .uleb128))
  | notObject {owner : Address} {module name : String} {arguments : List TypeTag} {value : Value}
      {cause : Error}
      (isObject : StructTag.isObject ⟨owner, module, name, arguments⟩ = true)
      (unread : value.toAddress = .error cause) :
      Refuses bindings ⟨.struct owner module name arguments, value⟩ cause
  | noArgument {owner : Address} {module name : String} {arguments : List TypeTag} (value : Value)
      (notString : ¬ StructTag.isString ⟨owner, module, name, arguments⟩ = true)
      (notOption : ¬ StructTag.isOption ⟨owner, module, name, arguments⟩ = true)
      (notObject : ¬ StructTag.isObject ⟨owner, module, name, arguments⟩ = true) :
      Refuses bindings ⟨.struct owner module name arguments, value⟩
        (.unsupported (.argumentType (.struct owner module name arguments)))

/-- Encoding is not prepared for the call: it counts from the end of the bindings beyond the first
one, or wants the octets of text with a half of a character. -/
inductive IsUnforeseen (bindings : List TypeTag) : MarshalCall → Prop where
  | beforeFirst {place : Nat} (value : Value)
      (few : bindings.length ≤ place) :
      IsUnforeseen bindings ⟨.generic (.negSucc place), value⟩
  | octets {value : Value}
      (isBroken : value.IsBrokenPlain) :
      IsUnforeseen bindings ⟨.vector .u8, value⟩
  | text {owner : Address} {module name : String} {arguments : List TypeTag}
      (isString : StructTag.isString ⟨owner, module, name, arguments⟩ = true)
      (broken : BrokenText) :
      IsUnforeseen bindings ⟨.struct owner module name arguments, .brokenText broken⟩

variable {call next : MarshalCall} {cause error : Error}

/-- A call refuses what encoding is known for, or it is unforeseen. -/
theorem Refuses.isArgumentFailure_or
    (refuses : Refuses bindings call cause) :
    cause.IsArgumentFailure ∨
      (cause = .missingItem ∨ cause = .halfCharacter) ∧ IsUnforeseen bindings call := by
  cases refuses with
  | notInteger unread => exact .inl (Value.argumentFailure_of_toInteger unread).1
  | notAddress unread | notObject _ unread =>
      exact .inl (Value.argumentFailure_of_toAddress unread).1
  | notHex unread =>
      obtain known | ⟨isHalf, isBroken⟩ := (Value.failure_of_octets? unread).1
      · exact .inl known
      · exact .inr ⟨.inr isHalf, .octets isBroken⟩
  | beforeFirst value few => exact .inr ⟨.inl rfl, .beforeFirst value few⟩
  | brokenText isString broken => exact .inr ⟨.inr rfl, .text isString broken⟩
  | _ => exact .inl trivial

/-- What an unforeseen call refuses, encoding is not known for. -/
theorem IsUnforeseen.not_isArgumentFailure
    (unforeseen : IsUnforeseen bindings call)
    (refuses : Refuses bindings call cause) :
    ¬ cause.IsArgumentFailure := by
  cases unforeseen with
  | beforeFirst value few =>
      cases refuses
      exact id
  | octets isBroken =>
      have octetsEq := isBroken.octets?_eq
      cases refuses with
      | nullVector => cases octetsEq
      | manyItems listed =>
          obtain ⟨broken, valueEq, _⟩ := isBroken
          subst valueEq
          cases listed
      | notList present single notOctets =>
          rw [notOctets rfl] at octetsEq
          cases octetsEq
      | notHex unread =>
          rw [octetsEq] at unread
          cases unread
          exact id
      | manyOctets read =>
          rw [octetsEq] at read
          cases read
  | text isString broken =>
      cases refuses with
      | notText _ unread => exact absurd rfl unread
      | brokenText => exact id
      | notObject isObject =>
          rw [Value.isString_of_isObject isObject] at isString
          cases isString
      | noArgument _ notString => exact absurd isString notString

theorem Refuses.isArgumentFailure_iff
    (refuses : Refuses bindings call cause) :
    cause.IsArgumentFailure ↔ ¬ IsUnforeseen bindings call := by
  constructor
  · intro known unforeseen
    exact unforeseen.not_isArgumentFailure refuses known
  · intro foreseen
    exact refuses.isArgumentFailure_or.resolve_right fun unforeseen => foreseen unforeseen.2

/-- A call that refuses its value fails, and says so. -/
theorem Refuses.result
    (refuses : Refuses bindings call cause) :
    call.result bindings = .error cause.stated := by
  cases refuses with
  | notInteger unread =>
      rw [(Value.argumentFailure_of_toInteger unread).2]
      rw [MarshalCall.result, Value.marshal_integer, unread]
      rfl
  | outOfRange read outside =>
      rw [MarshalCall.result, Value.marshal_integer, read]
      exact Emission.result_integer_eq_error_iff.mpr ⟨outside, rfl⟩
  | notBool unread =>
      have refused := Value.toBool_eq_error_iff.mpr ⟨unread, rfl⟩
      rw [MarshalCall.result, Value.marshal_bool, refused]
      rfl
  | notAddress unread =>
      rw [(Value.argumentFailure_of_toAddress unread).2]
      rw [MarshalCall.result, Value.marshal_address, unread]
      rfl
  | signer value => exact Value.marshal_signer value
  | unbound value few =>
      exact Value.marshal_unbound (TypeTag.bound?_ofNat_eq_none_iff.mpr few) value
  | beforeFirst value few =>
      exact Value.marshal_unbound (TypeTag.bound?_negSucc_eq_none_iff.mpr few) value
  | nullVector element => exact Value.marshal_vector element .null
  | @notList element value present single notOctets =>
      rw [MarshalCall.result, Value.marshal_vector, Value.encoders, single]
      cases value with
      | null => exact absurd rfl present
      | list items | tuple items => cases single
      | bytes octets | buffer octets | text s | brokenText broken =>
          apply if_neg
          intro ofOctets
          cases notOctets ofOctets
      | _ => rfl
  | manyItems listed many =>
      have counted := Emission.result_length_eq_error_iff.mpr ⟨many, rfl⟩
      rw [MarshalCall.result, Value.marshal_vector, Value.marshalVector_listed listed,
        Value.marshalItems, List.length_map, counted]
      rfl
  | notHex unread =>
      rw [(Value.failure_of_octets? unread).2]
      rw [MarshalCall.result, Value.marshal_octets unread]
      rfl
  | manyOctets read many =>
      rw [MarshalCall.result, Value.marshal_octets read]
      exact Emission.result_bytes_eq_error_iff.mpr ⟨many, rfl⟩
  | @notText owner module name arguments value isString unread =>
      rw [MarshalCall.result, Value.marshal_struct, Value.marshalStruct_string isString]
      cases value with
      | text s | brokenText broken => exact absurd rfl unread
      | _ => rfl
  | brokenText isString broken =>
      rw [MarshalCall.result, Value.marshal_struct, Value.marshalStruct_string isString]
      rfl
  | longText isString long =>
      rw [MarshalCall.result, Value.marshal_struct, Value.marshalStruct_string isString]
      exact Emission.result_bytes_eq_error_iff.mpr ⟨long, rfl⟩
  | notObject isObject unread =>
      rw [(Value.argumentFailure_of_toAddress unread).2, MarshalCall.result,
        Value.marshal_struct, Value.marshalStruct_object isObject, unread]
      rfl
  | noArgument value notString notOption notObject =>
      rw [MarshalCall.result, Value.marshal_struct,
        Value.marshalStruct_other notString notOption notObject]
      rfl

/-- What a call refuses is stated, or it cannot be shown. -/
theorem Refuses.stated_ne_endlessType
    (refuses : Refuses bindings call cause) :
    cause.stated ≠ .endlessType := by
  by_cases shown : cause.isShowable = true
  · rw [Error.stated_of_isShowable shown]
    intro endless
    subst endless
    obtain known | ⟨isMissing | isHalf, _⟩ := refuses.isArgumentFailure_or
    · exact known
    · cases isMissing
    · cases isHalf
  · rw [Error.stated_of_not_isShowable shown]
    nofun

/-- A failure as it is stated is not what encoding is known for if the call is unforeseen, or if
what it refuses cannot be shown. -/
theorem Refuses.not_isArgumentFailure_stated_iff
    (refuses : Refuses bindings call cause) :
    ¬ cause.stated.IsArgumentFailure ↔
      IsUnforeseen bindings call ∨ ¬ cause.isShowable = true := by
  by_cases shown : cause.isShowable = true
  · rw [Error.stated_of_isShowable shown, refuses.isArgumentFailure_iff, not_not]
    exact (or_iff_left (not_not.mpr shown)).symm
  · rw [Error.stated_of_not_isShowable shown]
    exact iff_of_true id (.inr shown)

/-! ## Failing calls -/

/-- A call fails as a call that it makes does. -/
theorem Calls.result_eq_error
    (calls : Calls bindings call next)
    (failed : next.result bindings = .error error) :
    call.result bindings = .error error := by
  cases calls with
  | pass passes =>
      cases passes with
      | reference => exact (Value.marshal_reference _ _).trans failed
      | bound isBound => exact (Value.marshal_bound isBound _).trans failed
      | content isOption present =>
          have nested : Value.marshal _ _ bindings = .error error := failed
          rw [result, Value.marshal_struct, Value.marshalStruct_present isOption present, nested]
          rfl
  | @item element value item before after listed few encoded =>
      rw [result, Value.marshal_vector, Value.marshalVector_listed listed,
        Value.marshalItems_map_eq_error_iff]
      exact .inr ⟨few, Error.mapM_eq_error_iff.mpr ⟨before, item, after, rfl, encoded, failed⟩⟩

theorem refuses_of_primitive
    {type : PrimitiveType}
    (failed : Value.marshal (.primitive type) value bindings = .error error) :
    ∃ cause, Refuses bindings ⟨.primitive type, value⟩ cause := by
  cases type with
  | integer type =>
      obtain unread | ⟨number, read, failed⟩ :=
        Error.bind_eq_error_iff.mp ((Value.marshal_integer type value).symm.trans failed)
      · exact ⟨error, .notInteger unread⟩
      · exact ⟨_, .outOfRange read (Emission.result_integer_eq_error_iff.mp failed).1⟩
  | bool =>
      obtain unread | ⟨b, _, failed⟩ :=
        Error.bind_eq_error_iff.mp ((Value.marshal_bool value).symm.trans failed)
      · exact ⟨_, .notBool (Value.toBool_eq_error_iff.mp unread).1⟩
      · cases failed
  | address =>
      obtain unread | ⟨named, _, failed⟩ :=
        Error.bind_eq_error_iff.mp ((Value.marshal_address value).symm.trans failed)
      · exact ⟨error, .notAddress unread⟩
      · cases failed
  | signer => exact ⟨_, .signer value⟩

theorem refuses_or_item
    {element : TypeTag}
    (failed : Value.marshal (.vector element) value bindings = .error error) :
    (∃ cause, Refuses bindings ⟨.vector element, value⟩ cause) ∨
      ∃ next, Calls bindings ⟨.vector element, value⟩ next ∧
        next.result bindings = .error error := by
  cases listed : value.listed? with
  | some items =>
      rw [Value.marshal_vector, Value.marshalVector_listed listed,
        Value.marshalItems_map_eq_error_iff] at failed
      obtain many | ⟨few, failed⟩ := failed
      · exact .inl ⟨_, .manyItems listed (Emission.result_length_eq_error_iff.mp many).1⟩
      · obtain ⟨before, item, after, split, encoded, itemFailed⟩ :=
          Error.mapM_eq_error_iff.mp failed
        subst split
        exact .inr ⟨⟨element, item⟩, .item listed few encoded, itemFailed⟩
  | none =>
      apply Or.inl
      by_cases absent : value = .null
      · subst absent
        exact ⟨_, .nullVector element⟩
      by_cases notOctets : element = .u8 → value.octets? = none
      · exact ⟨_, .notList absent listed notOctets⟩
      · obtain ⟨ofOctets, given⟩ := not_forall.mp notOctets
        obtain ⟨read, given⟩ := Option.ne_none_iff_exists'.mp given
        subst ofOctets
        rw [Value.marshal_octets given, Error.bind_eq_error_iff] at failed
        obtain unread | ⟨octets, isRead, failed⟩ := failed
        · subst unread
          exact ⟨error, .notHex given⟩
        · subst isRead
          exact ⟨_, .manyOctets given (Emission.result_bytes_eq_error_iff.mp failed).1⟩

theorem refuses_or_content
    {owner : Address}
    {module name : String}
    {arguments : List TypeTag}
    (failed : Value.marshal (.struct owner module name arguments) value bindings = .error error) :
    (∃ cause, Refuses bindings ⟨.struct owner module name arguments, value⟩ cause) ∨
      ∃ next, Calls bindings ⟨.struct owner module name arguments, value⟩ next ∧
        next.result bindings = .error error := by
  rw [Value.marshal_struct] at failed
  by_cases isString : StructTag.isString ⟨owner, module, name, arguments⟩ = true
  · apply Or.inl
    cases value with
    | text s =>
        rw [Value.marshalStruct_string isString] at failed
        exact ⟨_, .longText isString (Emission.result_bytes_eq_error_iff.mp failed).1⟩
    | brokenText broken => exact ⟨_, .brokenText isString broken⟩
    | _ => exact ⟨_, .notText isString (by simp [Value.kindName])⟩
  by_cases isOption : StructTag.isOption ⟨owner, module, name, arguments⟩ = true
  · obtain ⟨element, argumentsEq⟩ := StructTag.exists_of_isOption isOption
    subst argumentsEq
    by_cases absent : value = .null
    · subst absent
      rw [Value.marshalStruct_absent isOption] at failed
      cases failed
    · rw [Value.marshalStruct_present isOption absent] at failed
      refine .inr ⟨⟨element, value⟩, .pass (.content isOption absent), ?_⟩
      show Value.marshal element value bindings = .error error
      cases nested : Value.marshal element value bindings with
      | ok octets =>
          rw [nested] at failed
          cases failed
      | error cause =>
          rw [nested] at failed
          exact failed
  by_cases isObject : StructTag.isObject ⟨owner, module, name, arguments⟩ = true
  · rw [Value.marshalStruct_object isObject, Error.bind_eq_error_iff] at failed
    obtain unread | ⟨named, _, failed⟩ := failed
    · exact .inl ⟨error, .notObject isObject unread⟩
    · cases failed
  · exact .inl ⟨_, .noArgument value isString isOption isObject⟩

/-- A call that fails refuses its value itself, or makes a call that fails alike. -/
theorem refuses_or_calls
    (failed : call.result bindings = .error error) :
    (∃ cause, Refuses bindings call cause) ∨
      ∃ next, Calls bindings call next ∧ next.result bindings = .error error := by
  obtain ⟨tag, value⟩ := call
  cases tag with
  | primitive type => exact .inl (refuses_of_primitive failed)
  | reference target =>
      have passed := (Value.marshal_reference target value).symm.trans failed
      exact .inr ⟨⟨target, value⟩, .pass (.reference target), passed⟩
  | generic index =>
      cases isBound : TypeTag.bound? bindings index with
      | none =>
          cases index with
          | ofNat place =>
              exact .inl ⟨_, .unbound value (TypeTag.bound?_ofNat_eq_none_iff.mp isBound)⟩
          | negSucc place =>
              exact .inl ⟨_, .beforeFirst value (TypeTag.bound?_negSucc_eq_none_iff.mp isBound)⟩
      | some bound =>
          have passed := (Value.marshal_bound isBound value).symm.trans failed
          exact .inr ⟨⟨bound, value⟩, .pass (.bound isBound), passed⟩
  | vector element => exact refuses_or_item failed
  | struct owner module name arguments => exact refuses_or_content failed

/-! ## Calls that go on for ever -/

/-- From the call on, calls are made without end. -/
def NeverEnds (bindings : List TypeTag) (call : MarshalCall) : Prop :=
  ∃ calls : Nat → MarshalCall, calls 0 = call ∧ ∀ n, Calls bindings (calls n) (calls (n + 1))

/-- The value is passed on from its type to that type again. -/
def Returns (bindings : List TypeTag) (call : MarshalCall) : Prop :=
  TransGen (PassesOn bindings call.value) call.tag call.tag

theorem neverEnds_iff_not_acc :
    NeverEnds bindings call ↔ ¬ Acc (fun next made => Calls bindings made next) call :=
  (@not_acc_iff_exists_descending_chain _ (fun next made => Calls bindings made next) call).symm

theorem result_eq_error_of_reached
    (reached : ReflTransGen (Calls bindings) call next)
    (failed : next.result bindings = .error error) :
    call.result bindings = .error error := by
  induction reached using ReflTransGen.head_induction_on with
  | refl => exact failed
  | head calls _ inductionHypothesis => exact calls.result_eq_error inductionHypothesis

/-- Unless a value comes back to its type, calls come to an end: items are smaller values, and a
value itself is passed on to an end. -/
theorem acc_of_not_returns
    (noReturn : ∀ reached, ReflTransGen (Calls bindings) call reached →
      ¬ Returns bindings reached) :
    Acc (fun next made => Calls bindings made next) call := by
  obtain ⟨tag, value⟩ := call
  induction sizeEq : sizeOf value using Nat.strongRecOn generalizing tag value with
  | ind size itemHypothesis =>
      have reachedByPass {other : TypeTag}
          (passed : ReflTransGen (PassesOn bindings value) tag other) :
          ReflTransGen (Calls bindings) ⟨tag, value⟩ ⟨other, value⟩ :=
        passed.lift (fun type => MarshalCall.mk type value) fun _ _ passes => .pass passes
      have noCircle : ¬ Circles bindings value tag := by
        intro circles
        obtain ⟨other, passed, returns⟩ := circles
        exact noReturn ⟨other, value⟩ (reachedByPass passed) returns
      obtain ⟨steps, within⟩ : ∃ steps, EndsWithin bindings value steps tag :=
        ⟨_, (TypeTag.Suffices.of_size tag).endsWithin noCircle⟩
      clear noCircle reachedByPass
      induction within with
      | next _ passHypothesis =>
          apply Acc.intro
          intro next calls
          have noReturnLater (reached : MarshalCall)
              (isReached : ReflTransGen (Calls bindings) next reached) :
              ¬ Returns bindings reached :=
            noReturn reached (.head calls isReached)
          cases calls with
          | pass passes => exact passHypothesis _ passes noReturnLater
          | item listed _ _ =>
              have smaller := Value.sizeOf_lt_of_listed listed
                (List.mem_append_right _ List.mem_cons_self)
              rw [sizeEq] at smaller
              exact itemHypothesis _ smaller _ _ noReturnLater rfl

/-- Where calls come to an end, a failure is what some call refuses. -/
theorem exists_refuses_of_acc
    (ends : Acc (fun next made => Calls bindings made next) call)
    (failed : call.result bindings = .error error) :
    ∃ reached cause, ReflTransGen (Calls bindings) call reached ∧
      Refuses bindings reached cause ∧ cause.stated = error := by
  induction ends with
  | intro call _ inductionHypothesis =>
      obtain ⟨cause, refuses⟩ | ⟨next, calls, nextFailed⟩ := refuses_or_calls failed
      · rw [refuses.result] at failed
        exact ⟨call, cause, .refl, refuses, Except.error.inj failed⟩
      · obtain ⟨reached, cause, isReached, refused⟩ := inductionHypothesis next calls nextFailed
        exact ⟨reached, cause, .head calls isReached, refused⟩

/-- What the value is passed on to in a circle is never encoded. -/
theorem result_of_returns
    (returns : Returns bindings call) :
    call.result bindings = .error .endlessType :=
  Value.marshal_of_circles ⟨call.tag, .refl, returns⟩

theorem result_eq_endlessType_iff :
    call.result bindings = .error .endlessType ↔
      ∃ reached, ReflTransGen (Calls bindings) call reached ∧ Returns bindings reached := by
  constructor
  · intro endless
    by_contra noReturn
    have ends := acc_of_not_returns fun reached isReached returns =>
      noReturn ⟨reached, isReached, returns⟩
    obtain ⟨_, cause, _, refuses, statedEq⟩ := exists_refuses_of_acc ends endless
    exact refuses.stated_ne_endlessType statedEq
  · intro found
    obtain ⟨reached, isReached, returns⟩ := found
    exact result_eq_error_of_reached isReached (result_of_returns returns)

theorem neverEnds_iff :
    NeverEnds bindings call ↔
      ∃ reached, ReflTransGen (Calls bindings) call reached ∧ Returns bindings reached := by
  rw [neverEnds_iff_not_acc]
  constructor
  · intro endless
    by_contra noReturn
    exact endless (acc_of_not_returns fun reached isReached returns =>
      noReturn ⟨reached, isReached, returns⟩)
  · intro found ends
    obtain ⟨_, cause, _, refuses, statedEq⟩ :=
      exists_refuses_of_acc ends (result_eq_endlessType_iff.mpr found)
    exact refuses.stated_ne_endlessType statedEq

/-- Types without parameters lead in no circle. -/
theorem not_neverEnds_of_concrete
    (concrete : TypeTag.HaveNoParameter bindings)
    (call : MarshalCall) :
    ¬ NeverEnds bindings call := by
  rw [neverEnds_iff]
  intro found
  obtain ⟨⟨tag, value⟩, _, returns⟩ := found
  obtain ⟨steps, within⟩ := EndsWithin.exists_of_concrete concrete value tag
  exact within.not_circles ⟨tag, .refl, returns⟩

end MarshalCall

namespace Value

open MarshalCall

/-- How encoding an argument ends.

It comes to no end exactly where its calls go on for ever, and they do exactly where a call comes to
a type from which the value is passed on to that type again. It fails otherwise exactly with what a
call refuses that is come to. So it fails with none of the failures that encoding is known for
exactly where calls go on for ever, or a call is come to that refuses something and is unforeseen
or cannot show what it refuses. -/
theorem marshal_outcome
    (bindings : List TypeTag)
    (tag : TypeTag)
    (value : Value) :
    (marshal tag value bindings = .error .endlessType ↔ NeverEnds bindings ⟨tag, value⟩) ∧
      (NeverEnds bindings ⟨tag, value⟩ ↔
        ∃ reached, ReflTransGen (Calls bindings) ⟨tag, value⟩ reached ∧
          Returns bindings reached) ∧
      (∀ error, marshal tag value bindings = .error error ∧ error ≠ .endlessType ↔
        ∃ reached cause, ReflTransGen (Calls bindings) ⟨tag, value⟩ reached ∧
          Refuses bindings reached cause ∧ cause.stated = error) ∧
      ((∃ error, marshal tag value bindings = .error error ∧ ¬ error.IsArgumentFailure) ↔
        NeverEnds bindings ⟨tag, value⟩ ∨
          ∃ reached cause, ReflTransGen (Calls bindings) ⟨tag, value⟩ reached ∧
            Refuses bindings reached cause ∧
              (IsUnforeseen bindings reached ∨ ¬ cause.isShowable = true)) := by
  have endless : result bindings ⟨tag, value⟩ = .error .endlessType ↔
      NeverEnds bindings ⟨tag, value⟩ :=
    result_eq_endlessType_iff.trans neverEnds_iff.symm
  have refused (error : Error) : result bindings ⟨tag, value⟩ = .error error ∧
      error ≠ .endlessType ↔
        ∃ reached cause, ReflTransGen (Calls bindings) ⟨tag, value⟩ reached ∧
          Refuses bindings reached cause ∧ cause.stated = error := by
    constructor
    · intro failed
      obtain ⟨failed, notEndless⟩ := failed
      have ends : Acc (fun next made => Calls bindings made next) ⟨tag, value⟩ := by
        by_contra goesOn
        have failedToo := endless.mpr (neverEnds_iff_not_acc.mpr goesOn)
        exact notEndless (Except.error.inj (failed.symm.trans failedToo))
      exact exists_refuses_of_acc ends failed
    · intro found
      obtain ⟨reached, cause, isReached, refuses, statedEq⟩ := found
      subst statedEq
      exact ⟨result_eq_error_of_reached isReached refuses.result, refuses.stated_ne_endlessType⟩
  refine ⟨endless, neverEnds_iff, refused, ?_⟩
  constructor
  · intro failed
    obtain ⟨error, failed, unknown⟩ := failed
    by_cases isEndless : error = .endlessType
    · subst isEndless
      exact .inl (endless.mp failed)
    · obtain ⟨reached, cause, isReached, refuses, statedEq⟩ :=
        (refused error).mp ⟨failed, isEndless⟩
      subst statedEq
      exact .inr ⟨reached, cause, isReached, refuses,
        refuses.not_isArgumentFailure_stated_iff.mp unknown⟩
  · intro found
    obtain goesOn | ⟨reached, cause, isReached, refuses, found⟩ := found
    · exact ⟨.endlessType, endless.mpr goesOn, id⟩
    · exact ⟨cause.stated, result_eq_error_of_reached isReached refuses.result,
        refuses.not_isArgumentFailure_stated_iff.mpr found⟩

/-- A parameter that is bound to itself has calls without end; a number that does not fit may be
too long for the failure to be shown; a parameter may count from the end of too few bindings; and a
half of a character has no octets. -/
theorem marshal_undocumented_failures :
    let huge : Nat := 16 ^ (4000 : Nat)
    let half : BrokenText := ⟨[], 0, []⟩
    NeverEnds [.generic 0] ⟨.generic 0, .int 7⟩ ∧
      marshal (.generic 0) (.int 7) [.generic 0] = .error .endlessType ∧
      marshal .u8 (.int huge) [] = .error .numberTooLong ∧
      marshal (.generic (-1)) (.int 7) [] = .error .missingItem ∧
      marshal (.vector .u8) (.brokenText half) [] = .error .halfCharacter := by
  intro huge half
  have outside : ¬ IntegerType.u8.Holds huge := by decide +kernel
  have hidden : ¬ (Error.range (.notEncodable (.int huge) (.fixed .u8))).isShowable = true := by
    decide +kernel
  have refuses : Refuses [] ⟨.u8, .int huge⟩ (.range (.notEncodable (.int huge) (.fixed .u8))) :=
    .outOfRange rfl outside
  refine ⟨⟨fun _ => ⟨.generic 0, .int 7⟩, rfl, fun _ => .pass (.bound rfl)⟩, rfl, ?_, rfl, rfl⟩
  exact refuses.result.trans (congrArg Except.error (Error.stated_of_not_isShowable hidden))

end Value

end MoveClient
