import MoveClient.Proofs.Key.Signers
import MoveClient.Proofs.Transaction.Reading
import MoveClient.Proofs.Transaction.WireForm
import MoveClient.Proofs.TypeTag.References
import MoveClient.Transaction.Interface

/-!
Calls made from plain values, on the wire.

Owns:
- what a call holds that is made by the interface of its function;
- which of these calls can be written, in terms of the type arguments that they are made with.

Does not own: how an argument is encoded by the type of its parameter.
-/

namespace MoveClient

/-! ## Type arguments -/

namespace TypeArgument

/-- What a type argument stands for: itself, or the type that its text is read as, if no type
parameter occurs in it. -/
def StandsFor : TypeArgument → TypeTag → Prop
  | .tag given, type => given = type
  | .text spelled, type => TypeTag.parse spelled true = .ok type ∧ type.HasNoParameter

theorem resolve_eq_ok_iff
    {argument : TypeArgument}
    {type : TypeTag} :
    argument.resolve = .ok type ↔ argument.StandsFor type := by
  cases argument with
  | tag given => exact Except.ok.injEq given type ▸ Iff.rfl
  | text spelled => exact TypeTag.parse_false_eq_ok_iff

/-- A call on the wire can have the type argument: as text it holds no ampersand, as a type neither
type parameters nor references. -/
def IsSendable : TypeArgument → Prop
  | .tag given => given.HasNoParameter ∧ given.HasNoReference
  | .text spelled => '&' ∉ spelled.toList

theorem StandsFor.isSendable_iff
    {argument : TypeArgument}
    {type : TypeTag}
    (stands : argument.StandsFor type) :
    argument.IsSendable ↔ type.HasNoParameter ∧ type.HasNoReference := by
  cases argument with
  | tag given =>
      cases stands
      exact Iff.rfl
  | text spelled =>
      obtain ⟨read, free⟩ := stands
      rw [IsSendable, ← TypeTag.hasNoReference_iff_of_parse read]
      exact (and_iff_right free).symm

theorem forall_isSendable_iff
    {arguments : List TypeArgument}
    {types : List TypeTag}
    (stand : List.Forall₂ StandsFor arguments types) :
    (∀ argument ∈ arguments, argument.IsSendable) ↔
      ∀ type ∈ types, type.HasNoParameter ∧ type.HasNoReference := by
  induction stand with
  | nil => simp
  | cons stands _ inductionHypothesis =>
      rw [List.forall_mem_cons, List.forall_mem_cons, inductionHypothesis, stands.isSendable_iff]

end TypeArgument

/-! ## Calls -/

namespace EntryFunction

variable {module function : String} {typeArguments : List TypeArgument} {arguments : List Value}
  {description : Value} {call : EntryFunction}

/-- A call is made if the counts are those of the interface, every type argument is a type, and
every argument can be encoded by the type of its parameter. -/
theorem ofInterface_eq_ok_iff :
    ofInterface module function typeArguments arguments description = .ok call ↔
      ∃ described interface types,
        FunctionInterface.describe function description = .ok described ∧
        FunctionInterface.ofDescription described = .ok interface ∧
        interface.typeParameters = typeArguments.length ∧
        List.Forall₂ TypeArgument.StandsFor typeArguments call.typeArguments ∧
        interface.argumentTypes = .ok types ∧
        types.length = arguments.length ∧
        List.Forall₂ (fun parameter octets =>
          parameter.2.marshal parameter.1 call.typeArguments = .ok octets)
          (types.zip arguments) call.arguments ∧
        ModuleId.parse module = .ok call.module ∧ call.function = function := by
  have stand_iff (types : List TypeTag) :
      typeArguments.mapM TypeArgument.resolve = .ok types ↔
        List.Forall₂ TypeArgument.StandsFor typeArguments types := by
    simp only [Error.mapM_eq_ok_iff, TypeArgument.resolve_eq_ok_iff]
  unfold ofInterface
  simp only [Error.bind_eq_ok_iff]
  constructor
  · rintro ⟨described, isDescribed, interface, isInterface, made⟩
    split at made
    · cases made
    · rename_i typeCount
      simp only [Error.bind_eq_ok_iff] at made
      obtain ⟨bindings, resolved, types, typesRead, made⟩ := made
      split at made
      · cases made
      · rename_i count
        simp only [Error.bind_eq_ok_iff] at made
        obtain ⟨encoded, marshalled, target, parsed, ⟨⟩⟩ := made
        exact ⟨described, interface, types, isDescribed, isInterface, not_not.mp typeCount,
          (stand_iff _).mp resolved, typesRead, not_not.mp count,
          Error.mapM_eq_ok_iff.mp marshalled, parsed, rfl⟩
  · rintro ⟨described, interface, types, isDescribed, isInterface, typeCount, resolved, typesRead,
      count, marshalled, parsed, rfl⟩
    refine ⟨described, isDescribed, interface, isInterface, ?_⟩
    rw [if_neg (not_not.mpr typeCount), Error.bind_eq_ok_iff]
    refine ⟨_, (stand_iff _).mpr resolved, ?_⟩
    rw [Error.bind_eq_ok_iff]
    refine ⟨types, typesRead, ?_⟩
    rw [if_neg (not_not.mpr count), Error.bind_eq_ok_iff]
    refine ⟨_, Error.mapM_eq_ok_iff.mpr marshalled, ?_⟩
    rw [Error.bind_eq_ok_iff]
    exact ⟨_, parsed, rfl⟩

/-- Nothing in the call is too long for its length on the wire. -/
structure HasShortParts (call : EntryFunction) : Prop where
  module : call.module.HasWireForm
  function : (Emission.textOctets call.function).length ≤ maxLength
  typeArgumentCount : call.typeArguments.length ≤ maxLength
  names : ∀ tag ∈ call.typeArguments, tag.HasShortNames
  argumentCount : call.arguments.length ≤ maxLength
  arguments : ∀ octets ∈ call.arguments, octets.length ≤ maxLength

/-- A call can be written exactly if its type arguments hold neither type parameters nor
references, and nothing in it is too long. -/
theorem hasWireForm_iff :
    call.HasWireForm ↔
      call.HasShortParts ∧
        ∀ tag ∈ call.typeArguments, tag.HasNoParameter ∧ tag.HasNoReference := by
  constructor
  · rintro ⟨module, function, ⟨count, typeArguments⟩, argumentCount, arguments⟩
    have split (tag : TypeTag) (member : tag ∈ call.typeArguments) :=
      tag.hasWireForm_iff.mp (typeArguments tag member)
    exact ⟨⟨module, function, count, fun tag member => (split tag member).2, argumentCount,
      arguments⟩, fun tag member => (split tag member).1⟩
  · rintro ⟨⟨module, function, count, names, argumentCount, arguments⟩, free⟩
    exact ⟨module, function, ⟨count, fun tag member =>
      tag.hasWireForm_iff.mpr ⟨free tag member, names tag member⟩⟩, argumentCount, arguments⟩

/-- A call that is made by the interface of its function can be sent exactly if its type arguments
hold no references, those given as types no type parameters either, and nothing in it is too long.
Making it looks for type parameters in texts, and for nothing else. -/
theorem ofInterface_sendable_iff
    (made : ofInterface module function typeArguments arguments description = .ok call) :
    List.Forall₂ TypeArgument.StandsFor typeArguments call.typeArguments ∧
    ((∃ octets, call.write.result = .ok octets ∧
        ∀ rest, read (octets ++ rest) = .ok call rest) ↔
      call.HasShortParts ∧ ∀ argument ∈ typeArguments, argument.IsSendable) := by
  obtain ⟨_, _, _, _, _, _, stand, _⟩ := ofInterface_eq_ok_iff.mp made
  refine ⟨stand, ?_⟩
  rw [TypeArgument.forall_isSendable_iff stand, ← hasWireForm_iff, ← isComplete_write_iff]
  constructor
  · rintro ⟨octets, written, _⟩
    exact ⟨octets, Emission.result_eq_ok_iff.mp written⟩
  · rintro ⟨octets, emitted⟩
    refine ⟨octets, Emission.result_eq_ok_iff.mpr emitted, ?_⟩
    intro rest
    exact read_eq_ok_iff.mpr ⟨octets, emitted, rfl⟩

/-- A call with the type argument `vector<u8>` and no arguments. -/
theorem ofInterface_sendable_octets :
    let call : EntryFunction := ⟨⟨⟨List.replicate 31 0 ++ [1], rfl⟩, "m"⟩, "f", [.vector .u8], []⟩
    ofInterface "0x1::m" "f" [.text "vector<u8>"] []
        (.map [(.text "generic_type_params", .list [.map []]), (.text "params", .list [])]) =
      .ok call ∧
    ∃ octets, call.write.result = .ok octets ∧
      ∀ rest, read (octets ++ rest) = .ok call rest := by
  intro call
  have made : ofInterface "0x1::m" "f" [.text "vector<u8>"] []
      (.map [(.text "generic_type_params", .list [.map []]), (.text "params", .list [])]) =
        .ok call := rfl
  have shortName : (Emission.textOctets "m").length ≤ maxLength := by decide
  have short : call.HasShortParts :=
    ⟨shortName, by decide, by decide, List.forall_mem_singleton.mpr trivial, by decide,
      List.forall_mem_nil _⟩
  have noAmpersand : '&' ∉ "vector<u8>".toList := by decide
  have sendable : ∀ argument ∈ [TypeArgument.text "vector<u8>"], argument.IsSendable :=
    List.forall_mem_singleton.mpr noAmpersand
  exact ⟨made, (ofInterface_sendable_iff made).2.mpr ⟨short, sendable⟩⟩

/-- A reference that is given as text and a type parameter that is given as a type are accepted,
and cannot be written. -/
theorem ofInterface_accepts_unsendable :
    (∃ call, ofInterface "0x1::m" "f" [.text "&u8"] []
        (.map [(.text "generic_type_params", .list [.map []]), (.text "params", .list [])]) =
          .ok call ∧
      call.write.result = .error (.codec (.noWireForm (.reference .u8)))) ∧
    (∃ call, ofInterface "0x1::m" "f" [.tag (.generic 0)] []
        (.map [(.text "generic_type_params", .list [.map []]), (.text "params", .list [])]) =
          .ok call ∧
      call.write.result = .error (.codec (.noWireForm (.generic 0)))) := by
  have shown : TypeTag.isShowable (.generic 0) = true := by decide +kernel
  exact ⟨⟨_, rfl, rfl⟩, _, rfl, congrArg Except.error (Error.stated_of_isShowable shown)⟩

end EntryFunction

end MoveClient
