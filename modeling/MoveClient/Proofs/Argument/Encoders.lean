import MoveClient.Proofs.Argument.Resolution
import MoveClient.Proofs.Wire.Canonical

/-!
Encoding arguments by the layouts of their types.

Owns:
- `TypeTag.HasLayout`, the layout that is put together for a type from those of its parts, and
  `Layout.IsNative`, the values that need no conversion for it;
- that such a value is encoded as an argument exactly where its layout writes it, as the same octets;
- that the layout reads the value back from them.

Does not own: arguments in other spellings, see `MoveClient.Proofs.Argument.Spelling`.
-/

namespace MoveClient

variable {bindings : List TypeTag} {octets : Bytes}

/-! ## Sequences of what is written by itself -/

namespace Emission

theorem collect_eq_mapM (emissions : List Emission) :
    collect emissions = emissions.mapM result := by
  induction emissions with
  | nil => rfl
  | cons first rest inductionHypothesis =>
      rw [collect, List.mapM_cons, inductionHypothesis]
      cases first with
      | broken written error => rfl
      | complete written =>
          cases rest.mapM result with
          | error error => rfl
          | ok others => rfl

/-- Counted values are written where each value is, by itself. -/
theorem result_sequence_eq_ok_iff {emissions : List Emission} :
    (sequence emissions).result = .ok octets ↔
      ∃ count, (length emissions.length).result = .ok count ∧
        ∃ written, emissions.mapM result = .ok written ∧ count ++ written.flatten = octets := by
  rw [sequence, collect_eq_mapM]
  cases collected : emissions.mapM result with
  | error error =>
      constructor
      · intro failed
        cases failed
      · intro found
        obtain ⟨_, _, written, isWritten, _⟩ := found
        cases isWritten
  | ok parts =>
      have lengthEq := (Error.mapM_eq_ok_iff.mp collected).length_eq
      simp only [result_eq_ok_iff, append_eq_complete_iff, lengthEq]
      constructor
      · intro found
        obtain ⟨count, others, counted, isWritten, octetsEq⟩ := found
        cases isWritten
        exact ⟨count, counted, parts, rfl, octetsEq.symm⟩
      · intro found
        obtain ⟨count, counted, written, isWritten, octetsEq⟩ := found
        cases isWritten
        exact ⟨count, parts.flatten, counted, rfl, octetsEq.symm⟩

/-- A value that is there is written where it is by itself. -/
theorem result_option_some_eq_ok_iff {emission : Emission} :
    (option (some emission)).result = .ok octets ↔
      ∃ content, emission.result = .ok content ∧ 1 :: content = octets := by
  have oneTag : length 1 = .complete [1] := rfl
  simp only [result_eq_ok_iff, option_some_eq_complete_iff, append_eq_complete_iff, oneTag]
  constructor
  · intro written
    obtain ⟨tag, content, tagEq, contentEq, octetsEq⟩ := written
    cases tagEq
    exact ⟨content, contentEq, octetsEq.symm⟩
  · intro written
    obtain ⟨content, contentEq, octetsEq⟩ := written
    exact ⟨[1], content, rfl, contentEq, octetsEq.symm⟩

end Emission

/-! ## Layouts of types -/

namespace TypeTag

/-- The layout that is put together for the type from the layouts of its parts. -/
inductive HasLayout : TypeTag → Layout → Prop where
  | integer (type : IntegerType) : HasLayout (.integer type) (.integer type)
  | bool : HasLayout .bool .bool
  | address : HasLayout .address (.struct .address)
  | string {owner : Address} {module name : String} {arguments : List TypeTag}
      (isString : StructTag.isString ⟨owner, module, name, arguments⟩ = true) :
      HasLayout (.struct owner module name arguments) .text
  | object {owner : Address} {module name : String} {arguments : List TypeTag}
      (isObject : StructTag.isObject ⟨owner, module, name, arguments⟩ = true) :
      HasLayout (.struct owner module name arguments) (.struct .address)
  | vector {element : TypeTag} {layout : Layout}
      (elementLayout : HasLayout element layout) :
      HasLayout (.vector element) (.sequence layout)
  | option {owner : Address} {module name : String} {element : TypeTag} {layout : Layout}
      (isOption : StructTag.isOption ⟨owner, module, name, [element]⟩ = true)
      (elementLayout : HasLayout element layout) :
      HasLayout (.struct owner module name [element]) (.option layout)

/-- Layouts of types are read as they are written. -/
theorem HasLayout.isPaired
    {tag : TypeTag}
    {layout : Layout}
    (hasLayout : tag.HasLayout layout) :
    layout.IsPaired := by
  induction hasLayout with
  | vector _ inductionHypothesis | option _ _ inductionHypothesis => exact inductionHypothesis
  | _ => trivial

end TypeTag

namespace Layout

/-- The value is of the kind that the layout gives back, and so are its parts; whether it is in
range or short enough is left open. -/
def IsNative : Layout → Value → Prop
  | .bool, value => ∃ b, value = .bool b
  | .integer _, value => ∃ number, value = .int number
  | .text, value => ∃ s, value = .text s
  | .struct .address, value => ∃ named, value = .address named
  | .sequence element, value => ∃ items, value = .list items ∧ ∀ item ∈ items, element.IsNative item
  | .option element, value => value = .null ∨ element.IsNative value
  | _, _ => False

variable {layout element : Layout} {value : Value}

theorem result_write_list_eq_ok_iff {items : List Value} :
    ((Layout.sequence element).write (.list items)).result = .ok octets ↔
      ∃ count, (Emission.length items.length).result = .ok count ∧
        ∃ written, items.mapM (fun item => (element.write item).result) = .ok written ∧
          count ++ written.flatten = octets := by
  show (Emission.sequence (items.map fun item => element.write item)).result = _ ↔ _
  rw [Emission.result_sequence_eq_ok_iff, List.length_map, List.mapM_map]
  rfl

/-- A value without parts that is written belongs to the layout. -/
theorem holds_of_isNative
    (plain : layout.IsPlain)
    (native : layout.IsNative value)
    (complete : (layout.write value).IsComplete) :
    layout.Holds value ∧ value.frozen = value := by
  cases layout with
  | option element | sequence element | map keyLayout valueLayout => cases plain
  | uleb128 | bytes | raw size => cases native
  | bool =>
      obtain ⟨b, valueEq⟩ := native
      subst valueEq
      exact ⟨⟨b, rfl⟩, rfl⟩
  | integer type =>
      obtain ⟨number, valueEq⟩ := native
      subst valueEq
      exact ⟨⟨number, rfl, Emission.isComplete_integer_iff.mp complete⟩, rfl⟩
  | text =>
      obtain ⟨s, valueEq⟩ := native
      subst valueEq
      exact ⟨⟨s, rfl, Emission.isComplete_text_iff.mp complete⟩, rfl⟩
  | struct kind =>
      cases kind with
      | address =>
          obtain ⟨named, valueEq⟩ := native
          subst valueEq
          exact ⟨⟨named, rfl⟩, rfl⟩
      | typeTag | structTag => cases native

/-- Items beside what is written for them. -/
theorem exists_pairs
    {Written : Value → Bytes → Prop}
    {items : List Value}
    {parts : List Bytes}
    (written : List.Forall₂ Written items parts) :
    ∃ pairs : List (Bytes × Value), pairs.map Prod.snd = items ∧ pairs.map Prod.fst = parts ∧
      ∀ pair ∈ pairs, Written pair.2 pair.1 := by
  induction written with
  | nil => exact ⟨[], rfl, rfl, List.forall_mem_nil _⟩
  | @cons item part _ _ first _ inductionHypothesis =>
      obtain ⟨pairs, itemsEq, partsEq, others⟩ := inductionHypothesis
      refine ⟨(part, item) :: pairs, congrArg (item :: ·) itemsEq, congrArg (part :: ·) partsEq, ?_⟩
      exact List.forall_mem_cons.mpr ⟨first, others⟩

/-- What is written for a value that needs no conversion is its canonical wire form. -/
theorem spells_of_isNative
    (native : layout.IsNative value)
    (written : (layout.write value).result = .ok octets) :
    layout.Spells True octets value := by
  induction layout using partsInduction generalizing value octets with
  | plain layout plain =>
      have complete := Emission.result_eq_ok_iff.mp written
      exact (spells_iff_of_isPlain plain).mpr
        ⟨holds_of_isNative plain native ⟨octets, complete⟩, complete⟩
  | option element inductionHypothesis =>
      by_cases absent : value = .null
      · subst absent
        cases written
        exact .inl ⟨rfl, rfl⟩
      · rw [write_option_of_ne_null absent, Emission.result_option_some_eq_ok_iff] at written
        obtain ⟨content, contentWritten, octetsEq⟩ := written
        have contentSpelled := inductionHypothesis (native.resolve_left absent) contentWritten
        exact .inr ⟨content, octetsEq.symm, contentSpelled, fun _ => absent⟩
  | sequence element inductionHypothesis =>
      obtain ⟨items, valueEq, itemsNative⟩ := native
      subst valueEq
      obtain ⟨count, counted, parts, partsWritten, octetsEq⟩ :=
        result_write_list_eq_ok_iff.mp written
      obtain ⟨pairs, valuesEq, partsEq, pairsWritten⟩ :=
        exists_pairs (Error.mapM_eq_ok_iff.mp partsWritten)
      subst valuesEq partsEq
      rw [List.length_map] at counted
      refine ⟨pairs, count, Emission.result_eq_ok_iff.mp counted, ?_, octetsEq.symm, rfl⟩
      intro pair member
      exact inductionHypothesis (itemsNative pair.2 (List.mem_map_of_mem member))
        (pairsWritten pair member)
  | map keyLayout valueLayout => cases native

end Layout

namespace Value

/-- A value that needs no conversion is encoded exactly where its layout writes it, as the same
octets. -/
theorem marshal_eq_ok_iff_write
    {tag : TypeTag}
    {layout : Layout}
    {value : Value}
    (hasLayout : tag.HasLayout layout)
    (native : layout.IsNative value) :
    marshal tag value bindings = .ok octets ↔ (layout.write value).result = .ok octets := by
  induction hasLayout generalizing value octets with
  | integer type =>
      obtain ⟨number, valueEq⟩ := native
      subst valueEq
      rw [marshal_integer]
      rfl
  | bool =>
      obtain ⟨b, valueEq⟩ := native
      subst valueEq
      rw [marshal_bool]
      rfl
  | address =>
      obtain ⟨named, valueEq⟩ := native
      subst valueEq
      rw [marshal_address]
      rfl
  | string isString =>
      obtain ⟨s, valueEq⟩ := native
      subst valueEq
      rw [marshal_struct, marshalStruct_string isString]
      rfl
  | object isObject =>
      obtain ⟨named, valueEq⟩ := native
      subst valueEq
      rw [marshal_struct, marshalStruct_object isObject]
      rfl
  | @vector element layout _ inductionHypothesis =>
      obtain ⟨items, valueEq, itemsNative⟩ := native
      subst valueEq
      have alike : ∀ item ∈ items, ∀ part, marshal element item bindings = .ok part ↔
          (layout.write item).result = .ok part ∧ ¬ False := by
        intro item member part
        rw [inductionHypothesis (itemsNative item member), not_false_iff, and_true]
      have itemsAgree (parts : List Bytes) :
          items.mapM (marshal element · bindings) = .ok parts ↔
            items.mapM (fun item => (layout.write item).result) = .ok parts := by
        rw [mapM_eq_ok_iff_of_forall alike]
        simp
      rw [marshal_vector, marshalVector_listed rfl, marshalItems_map_eq_ok_iff,
        Layout.result_write_list_eq_ok_iff]
      simp only [itemsAgree]
  | option isOption _ inductionHypothesis =>
      rw [marshal_struct]
      by_cases absent : value = .null
      · subst absent
        rw [marshalStruct_absent isOption]
        rfl
      · rw [marshalStruct_present isOption absent, Layout.write_option_of_ne_null absent,
          Emission.result_option_some_eq_ok_iff]
        simp only [← inductionHypothesis (native.resolve_left absent)]
        exact Error.map_eq_ok_iff

/-- A value that needs no conversion is encoded as an argument exactly where the layout of the type
writes it, as the same octets, and from these the layout reads the value back, whatever follows. -/
theorem marshal_by_layout
    (bindings : List TypeTag)
    (tag : TypeTag)
    (layout : Layout)
    (value : Value)
    (hasLayout : tag.HasLayout layout)
    (native : layout.IsNative value) :
    (∀ octets, marshal tag value bindings = .ok octets ↔
      (layout.write value).result = .ok octets) ∧
      ∀ octets rest, marshal tag value bindings = .ok octets →
        layout.read (octets ++ rest) = .ok value rest := by
  constructor
  · intro octets
    exact marshal_eq_ok_iff_write hasLayout native
  · intro octets rest encoded
    have written := (marshal_eq_ok_iff_write hasLayout native).mp encoded
    have spelled := Layout.spells_of_isNative native written
    exact (Layout.takes_spells hasLayout.isPaired _ _ _).mpr ⟨octets, spelled.lenient, rfl⟩

/-- A list of an absent and a present list of addresses. -/
theorem marshal_by_layout_options :
    let object : TypeTag := .struct .one "object" "Object" [.generic 0]
    let tag : TypeTag := .vector (.struct .one "option" "Option" [.vector object])
    let layout : Layout := .sequence (.option (.sequence (.struct .address)))
    let value : Value := .list [.null, .list [.address .one]]
    tag.HasLayout layout ∧ layout.IsNative value ∧
      marshal tag value [] = .ok ([2, 0, 1, 1] ++ Address.one.bytes) ∧
      (layout.write value).result = .ok ([2, 0, 1, 1] ++ Address.one.bytes) ∧
      layout.read ([2, 0, 1, 1] ++ Address.one.bytes) = .ok value [] := by
  intro object tag layout value
  have hasLayout : tag.HasLayout layout := .vector (.option rfl (.vector (.object rfl)))
  have native : layout.IsNative value := by
    refine ⟨_, rfl, List.forall_mem_cons.mpr ⟨.inl rfl, List.forall_mem_singleton.mpr (.inr ?_)⟩⟩
    exact ⟨_, rfl, List.forall_mem_singleton.mpr ⟨.one, rfl⟩⟩
  have encoded : marshal tag value [] = .ok ([2, 0, 1, 1] ++ Address.one.bytes) := rfl
  obtain ⟨agrees, readsBack⟩ := marshal_by_layout [] tag layout value hasLayout native
  exact ⟨hasLayout, native, encoded, (agrees _).mp encoded, readsBack _ [] encoded⟩

end Value

end MoveClient
