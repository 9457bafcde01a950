import MoveClient.Value.Layout

/-!
What a write that fails leaves in the output.

Owns:
- `Emission.IsAtomic`: nothing is put out unless everything is;
- which emissions are atomic;
- `Layout.WritesAhead`, the writes that put something out before the value is known to have a wire
  form, and that no other failed write changes the output.

Does not own: which values have a wire form, see `MoveClient.Proofs.Wire.Domain`.
-/

namespace MoveClient

namespace Emission

variable {first next : Emission}

/-- The output once the emission is added to it, complete or broken off. -/
def addedTo (emission : Emission) (output : Bytes) : Bytes :=
  output ++ emission.octets

/-- Nothing is put out unless everything is. -/
def IsAtomic (emission : Emission) : Prop :=
  ∀ octets error, emission = broken octets error → octets = []

theorem addedTo_eq_self_iff
    {emission : Emission}
    {output : Bytes} :
    emission.addedTo output = output ↔ emission.octets = [] :=
  List.append_right_eq_self

theorem isAtomic_complete (octets : Bytes) : (complete octets).IsAtomic :=
  nofun

theorem isAtomic_fail (error : Error) : (fail error).IsAtomic := by
  intro octets cause brokenEq
  cases brokenEq
  rfl

theorem isAtomic_length (number : Nat) : (length number).IsAtomic := by
  unfold length
  split
  · exact isAtomic_complete _
  · exact isAtomic_fail _

theorem isAtomic_integer
    (type : IntegerType)
    (number : Int) :
    (integer type number).IsAtomic := by
  unfold integer
  split
  · exact isAtomic_complete _
  · exact isAtomic_fail _

/-- What cannot fail may follow. -/
theorem IsAtomic.append_complete
    (atomic : first.IsAtomic)
    (octets : Bytes) :
    (first ++ complete octets).IsAtomic := by
  cases first with
  | complete firstOctets => exact isAtomic_complete _
  | broken firstOctets error => exact atomic

theorem isAtomic_bytes (octets : Bytes) : (bytes octets).IsAtomic :=
  (isAtomic_length octets.length).append_complete octets

theorem isAtomic_option (item : Option Emission) : (option item).IsAtomic := by
  cases item with
  | none => exact isAtomic_length 0
  | some item =>
      cases item with
      | complete octets => exact (isAtomic_length 1).append_complete octets
      | broken octets error => exact isAtomic_fail error

theorem isAtomic_sequence (items : List Emission) : (sequence items).IsAtomic := by
  unfold sequence
  split
  · exact isAtomic_fail _
  · exact (isAtomic_length _).append_complete _

theorem isAtomic_map (entries : List (Emission × Emission)) : (map entries).IsAtomic := by
  unfold map
  split
  · exact isAtomic_fail _
  · exact (isAtomic_length _).append_complete _

theorem octets_append_ne_nil
    (nonempty : first.octets ≠ []) :
    (first ++ next).octets ≠ [] := by
  cases first with
  | complete octets =>
      cases next with
      | complete nextOctets | broken nextOctets error =>
          exact List.append_ne_nil_of_left_ne_nil nonempty nextOctets
  | broken octets error => exact nonempty

theorem octets_length_ne_nil
    {number : Nat}
    (few : number ≤ maxLength) :
    (length number).octets ≠ [] := by
  rw [length, if_pos few]
  show lengthOctets (4 + 1) number ≠ []
  unfold lengthOctets
  split <;> exact List.cons_ne_nil _ _

end Emission

open Emission

namespace Value

theorem isAtomic_writeBool (value : Value) : value.writeBool.IsAtomic := by
  cases value with
  | bool b => exact isAtomic_complete _
  | _ => exact isAtomic_fail _

theorem isAtomic_writeInteger
    (form : IntegerForm)
    (value : Value) :
    (value.writeInteger form).IsAtomic := by
  cases value with
  | int number =>
      cases form with
      | fixed width => exact isAtomic_integer width number
      | uleb128 =>
          rw [writeInteger]
          split
          · exact isAtomic_fail _
          · exact isAtomic_length _
  | _ => exact isAtomic_fail _

theorem isAtomic_writeText (value : Value) : value.writeText.IsAtomic := by
  cases value with
  | text s => exact isAtomic_bytes _
  | _ => exact isAtomic_fail _

theorem isAtomic_writeRaw (value : Value) : value.writeRaw.IsAtomic := by
  cases value with
  | bytes octets | buffer octets => exact isAtomic_complete _
  | _ => exact isAtomic_fail _

end Value

namespace Layout

/-- Something is put out before the value is known to have a wire form in the layout: the length of
what is no byte string, or the variant number of a type with parts. -/
def WritesAhead : Layout → Value → Prop
  | .bytes, .bytes _ | .bytes, .buffer _ => False
  | .bytes, value => ∃ items, value.items? = some items ∧ items.length ≤ maxLength
  | .struct _, .type (.vector _) | .struct _, .type (.struct ..) => True
  | _, _ => False

theorem isAtomic_write
    {layout : Layout}
    {value : Value}
    (notAhead : ¬ layout.WritesAhead value) :
    (layout.write value).IsAtomic := by
  cases layout with
  | bool => exact value.isAtomic_writeBool
  | integer type => exact value.isAtomic_writeInteger _
  | uleb128 => exact value.isAtomic_writeInteger _
  | text => exact value.isAtomic_writeText
  | raw size => exact value.isAtomic_writeRaw
  | bytes =>
      cases value with
      | bytes octets | buffer octets => exact (isAtomic_length _).append_complete _
      | text s | brokenText broken | list items | tuple items | map entries =>
          -- The length itself cannot be put out.
          have many : ¬ _ ≤ maxLength := fun few => notAhead ⟨_, rfl, few⟩
          show (length _ ++ _).IsAtomic
          rw [length, if_neg many]
          exact isAtomic_fail _
      | _ => exact isAtomic_fail _
  | struct kind =>
      cases value with
      | address a => exact isAtomic_complete _
      | type tag =>
          cases tag with
          | primitive type => exact isAtomic_length _
          | vector element => exact absurd trivial notAhead
          | struct address module name arguments => exact absurd trivial notAhead
          | generic index | reference target => exact isAtomic_fail _
      | _ => exact isAtomic_fail _
  | option element =>
      cases value with
      | null => exact isAtomic_option none
      | _ => exact isAtomic_option (some _)
  | sequence element =>
      rw [write]
      cases value.items? with
      | some items => exact isAtomic_sequence _
      | none => exact isAtomic_fail _
  | map key content =>
      cases value with
      | map entries => exact isAtomic_map _
      | _ => exact isAtomic_fail _

theorem octets_write_ne_nil
    {layout : Layout}
    {value : Value}
    (ahead : layout.WritesAhead value) :
    (layout.write value).octets ≠ [] := by
  cases layout with
  | bytes =>
      cases value with
      | bytes octets | buffer octets => exact absurd ahead id
      | _ =>
          obtain ⟨items, itemsEq, few⟩ := ahead
          show (Value.writeBytes _).octets ≠ []
          rw [Value.writeBytes, itemsEq]
          exact octets_append_ne_nil (octets_length_ne_nil few)
  | struct kind =>
      cases value with
      | type tag =>
          cases tag with
          | vector element =>
              exact octets_append_ne_nil (octets_length_ne_nil (by decide))
          | struct address module name arguments =>
              have variantWritten := octets_length_ne_nil (by decide : 7 ≤ maxLength)
              exact octets_append_ne_nil <| octets_append_ne_nil <| octets_append_ne_nil <|
                octets_append_ne_nil variantWritten
          | _ => exact absurd ahead id
      | _ => exact absurd ahead id
  | _ => exact absurd ahead id

/-- A write that fails leaves the output as it was, unless it writes ahead: behind the length of
what is no byte string, and behind the variant number of a type with parts, it fails with something
put out already. -/
theorem failed_write_output
    (layout : Layout)
    (value : Value)
    (error : Error)
    (failed : (layout.write value).result = .error error)
    (output : Bytes) :
    (layout.write value).addedTo output = output ↔ ¬ layout.WritesAhead value := by
  rw [addedTo_eq_self_iff]
  constructor
  · intro nothing ahead
    exact octets_write_ne_nil ahead nothing
  · intro notAhead
    cases written : layout.write value with
    | complete octets =>
        rw [written] at failed
        cases failed
    | broken octets cause => exact isAtomic_write notAhead octets cause written

/-- The count of a sequence is not put out if one of its items is not written. -/
theorem failed_write_output_items :
    let layout : Layout := .sequence (.integer .u8)
    let value : Value := .list [.int 1, .bool true]
    (layout.write value).result = .error (.range (.notEncodable (.bool true) (.fixed .u8))) ∧
      (layout.write value).addedTo [1] = [1] := by
  intro layout value
  have failed :
      (layout.write value).result = .error (.range (.notEncodable (.bool true) (.fixed .u8))) :=
    rfl
  exact ⟨failed, (failed_write_output layout value _ failed [1]).mpr id⟩

/-- A vector of references and a list in place of a byte string each leave an octet behind. -/
theorem failed_write_output_ahead :
    let referring : TypeTag := .vector (.reference .u8)
    let numbers : Value := .list [.int 1, .int 2]
    (struct .typeTag |>.write (.type referring)).result =
        .error (.codec (.noWireForm (.reference .u8))) ∧
      (struct .typeTag |>.write (.type referring)).addedTo [1] = [1, 6] ∧
      (bytes.write numbers).result = .error .wrongKind ∧
      (bytes.write numbers).addedTo [1] = [1, 2] :=
  ⟨rfl, rfl, rfl, rfl⟩

/-! ## Writing one value after the other -/

/-- The output after some writes, where a write that fails is followed by the next. -/
def outputAfter (writes : List (Layout × Value)) (output : Bytes) : Bytes :=
  writes.foldl (fun output write => (write.1.write write.2).addedTo output) output

/-- The octets of a write that succeeds. -/
def succeeded (write : Layout × Value) : Bytes :=
  match (write.1.write write.2).result with
  | .ok octets => octets
  | .error _ => []

theorem octets_eq_succeeded
    {write : Layout × Value}
    (notAhead : ∀ error, (write.1.write write.2).result = .error error →
      ¬ write.1.WritesAhead write.2) :
    (write.1.write write.2).octets = succeeded write := by
  unfold succeeded
  cases emitted : write.1.write write.2 with
  | complete octets => rfl
  | broken octets error =>
      have failed : (write.1.write write.2).result = .error error := by
        rw [emitted]
        rfl
      exact isAtomic_write (notAhead error failed) octets error emitted

/-- If none of the writes that fail writes ahead, going on after a failure is safe. -/
theorem outputAfter_eq
    {writes : List (Layout × Value)}
    (notAhead : ∀ write ∈ writes, ∀ error, (write.1.write write.2).result = .error error →
      ¬ write.1.WritesAhead write.2)
    (output : Bytes) :
    outputAfter writes output = output ++ writes.flatMap succeeded := by
  induction writes generalizing output with
  | nil => exact (List.append_nil output).symm
  | cons write rest inductionHypothesis =>
      have restAfter := inductionHypothesis fun other isOther =>
        notAhead other (List.mem_cons_of_mem _ isOther)
      calc
        outputAfter (write :: rest) output
          = (write.1.write write.2).addedTo output ++ rest.flatMap succeeded := restAfter _
        _ = output ++ succeeded write ++ rest.flatMap succeeded := by
            rw [addedTo, octets_eq_succeeded (notAhead write List.mem_cons_self)]
        _ = output ++ (write :: rest).flatMap succeeded := by
            rw [List.flatMap_cons, List.append_assoc]

end Layout

end MoveClient
