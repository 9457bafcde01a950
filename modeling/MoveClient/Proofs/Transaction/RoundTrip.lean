import MoveClient.Proofs.Transaction.Reading

/-!
What is written is read back.

Owns:
- `decoded`, which gives of everything in a transaction the value that is read back for it;
- that equality of transactions that can be written is equality of what is read back for them;
- the round trip through the wire, from both ends.

Does not own: the signing message; `MoveClient.Proofs.Transaction.SigningMessage` continues with
it.
-/

namespace MoveClient

namespace Value

/-- Integers are equal exactly if they are the same integer. -/
theorem same_iff_of_isIntegerOf
    {left right : Value}
    {type type' : IntegerType}
    (leftInteger : left.IsIntegerOf type)
    (rightInteger : right.IsIntegerOf type') :
    left.same right = true ↔ left = right := by
  cases left <;> try exact leftInteger.elim
  cases right <;> try exact rightInteger.elim
  simp [same]

end Value

/-! ## Scripts -/

namespace ScriptArgument

/-- An argument of the address kind holds an address. -/
def HoldsAddress (argument : ScriptArgument) : Prop :=
  argument.kind = .address → ∃ address, argument.value = .address address

/-- What is read back for the argument: of a buffer, its octets. -/
def decoded (argument : ScriptArgument) : ScriptArgument :=
  match argument.kind.layout, argument.value with
  | .bytes, .buffer octets => { argument with value := .bytes octets }
  | _, _ => argument

@[simp] theorem decoded_kind (argument : ScriptArgument) :
    argument.decoded.kind = argument.kind := by
  unfold decoded
  split <;> rfl

@[simp] theorem write_decoded (argument : ScriptArgument) :
    argument.decoded.write = argument.write := by
  unfold decoded
  split
  case h_1 octets layoutEq valueEq =>
    simp only [write, layoutEq, valueEq]
    rfl
  case h_2 => rfl

@[simp] theorem decoded_decoded (argument : ScriptArgument) :
    argument.decoded.decoded = argument.decoded := by
  obtain ⟨kind, value⟩ := argument
  cases kind <;> cases value <;> rfl

theorem isDecoded_decoded
    {argument : ScriptArgument}
    (form : argument.HasWireForm)
    (holdsAddress : argument.HoldsAddress) :
    argument.decoded.IsDecoded := by
  obtain ⟨kind, value⟩ := argument
  cases kind with
  | u8 | u16 | u32 | u64 | u128 | u256 | bool => trivial
  | address => exact holdsAddress rfl
  | octets | serialized =>
      cases value <;> try exact form.elim
      all_goals exact ⟨_, rfl⟩

/-- Arguments that can be written are equal exactly if the same is read back for them. -/
theorem same_iff
    {left right : ScriptArgument}
    (leftForm : left.HasWireForm)
    (rightForm : right.HasWireForm) :
    left.same right = true ↔ left.decoded = right.decoded := by
  by_cases kindEq : left.kind = right.kind
  · obtain ⟨kind, leftValue⟩ := left
    obtain ⟨_, rightValue⟩ := right
    cases kindEq
    cases kind with
    | u8 | u16 | u32 | u64 | u128 | u256 =>
        have valueEq := Value.same_iff_of_isIntegerOf leftForm rightForm
        simp [same, valueEq, decoded, ScriptArgumentKind.layout]
    | bool | address | octets | serialized =>
        cases leftValue <;> try exact leftForm.elim
        all_goals cases rightValue <;> try exact rightForm.elim
        all_goals simp [same, Value.same, decoded, ScriptArgumentKind.layout]
  · have decodedNe : left.decoded ≠ right.decoded := fun decodedEq =>
      kindEq (by simpa using congrArg kind decodedEq)
    simp [same, kindEq, decodedNe]

end ScriptArgument

namespace Script

def decoded (script : Script) : Script :=
  { script with arguments := script.arguments.map ScriptArgument.decoded }

@[simp] theorem write_decoded (script : Script) : script.decoded.write = script.write := by
  simp [write, decoded, Function.comp_def]

@[simp] theorem decoded_decoded (script : Script) : script.decoded.decoded = script.decoded := by
  simp [decoded, Function.comp_def]

private theorem zip_all_same_iff
    {left right : List ScriptArgument}
    (leftForms : ∀ argument ∈ left, argument.HasWireForm)
    (rightForms : ∀ argument ∈ right, argument.HasWireForm) :
    (left.length = right.length ∧ ((left.zip right).all fun pair => pair.1.same pair.2) = true) ↔
      left.map ScriptArgument.decoded = right.map ScriptArgument.decoded := by
  induction left generalizing right with
  | nil => cases right <;> simp
  | cons first others inductionHypothesis =>
      cases right with
      | nil => simp
      | cons first' others' =>
          obtain ⟨firstForm, otherForms⟩ := List.forall_mem_cons.mp leftForms
          obtain ⟨firstForm', otherForms'⟩ := List.forall_mem_cons.mp rightForms
          have othersSame := inductionHypothesis otherForms otherForms'
          simp only [List.length_cons, Nat.add_right_cancel_iff, List.zip_cons_cons,
            List.all_cons, Bool.and_eq_true, ScriptArgument.same_iff firstForm firstForm',
            List.map_cons, List.cons.injEq, ← othersSame]
          exact and_left_comm

theorem same_iff
    {left right : Script}
    (leftForm : left.HasWireForm)
    (rightForm : right.HasWireForm) :
    left.same right = true ↔ left.decoded = right.decoded := by
  have argumentsSame := zip_all_same_iff leftForm.arguments rightForm.arguments
  simp only [same, Bool.and_eq_true, beq_iff_eq, and_assoc, argumentsSame, decoded, mk.injEq]

end Script

/-! ## Payloads -/

namespace Executable

def decoded : Executable → Executable
  | script code => script code.decoded
  | entryFunction call => entryFunction call
  | empty => empty

@[simp] theorem write_decoded (executable : Executable) :
    executable.decoded.write = executable.write := by
  cases executable <;> simp [decoded, write]

@[simp] theorem decoded_decoded (executable : Executable) :
    executable.decoded.decoded = executable.decoded := by
  cases executable <;> simp [decoded]

theorem isDecoded_decoded
    {executable : Executable}
    (form : executable.HasWireForm)
    (holdAddresses : ∀ argument ∈ executable.scriptArguments, argument.HoldsAddress) :
    executable.decoded.IsDecoded := by
  cases executable with
  | script code =>
      intro argument member
      obtain ⟨original, originalMember, rfl⟩ := List.mem_map.mp member
      exact ScriptArgument.isDecoded_decoded (form.arguments original originalMember)
        (holdAddresses original originalMember)
  | entryFunction | empty => exact isDecoded_of_noScript rfl

theorem same_iff
    {left right : Executable}
    (leftForm : left.HasWireForm)
    (rightForm : right.HasWireForm) :
    left.same right = true ↔ left.decoded = right.decoded := by
  cases left with
  | script code =>
      cases right with
      | script code' => simpa [same, decoded] using Script.same_iff leftForm rightForm
      | entryFunction | empty => simp [same, decoded]
  | entryFunction | empty => cases right <;> simp [same, decoded]

end Executable

theorem ExtraConfig.same_iff
    {left right : ExtraConfig}
    (leftForm : left.HasWireForm)
    (rightForm : right.HasWireForm) :
    left.same right = true ↔ left = right := by
  obtain ⟨address, nonce⟩ := left
  obtain ⟨address', nonce'⟩ := right
  have nonceSame : sameOption nonce nonce' = true ↔ nonce = nonce' := by
    cases nonce with
    | none => cases nonce' <;> simp [sameOption]
    | some value =>
        cases nonce' with
        | none => simp [sameOption]
        | some value' =>
            simpa [sameOption] using
              Value.same_iff_of_isIntegerOf (leftForm value rfl) (rightForm value' rfl)
  simp [same, nonceSame]

namespace Payload

def decoded : Payload → Payload
  | .script code => .script code.decoded
  | .entryFunction call => .entryFunction call
  | .multisig proposal => .multisig proposal
  | .versioned body => .versioned { body with executable := body.executable.decoded }

@[simp] theorem write_decoded (payload : Payload) : payload.decoded.write = payload.write := by
  cases payload <;> simp [decoded, write, variant, VersionedPayload.write]

@[simp] theorem decoded_decoded (payload : Payload) :
    payload.decoded.decoded = payload.decoded := by
  cases payload <;> simp [decoded]

theorem isDecoded_decoded
    {payload : Payload}
    (form : payload.HasWireForm)
    (holdAddresses : ∀ argument ∈ payload.scriptArguments, argument.HoldsAddress) :
    payload.decoded.IsDecoded := by
  cases payload with
  | script code =>
      have scriptForm : (Executable.script code).HasWireForm := form
      exact Executable.isDecoded_decoded scriptForm holdAddresses
  | entryFunction => exact Executable.isDecoded_of_noScript rfl
  | multisig proposal => exact isDecoded_multisig proposal
  | versioned body => exact Executable.isDecoded_decoded form.1 holdAddresses

theorem same_iff
    {left right : Payload}
    (leftForm : left.HasWireForm)
    (rightForm : right.HasWireForm) :
    left.same right = true ↔ left.decoded = right.decoded := by
  cases left with
  | script code =>
      cases right with
      | script code' => simpa [same, decoded] using Script.same_iff leftForm rightForm
      | entryFunction | multisig | versioned => simp [same, decoded]
  | versioned body =>
      cases right with
      | versioned body' =>
          have executableSame := Executable.same_iff leftForm.1 rightForm.1
          have configSame := ExtraConfig.same_iff leftForm.2 rightForm.2
          simp [same, VersionedPayload.same, executableSame, configSame, decoded]
      | script | entryFunction | multisig => simp [same, decoded]
  | entryFunction | multisig => cases right <;> simp [same, decoded]

end Payload

/-! ## Transactions -/

namespace RawTransaction

def decoded (transaction : RawTransaction) : RawTransaction :=
  { transaction with payload := transaction.payload.decoded }

@[simp] theorem write_decoded (transaction : RawTransaction) :
    transaction.decoded.write = transaction.write := by
  simp [decoded, write]

@[simp] theorem decoded_decoded (transaction : RawTransaction) :
    transaction.decoded.decoded = transaction.decoded := by
  simp [decoded]

theorem same_iff
    {left right : RawTransaction}
    (leftForm : left.HasWireForm)
    (rightForm : right.HasWireForm) :
    left.same right = true ↔ left.decoded = right.decoded := by
  have sequenceSame :=
    Value.same_iff_of_isIntegerOf leftForm.sequenceNumber rightForm.sequenceNumber
  have payloadSame := Payload.same_iff leftForm.payload rightForm.payload
  have amountSame := Value.same_iff_of_isIntegerOf leftForm.maxGasAmount rightForm.maxGasAmount
  have priceSame := Value.same_iff_of_isIntegerOf leftForm.gasUnitPrice rightForm.gasUnitPrice
  have expirationSame := Value.same_iff_of_isIntegerOf leftForm.expiration rightForm.expiration
  have chainSame := Value.same_iff_of_isIntegerOf leftForm.chainId rightForm.chainId
  simp only [same, Bool.and_eq_true, beq_iff_eq, sequenceSame, payloadSame, amountSame, priceSame,
    expirationSame, chainSame, decoded, mk.injEq, and_assoc]

end RawTransaction

namespace Signable

/-- Every script argument of the address kind holds an address. -/
def HoldsAddresses (signable : Signable) : Prop :=
  ∀ argument ∈ signable.transaction.payload.scriptArguments, argument.HoldsAddress

/-- What is read back: a fee payer that was not known is read as the zero address. -/
def decoded : Signable → Signable
  | plain raw => plain raw.decoded
  | multiAgent raw others => multiAgent raw.decoded others
  | feePayer raw others payer => feePayer raw.decoded others (some (payerAddress payer))

@[simp] theorem write_decoded (signable : Signable) : signable.decoded.write = signable.write := by
  cases signable <;> simp [decoded, write, payerAddress]

@[simp] theorem decoded_decoded (signable : Signable) :
    signable.decoded.decoded = signable.decoded := by
  cases signable <;> simp [decoded, payerAddress]

@[simp] theorem prehash_decoded (signable : Signable) :
    signable.decoded.prehash = signable.prehash := by
  cases signable <;> rfl

theorem hasWireForm_decoded
    {signable : Signable}
    (form : signable.HasWireForm) :
    signable.decoded.HasWireForm := by
  rw [← isComplete_write_iff, write_decoded]
  exact isComplete_write_iff.mpr form

theorem isDecoded_decoded
    {signable : Signable}
    (form : signable.HasWireForm)
    (holdsAddresses : signable.HoldsAddresses) :
    signable.decoded.IsDecoded := by
  have payloadDecoded := Payload.isDecoded_decoded form.1.payload holdsAddresses
  cases signable with
  | plain | multiAgent => exact payloadDecoded
  | feePayer => exact ⟨payloadDecoded, rfl⟩

theorem same_iff
    {left right : Signable}
    (leftForm : left.HasWireForm)
    (rightForm : right.HasWireForm) :
    left.same right = true ↔ left.decoded = right.decoded := by
  have rawSame := RawTransaction.same_iff leftForm.1 rightForm.1
  cases left <;> cases right <;> simp_all [same, decoded, transaction, and_assoc]

/-- The reader for transactions of one form; those with other accounts share a reader. -/
def reader : Signable → Reader Signable
  | plain _ => plain <$> RawTransaction.read
  | multiAgent _ _ | feePayer _ _ _ => readExtended

/-- From the wire form of a transaction with anything behind it, what is decoded is read and what
is behind is left. -/
theorem reader_decoded
    {signable : Signable}
    {input rest : Bytes}
    (holdsAddresses : signable.HoldsAddresses)
    (spelled : signable.write.Spells input rest) :
    signable.reader input = .ok signable.decoded rest := by
  have decoded := isDecoded_decoded (isComplete_write_iff.mp spelled.isComplete) holdsAddresses
  rw [← write_decoded] at spelled
  cases signable with
  | plain raw =>
      exact Reader.map_eq_ok_iff.mpr
        ⟨raw.decoded, RawTransaction.read_eq_ok_iff.mpr ⟨decoded, spelled⟩, rfl⟩
  | multiAgent | feePayer => exact readExtended_eq_ok_iff.mpr ⟨trivial, decoded, spelled⟩

/-- The wire form is one to one. A transaction can be written exactly if it has a wire form; what
is written is read back as an equal transaction, with anything behind it left, unless a type
stands in place of an address; and whatever is read is written as the octets it was read from. -/
theorem wireForm_one_to_one :
    (∀ signable : Signable,
      (∃ octets, signable.write.result = .ok octets) ↔ signable.HasWireForm) ∧
    (∀ (signable : Signable) (octets rest : Bytes),
      signable.write.result = .ok octets → signable.HoldsAddresses →
        ∃ read, signable.reader (octets ++ rest) = .ok read rest ∧ read.same signable = true) ∧
    (∀ (raw : RawTransaction) (input rest : Bytes),
      RawTransaction.read input = .ok raw rest →
        ∃ octets, raw.write.result = .ok octets ∧ input = octets ++ rest) ∧
    (∀ (signable : Signable) (input rest : Bytes),
      readExtended input = .ok signable rest →
        ∃ octets, signable.write.result = .ok octets ∧ input = octets ++ rest) := by
  simp only [Emission.result_eq_ok_iff]
  refine ⟨fun _ => isComplete_write_iff, ?_, ?_, ?_⟩
  · intro signable octets rest written holdsAddresses
    have form : signable.HasWireForm := isComplete_write_iff.mp ⟨octets, written⟩
    refine ⟨signable.decoded, reader_decoded holdsAddresses ⟨octets, written, rfl⟩, ?_⟩
    rw [same_iff (hasWireForm_decoded form) form, decoded_decoded]
  · intro raw input rest read
    exact (RawTransaction.read_eq_ok_iff.mp read).2
  · intro signable input rest read
    exact (readExtended_eq_ok_iff.mp read).2.2

def scriptCosigner : Address :=
  ⟨[0, 0, 4, 2] ++ List.replicate 28 0, rfl⟩

/-- A script with an argument of the address kind and a buffer, whose fee payer is not known. -/
def scriptCall (argument : Value) : Signable :=
  let script : Script := ⟨[0xa1], [.vector .u8], [⟨.address, argument⟩, ⟨.octets, .buffer [7]⟩]⟩
  feePayer ⟨.one, .int 5, .script script, .int 1000, .int 100, .int 60, .int 4⟩
    [scriptCosigner] none

/-- The transaction of `scriptCall` on the wire, around the argument of the address kind. -/
def scriptCallRaw (argument : Bytes) : Bytes :=
  Address.one.bytes ++ [5, 0, 0, 0, 0, 0, 0, 0, 0, 1, 0xa1, 1, 6, 1, 2, 3] ++ argument ++
    [4, 1, 7, 0xe8, 3, 0, 0, 0, 0, 0, 0, 100, 0, 0, 0, 0, 0, 0, 0, 60, 0, 0, 0, 0, 0, 0, 0, 4]

/-- The wire form of `scriptCall`, around the argument of the address kind. -/
def scriptCallOctets (argument : Bytes) : Bytes :=
  [1] ++ scriptCallRaw argument ++ [1] ++ scriptCosigner.bytes ++ Address.zero.bytes

theorem holdsAddresses_scriptCall (address : Address) :
    (scriptCall (.address address)).HoldsAddresses := by
  intro argument member isAddress
  rcases List.mem_cons.mp member with rfl | member
  · exact ⟨address, rfl⟩
  · cases List.mem_singleton.mp member
    cases isAddress

theorem wireForm_one_to_one_scriptCall :
    (∃ read, (scriptCall (.address .one)).reader (scriptCallOctets Address.one.bytes ++ [9]) =
        .ok read [9] ∧ read.same (scriptCall (.address .one)) = true) ∧
      (∃ octets, (scriptCall (.address .one)).decoded.transaction.write.result = .ok octets ∧
        scriptCallRaw Address.one.bytes ++ [9] = octets ++ [9]) ∧
      ∃ octets, (scriptCall (.address .one)).decoded.write.result = .ok octets ∧
        scriptCallOctets Address.one.bytes ++ [9] = octets ++ [9] := by
  obtain ⟨_, readBack, rawWritten, written⟩ := wireForm_one_to_one
  have holdsAddresses := holdsAddresses_scriptCall .one
  have spelled : (scriptCall (.address .one)).write.Spells
      (scriptCallOctets Address.one.bytes ++ [9]) [9] := ⟨_, rfl, rfl⟩
  have read := reader_decoded holdsAddresses spelled
  exact ⟨readBack (scriptCall (.address .one)) _ [9] rfl holdsAddresses,
    rawWritten (scriptCall (.address .one)).decoded.transaction _ [9] rfl, written _ _ [9] read⟩

/-- What is read back for `scriptCall` when a type stands in place of its address: what follows
the type is taken for the rest of the address. -/
def scriptCallMisread : Signable :=
  let taken : Address := ⟨[1, 4, 1, 7, 0xe8, 3, 0, 0, 0, 0, 0, 0, 100, 0, 0, 0, 0, 0, 0, 0,
    60, 0, 0, 0, 0, 0, 0, 0, 4, 1, 0, 0], rfl⟩
  let script : Script :=
    ⟨[0xa1], [.vector .u8], [⟨.address, .address taken⟩, ⟨.octets, .bytes [0, 0]⟩]⟩
  feePayer ⟨.one, .int 5, .script script, .int 0, .int 0, .int 0, .int 0⟩ [] (some .zero)

theorem isDecoded_scriptCallMisread : scriptCallMisread.IsDecoded := by
  refine ⟨?_, rfl⟩
  intro argument member
  rcases List.mem_cons.mp member with rfl | member
  · exact ⟨_, rfl⟩
  · cases List.mem_singleton.mp member
    exact ⟨_, rfl⟩

/-- A type in place of an address is written, and another transaction is read back. -/
theorem scriptCall_type_misread :
    (scriptCall (.type .u8)).write.result = .ok (scriptCallOctets [1]) ∧
      ¬ (scriptCall (.type .u8)).HoldsAddresses ∧
      (scriptCall (.type .u8)).reader (scriptCallOctets [1]) = .ok scriptCallMisread [] ∧
      scriptCallMisread.same (scriptCall (.type .u8)) = false := by
  refine ⟨rfl, ?_, ?_, by decide⟩
  · intro holdsAddresses
    obtain ⟨address, addressEq⟩ := holdsAddresses _ (List.mem_cons_self ..) rfl
    cases addressEq
  · exact readExtended_eq_ok_iff.mpr
      ⟨trivial, isDecoded_scriptCallMisread, scriptCallOctets [1], rfl, rfl⟩

end Signable

end MoveClient
