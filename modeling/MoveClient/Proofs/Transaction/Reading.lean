import Mathlib.Tactic.IntervalCases
import MoveClient.Proofs.Transaction.WireForm

/-!
Transactions are read exactly where they are written.

Owns:
- `IsDecoded`, which singles out the values that readers give: byte strings and not buffers,
  addresses and not types in place of addresses, known fee payers;
- for every part of a transaction, that its reader gives a value exactly where the wire form of
  that decoded value stands in front of the input.

Does not own: equality of transactions; `MoveClient.Proofs.Transaction.RoundTrip` compares what is
read with what was written.
-/

namespace MoveClient

open Reader

variable {input rest : Bytes}

theorem TypeTag.readAll_eq_ok_iff {tags : List TypeTag} :
    sequence TypeTag.read input = .ok tags rest ↔
      (Emission.sequence (writeAll tags)).Spells input rest := by
  rw [writeAll_eq_map]
  exact sequence_eq_ok_iff (fun _ _ _ => read_eq_ok_iff)

/-! ## Functions -/

@[simp] theorem ModuleId.read_eq_ok_iff {module : ModuleId} :
    read input = .ok module rest ↔ module.write.Spells input rest := by
  simp only [read, write, bind_eq_ok_iff, Address.read_eq_ok_iff, text_eq_ok_iff, pure_eq_ok_iff,
    Emission.spells_append_iff]
  constructor
  · rintro ⟨address, middle, addressSpelled, name, end_, nameSpelled, rfl, rfl⟩
    exact ⟨middle, addressSpelled, nameSpelled⟩
  · rintro ⟨middle, addressSpelled, nameSpelled⟩
    exact ⟨module.address, middle, addressSpelled, module.name, rest, nameSpelled, rfl, rfl⟩

@[simp] theorem EntryFunction.read_eq_ok_iff {call : EntryFunction} :
    read input = .ok call rest ↔ call.write.Spells input rest := by
  simp only [read, write, bind_eq_ok_iff, ModuleId.read_eq_ok_iff, text_eq_ok_iff,
    TypeTag.readAll_eq_ok_iff, sequence_eq_ok_iff (fun _ _ _ => bytes_eq_ok_iff), pure_eq_ok_iff,
    Emission.spells_append_iff]
  constructor
  · rintro ⟨module, afterModule, moduleSpelled, function, afterFunction, functionSpelled,
      typeArguments, afterTypes, typesSpelled, arguments, end_, argumentsSpelled, rfl, rfl⟩
    exact ⟨afterTypes, ⟨afterFunction, ⟨afterModule, moduleSpelled, functionSpelled⟩,
      typesSpelled⟩, argumentsSpelled⟩
  · rintro ⟨afterTypes, ⟨afterFunction, ⟨afterModule, moduleSpelled, functionSpelled⟩,
      typesSpelled⟩, argumentsSpelled⟩
    exact ⟨call.module, afterModule, moduleSpelled, call.function, afterFunction,
      functionSpelled, call.typeArguments, afterTypes, typesSpelled, call.arguments, rest,
      argumentsSpelled, rfl, rfl⟩

/-! ## Scripts -/

/-- The argument is as a reader gives it: an address where something with a wire form of its own
belongs, and a byte string where octets belong. -/
def ScriptArgument.IsDecoded (argument : ScriptArgument) : Prop :=
  match argument.kind.layout with
  | .struct _ => ∃ address, argument.value = .address address
  | .bytes => ∃ octets, argument.value = .bytes octets
  | _ => True

theorem ScriptArgumentKind.read_layout_eq_ok_iff
    {kind : ScriptArgumentKind}
    {value : Value} :
    kind.layout.read input = .ok value rest ↔
      ScriptArgument.IsDecoded ⟨kind, value⟩ ∧ (kind.layout.write value).Spells input rest := by
  cases kind with
  | u8 | u16 | u32 | u64 | u128 | u256 =>
      simp only [ScriptArgument.IsDecoded, layout, Layout.read_integer_eq_ok_iff, true_and]
  | bool => simp only [ScriptArgument.IsDecoded, layout, Layout.read_bool_eq_ok_iff, true_and]
  | address => exact Layout.read_address_eq_ok_iff
  | octets | serialized => exact Layout.read_bytes_eq_ok_iff

theorem ScriptArgumentKind.ofVariant?_eq_some_iff
    {number : Nat}
    {kind : ScriptArgumentKind} :
    ofVariant? number = some kind ↔ kind.variant = number := by
  constructor
  · intro found
    obtain ⟨inRange, kindEq⟩ := List.getElem?_eq_some_iff.mp found
    subst kindEq
    have bounded : number < 10 := inRange
    interval_cases number <;> rfl
  · rintro rfl
    exact ofVariant?_variant kind

@[simp] theorem ScriptArgument.read_eq_ok_iff {argument : ScriptArgument} :
    read input = .ok argument rest ↔
      argument.IsDecoded ∧ argument.write.Spells input rest := by
  simp only [read, write, bind_eq_ok_iff, octet_eq_ok_iff, Emission.spells_append_iff,
    spells_octet_iff]
  constructor
  · rintro ⟨digit, middle, rfl, valueRead⟩
    cases found : ScriptArgumentKind.ofVariant? digit.toNat with
    | none =>
        rw [found] at valueRead
        exact absurd valueRead throw_ne_ok
    | some kind =>
        simp only [found, bind_eq_ok_iff, pure_eq_ok_iff,
          ScriptArgumentKind.read_layout_eq_ok_iff] at valueRead
        obtain ⟨value, end_, ⟨decoded, spelled⟩, rfl, rfl⟩ := valueRead
        have variantEq := ScriptArgumentKind.ofVariant?_eq_some_iff.mp found
        exact ⟨decoded, middle, ⟨digit, variantEq.symm, rfl⟩, spelled⟩
  · rintro ⟨decoded, middle, ⟨digit, digitEq, rfl⟩, spelled⟩
    refine ⟨digit, middle, rfl, ?_⟩
    simp only [digitEq, ScriptArgumentKind.ofVariant?_variant, bind_eq_ok_iff, pure_eq_ok_iff,
      ScriptArgumentKind.read_layout_eq_ok_iff]
    exact ⟨argument.value, rest, ⟨decoded, spelled⟩, rfl, rfl⟩

@[simp] theorem Script.read_eq_ok_iff {script : Script} :
    read input = .ok script rest ↔
      (∀ argument ∈ script.arguments, argument.IsDecoded) ∧ script.write.Spells input rest := by
  have argumentsRead (middle : Bytes) (arguments : List ScriptArgument) (end_ : Bytes) :
      sequence ScriptArgument.read middle = .ok arguments end_ ↔
        (∀ argument ∈ arguments, argument.IsDecoded) ∧
          (Emission.sequence (arguments.map ScriptArgument.write)).Spells middle end_ :=
    sequence_inverts (fun _ _ _ _ => ScriptArgument.read_eq_ok_iff) (Nat.le_refl _) arguments end_
  simp only [read, write, bind_eq_ok_iff, bytes_eq_ok_iff, TypeTag.readAll_eq_ok_iff,
    argumentsRead, pure_eq_ok_iff, Emission.spells_append_iff]
  constructor
  · rintro ⟨code, afterCode, codeSpelled, typeArguments, afterTypes, typesSpelled, arguments,
      end_, ⟨decoded, argumentsSpelled⟩, rfl, rfl⟩
    exact ⟨decoded, afterTypes, ⟨afterCode, codeSpelled, typesSpelled⟩, argumentsSpelled⟩
  · rintro ⟨decoded, afterTypes, ⟨afterCode, codeSpelled, typesSpelled⟩, argumentsSpelled⟩
    exact ⟨script.code, afterCode, codeSpelled, script.typeArguments, afterTypes, typesSpelled,
      script.arguments, rest, ⟨decoded, argumentsSpelled⟩, rfl, rfl⟩

/-! ## Payloads -/

/-- What has only one version or kind is read behind a zero. -/
theorem Reader.onlyVariant_eq_ok_iff
    {α : Type}
    {reader : Reader α}
    {unknown : Nat → Error}
    {value : α} :
    (do
      let variant ← Reader.length
      if variant = 0 then reader else throw (unknown variant)) input = .ok value rest ↔
      ∃ middle, (Emission.length 0).Spells input middle ∧ reader middle = .ok value rest := by
  simp only [bind_eq_ok_iff, length_eq_ok_iff]
  constructor
  · rintro ⟨variant, middle, counted, valueRead⟩
    by_cases known : variant = 0
    · subst known
      exact ⟨middle, counted, valueRead⟩
    · rw [if_neg known] at valueRead
      exact absurd valueRead throw_ne_ok
  · rintro ⟨middle, counted, valueRead⟩
    exact ⟨0, middle, counted, valueRead⟩

@[simp] theorem MultisigCall.read_eq_ok_iff {call : MultisigCall} :
    read input = .ok call rest ↔ call.write.Spells input rest := by
  rw [read, onlyVariant_eq_ok_iff]
  simp only [write, bind_eq_ok_iff, EntryFunction.read_eq_ok_iff, pure_eq_ok_iff,
    Emission.spells_append_iff]
  constructor
  · rintro ⟨middle, counted, function, end_, spelled, rfl, rfl⟩
    exact ⟨middle, counted, spelled⟩
  · rintro ⟨middle, counted, spelled⟩
    exact ⟨middle, counted, call.function, rest, spelled, rfl, rfl⟩

@[simp] theorem Multisig.read_eq_ok_iff {proposal : Multisig} :
    read input = .ok proposal rest ↔ proposal.write.Spells input rest := by
  simp only [read, write, bind_eq_ok_iff, Address.read_eq_ok_iff, pure_eq_ok_iff,
    option_eq_ok_iff (fun _ _ _ => MultisigCall.read_eq_ok_iff), Emission.spells_append_iff]
  constructor
  · rintro ⟨address, middle, addressSpelled, call, end_, callSpelled, rfl, rfl⟩
    exact ⟨middle, addressSpelled, callSpelled⟩
  · rintro ⟨middle, addressSpelled, callSpelled⟩
    exact ⟨proposal.address, middle, addressSpelled, proposal.call, rest, callSpelled, rfl, rfl⟩

/-- The arguments of the script, if one is run. -/
def Executable.scriptArguments : Executable → List ScriptArgument
  | script code => code.arguments
  | entryFunction _ | empty => []

def Executable.IsDecoded (executable : Executable) : Prop :=
  ∀ argument ∈ executable.scriptArguments, argument.IsDecoded

theorem Executable.isDecoded_of_noScript
    {executable : Executable}
    (noScript : executable.scriptArguments = []) :
    executable.IsDecoded := by
  intro argument member
  rw [noScript] at member
  cases member

@[simp] theorem Executable.read_eq_ok_iff {executable : Executable} :
    read input = .ok executable rest ↔
      executable.IsDecoded ∧ executable.write.Spells input rest := by
  simp only [read, bind_eq_ok_iff, length_eq_ok_iff]
  constructor
  · rintro ⟨variant, middle, counted, bodyRead⟩
    split at bodyRead
    · obtain ⟨code, codeRead, rfl⟩ := map_eq_ok_iff.mp bodyRead
      obtain ⟨decoded, spelled⟩ := Script.read_eq_ok_iff.mp codeRead
      exact ⟨decoded, Emission.spells_append_iff.mpr ⟨middle, counted, spelled⟩⟩
    · obtain ⟨call, callRead, rfl⟩ := map_eq_ok_iff.mp bodyRead
      have spelled := EntryFunction.read_eq_ok_iff.mp callRead
      exact ⟨isDecoded_of_noScript rfl, Emission.spells_append_iff.mpr ⟨middle, counted, spelled⟩⟩
    · obtain ⟨rfl, rfl⟩ := pure_eq_ok_iff.mp bodyRead
      exact ⟨isDecoded_of_noScript rfl, counted⟩
    · exact absurd bodyRead throw_ne_ok
  · rintro ⟨decoded, spelled⟩
    cases executable with
    | script code =>
        obtain ⟨middle, counted, codeSpelled⟩ := Emission.spells_append_iff.mp spelled
        have codeRead := Script.read_eq_ok_iff.mpr ⟨decoded, codeSpelled⟩
        exact ⟨0, middle, counted, map_eq_ok_iff.mpr ⟨code, codeRead, rfl⟩⟩
    | entryFunction call =>
        obtain ⟨middle, counted, callSpelled⟩ := Emission.spells_append_iff.mp spelled
        have callRead := EntryFunction.read_eq_ok_iff.mpr callSpelled
        exact ⟨1, middle, counted, map_eq_ok_iff.mpr ⟨call, callRead, rfl⟩⟩
    | empty => exact ⟨2, rest, spelled, pure_eq_ok_iff.mpr ⟨rfl, rfl⟩⟩

theorem ExtraConfig.spells_nonce_iff {nonce : Option Value} :
    (Emission.option (nonce.map fun value => value.writeInteger (.fixed .u64))).Spells input rest ↔
      ∃ number : Option Int, nonce = number.map Value.int ∧
        (Emission.option (number.map (Emission.integer .u64))).Spells input rest := by
  constructor
  · intro spelled
    cases nonce with
    | none => exact ⟨none, rfl, spelled⟩
    | some value =>
        obtain ⟨middle, counted, valueSpelled⟩ := Emission.spells_option_some_iff.mp spelled
        obtain ⟨number, rfl, numberSpelled⟩ := Value.spells_writeInteger_iff.mp valueSpelled
        exact ⟨some number, rfl,
          Emission.spells_option_some_iff.mpr ⟨middle, counted, numberSpelled⟩⟩
  · rintro ⟨number, rfl, spelled⟩
    cases number <;> exact spelled

@[simp] theorem ExtraConfig.read_eq_ok_iff {config : ExtraConfig} :
    read input = .ok config rest ↔ config.write.Spells input rest := by
  rw [read, onlyVariant_eq_ok_iff]
  simp only [write, bind_eq_ok_iff, option_eq_ok_iff (fun _ _ _ => Address.read_eq_ok_iff),
    option_eq_ok_iff (fun _ _ _ => integer_eq_ok_iff), pure_eq_ok_iff,
    Emission.spells_append_iff, spells_nonce_iff]
  constructor
  · rintro ⟨afterVersion, counted, address, afterAddress, addressSpelled, number, end_,
      numberSpelled, rfl, rfl⟩
    exact ⟨afterAddress, ⟨afterVersion, counted, addressSpelled⟩, number, rfl, numberSpelled⟩
  · rintro ⟨afterAddress, ⟨afterVersion, counted, addressSpelled⟩, number, nonceEq,
      numberSpelled⟩
    refine ⟨afterVersion, counted, config.multisigAddress, afterAddress, addressSpelled, number,
      rest, numberSpelled, ?_, rfl⟩
    rw [← nonceEq]

@[simp] theorem VersionedPayload.read_eq_ok_iff {payload : VersionedPayload} :
    read input = .ok payload rest ↔
      payload.executable.IsDecoded ∧ payload.write.Spells input rest := by
  rw [read, onlyVariant_eq_ok_iff]
  simp only [write, bind_eq_ok_iff, Executable.read_eq_ok_iff, ExtraConfig.read_eq_ok_iff,
    pure_eq_ok_iff, Emission.spells_append_iff]
  constructor
  · rintro ⟨afterVersion, counted, executable, afterExecutable, ⟨decoded, executableSpelled⟩,
      config, end_, configSpelled, rfl, rfl⟩
    exact ⟨decoded, afterExecutable, ⟨afterVersion, counted, executableSpelled⟩, configSpelled⟩
  · rintro ⟨decoded, afterExecutable, ⟨afterVersion, counted, executableSpelled⟩, configSpelled⟩
    exact ⟨afterVersion, counted, payload.executable, afterExecutable,
      ⟨decoded, executableSpelled⟩, payload.config, rest, configSpelled, rfl, rfl⟩

/-- The arguments of the script that the payload runs, if it runs one. -/
def Payload.scriptArguments (payload : Payload) : List ScriptArgument :=
  payload.executable.scriptArguments

def Payload.IsDecoded (payload : Payload) : Prop :=
  payload.executable.IsDecoded

/-- The arguments of a proposal are octets, so no proposal runs a script. -/
theorem Payload.isDecoded_multisig (proposal : Multisig) :
    (Payload.multisig proposal).IsDecoded := by
  obtain ⟨address, _ | call⟩ := proposal <;> exact Executable.isDecoded_of_noScript rfl

@[simp] theorem Payload.read_eq_ok_iff {payload : Payload} :
    read input = .ok payload rest ↔ payload.IsDecoded ∧ payload.write.Spells input rest := by
  simp only [read, write, bind_eq_ok_iff, length_eq_ok_iff, Emission.spells_append_iff]
  constructor
  · rintro ⟨variant, middle, counted, bodyRead⟩
    split at bodyRead
    · obtain ⟨code, codeRead, rfl⟩ := map_eq_ok_iff.mp bodyRead
      obtain ⟨decoded, spelled⟩ := Script.read_eq_ok_iff.mp codeRead
      exact ⟨decoded, middle, counted, spelled⟩
    · exact absurd bodyRead throw_ne_ok
    · obtain ⟨call, callRead, rfl⟩ := map_eq_ok_iff.mp bodyRead
      exact ⟨Executable.isDecoded_of_noScript rfl, middle, counted,
        EntryFunction.read_eq_ok_iff.mp callRead⟩
    · obtain ⟨proposal, proposalRead, rfl⟩ := map_eq_ok_iff.mp bodyRead
      exact ⟨isDecoded_multisig proposal, middle, counted,
        Multisig.read_eq_ok_iff.mp proposalRead⟩
    · obtain ⟨body, versionedRead, rfl⟩ := map_eq_ok_iff.mp bodyRead
      obtain ⟨decoded, spelled⟩ := VersionedPayload.read_eq_ok_iff.mp versionedRead
      exact ⟨decoded, middle, counted, spelled⟩
    · exact absurd bodyRead throw_ne_ok
  · rintro ⟨decoded, middle, counted, spelled⟩
    refine ⟨payload.variant, middle, counted, ?_⟩
    cases payload with
    | script code =>
        exact map_eq_ok_iff.mpr ⟨code, Script.read_eq_ok_iff.mpr ⟨decoded, spelled⟩, rfl⟩
    | entryFunction call =>
        exact map_eq_ok_iff.mpr ⟨call, EntryFunction.read_eq_ok_iff.mpr spelled, rfl⟩
    | multisig proposal =>
        exact map_eq_ok_iff.mpr ⟨proposal, Multisig.read_eq_ok_iff.mpr spelled, rfl⟩
    | versioned body =>
        have bodyRead := VersionedPayload.read_eq_ok_iff.mpr ⟨decoded, spelled⟩
        exact map_eq_ok_iff.mpr ⟨body, bodyRead, rfl⟩

/-! ## Transactions -/

@[simp] theorem RawTransaction.read_eq_ok_iff {transaction : RawTransaction} :
    read input = .ok transaction rest ↔
      transaction.payload.IsDecoded ∧ transaction.write.Spells input rest := by
  simp only [read, write, bind_eq_ok_iff, Address.read_eq_ok_iff, integer_eq_ok_iff,
    Payload.read_eq_ok_iff, pure_eq_ok_iff, Emission.spells_append_iff,
    Value.spells_writeInteger_iff]
  constructor
  · rintro ⟨sender, afterSender, senderSpelled, sequenceNumber, afterSequence, sequenceSpelled,
      payload, afterPayload, ⟨decoded, payloadSpelled⟩, maxGasAmount, afterAmount, amountSpelled,
      gasUnitPrice, afterPrice, priceSpelled, expiration, afterExpiration, expirationSpelled,
      chainId, end_, chainSpelled, rfl, rfl⟩
    exact ⟨decoded, afterExpiration, ⟨afterPrice, ⟨afterAmount, ⟨afterPayload, ⟨afterSequence,
      ⟨afterSender, senderSpelled, sequenceNumber, rfl, sequenceSpelled⟩, payloadSpelled⟩,
      maxGasAmount, rfl, amountSpelled⟩, gasUnitPrice, rfl, priceSpelled⟩, expiration, rfl,
      expirationSpelled⟩, chainId, rfl, chainSpelled⟩
  · obtain ⟨sender, sequenceValue, payload, amountValue, priceValue, expirationValue,
      chainValue⟩ := transaction
    rintro ⟨decoded, afterExpiration, ⟨afterPrice, ⟨afterAmount, ⟨afterPayload, ⟨afterSequence,
      ⟨afterSender, senderSpelled, sequenceNumber, rfl, sequenceSpelled⟩, payloadSpelled⟩,
      maxGasAmount, rfl, amountSpelled⟩, gasUnitPrice, rfl, priceSpelled⟩, expiration, rfl,
      expirationSpelled⟩, chainId, rfl, chainSpelled⟩
    exact ⟨sender, afterSender, senderSpelled, sequenceNumber, afterSequence, sequenceSpelled,
      payload, afterPayload, ⟨decoded, payloadSpelled⟩, maxGasAmount, afterAmount, amountSpelled,
      gasUnitPrice, afterPrice, priceSpelled, expiration, afterExpiration, expirationSpelled,
      chainId, rest, chainSpelled, rfl, rfl⟩

namespace Signable

/-- The transaction stands with the other accounts that take part. -/
def IsExtended : Signable → Prop
  | plain _ => False
  | multiAgent _ _ | feePayer _ _ _ => True

/-- The payload is as its reader gives it, and a fee payer is known. -/
def IsDecoded : Signable → Prop
  | plain raw | multiAgent raw _ => raw.payload.IsDecoded
  | feePayer raw _ payer => raw.payload.IsDecoded ∧ payer.isSome

/-- Of both forms the number is read first, then the transaction and the other addresses. -/
theorem transactionAndOthers_eq_ok_iff
    {α : Type}
    {next : RawTransaction → List Address → Reader α}
    {value : α} :
    (do
      let raw ← RawTransaction.read
      let others ← sequence Address.read
      next raw others) input = .ok value rest ↔
      ∃ raw others middle, raw.payload.IsDecoded ∧
        (raw.write ++ .sequence (others.map Address.write)).Spells input middle ∧
        next raw others middle = .ok value rest := by
  have othersRead (middle : Bytes) (others : List Address) (end_ : Bytes) :
      sequence Address.read middle = .ok others end_ ↔
        (Emission.sequence (others.map Address.write)).Spells middle end_ :=
    sequence_eq_ok_iff (fun _ _ _ => Address.read_eq_ok_iff)
  simp only [bind_eq_ok_iff, RawTransaction.read_eq_ok_iff, othersRead, Emission.spells_append_iff]
  constructor
  · rintro ⟨raw, afterRaw, ⟨decoded, rawSpelled⟩, others, middle, othersSpelled, valueRead⟩
    exact ⟨raw, others, middle, decoded, ⟨afterRaw, rawSpelled, othersSpelled⟩, valueRead⟩
  · rintro ⟨raw, others, middle, decoded, ⟨afterRaw, rawSpelled, othersSpelled⟩, valueRead⟩
    exact ⟨raw, afterRaw, ⟨decoded, rawSpelled⟩, others, middle, othersSpelled, valueRead⟩

theorem spells_multiAgent_iff
    {raw : RawTransaction}
    {others : List Address} :
    (multiAgent raw others).write.Spells input rest ↔
      ∃ middle, (Emission.integer .u8 0).Spells input middle ∧
        (raw.write ++ .sequence (others.map Address.write)).Spells middle rest := by
  simp only [write, Emission.spells_append_iff]
  constructor
  · rintro ⟨afterRaw, ⟨middle, formSpelled, rawSpelled⟩, othersSpelled⟩
    exact ⟨middle, formSpelled, afterRaw, rawSpelled, othersSpelled⟩
  · rintro ⟨middle, formSpelled, afterRaw, rawSpelled, othersSpelled⟩
    exact ⟨afterRaw, ⟨middle, formSpelled, rawSpelled⟩, othersSpelled⟩

theorem spells_feePayer_iff
    {raw : RawTransaction}
    {others : List Address}
    {payer : Option Address} :
    (feePayer raw others payer).write.Spells input rest ↔
      ∃ middle afterOthers, (Emission.integer .u8 1).Spells input middle ∧
        (raw.write ++ .sequence (others.map Address.write)).Spells middle afterOthers ∧
        (payerAddress payer).write.Spells afterOthers rest := by
  simp only [write, Emission.spells_append_iff]
  constructor
  · rintro ⟨afterOthers, ⟨afterRaw, ⟨middle, formSpelled, rawSpelled⟩, othersSpelled⟩,
      payerSpelled⟩
    exact ⟨middle, afterOthers, formSpelled, ⟨afterRaw, rawSpelled, othersSpelled⟩, payerSpelled⟩
  · rintro ⟨middle, afterOthers, formSpelled, ⟨afterRaw, rawSpelled, othersSpelled⟩,
      payerSpelled⟩
    exact ⟨afterOthers, ⟨afterRaw, ⟨middle, formSpelled, rawSpelled⟩, othersSpelled⟩,
      payerSpelled⟩

/-- Transactions with other accounts are read exactly where they are written. -/
theorem readExtended_eq_ok_iff {signable : Signable} :
    readExtended input = .ok signable rest ↔
      signable.IsExtended ∧ signable.IsDecoded ∧ signable.write.Spells input rest := by
  rw [readExtended, bind_eq_ok_iff]
  simp only [octet_eq_ok_iff]
  constructor
  · rintro ⟨form, afterForm, rfl, bodyRead⟩
    split at bodyRead
    case isTrue isMultiAgent =>
      subst isMultiAgent
      obtain ⟨raw, others, middle, decoded, spelled, signableEq⟩ :=
        transactionAndOthers_eq_ok_iff.mp bodyRead
      obtain ⟨rfl, rfl⟩ := pure_eq_ok_iff.mp signableEq
      exact ⟨trivial, decoded, spells_multiAgent_iff.mpr
        ⟨afterForm, spells_octet_iff.mpr ⟨0, rfl, rfl⟩, spelled⟩⟩
    case isFalse =>
      split at bodyRead
      case isTrue isFeePayer =>
        subst isFeePayer
        obtain ⟨raw, others, middle, decoded, spelled, restRead⟩ :=
          transactionAndOthers_eq_ok_iff.mp bodyRead
        obtain ⟨payer, end_, payerRead, signableEq⟩ := bind_eq_ok_iff.mp restRead
        obtain ⟨rfl, rfl⟩ := pure_eq_ok_iff.mp signableEq
        exact ⟨trivial, ⟨decoded, rfl⟩, spells_feePayer_iff.mpr ⟨afterForm, middle,
          spells_octet_iff.mpr ⟨1, rfl, rfl⟩, spelled, Address.read_eq_ok_iff.mp payerRead⟩⟩
      case isFalse => exact absurd bodyRead throw_ne_ok
  · rintro ⟨extended, decoded, spelled⟩
    cases signable with
    | plain => exact extended.elim
    | multiAgent raw others =>
        obtain ⟨afterForm, formSpelled, partsSpelled⟩ := spells_multiAgent_iff.mp spelled
        obtain ⟨form, formEq, rfl⟩ := spells_octet_iff.mp formSpelled
        refine ⟨form, afterForm, rfl, ?_⟩
        rw [if_pos (UInt8.toNat_inj.mp formEq)]
        exact transactionAndOthers_eq_ok_iff.mpr
          ⟨raw, others, rest, decoded, partsSpelled, pure_eq_ok_iff.mpr ⟨rfl, rfl⟩⟩
    | feePayer raw others payer =>
        obtain ⟨afterForm, afterOthers, formSpelled, partsSpelled, payerSpelled⟩ :=
          spells_feePayer_iff.mp spelled
        obtain ⟨form, formEq, rfl⟩ := spells_octet_iff.mp formSpelled
        obtain ⟨decoded, payerKnown⟩ := decoded
        obtain ⟨address, rfl⟩ := Option.isSome_iff_exists.mp payerKnown
        have isFeePayer : form = 1 := UInt8.toNat_inj.mp formEq
        refine ⟨form, afterForm, rfl, ?_⟩
        rw [isFeePayer, if_neg (by decide), if_pos rfl]
        have payerRead := Address.read_eq_ok_iff.mpr payerSpelled
        exact transactionAndOthers_eq_ok_iff.mpr ⟨raw, others, afterOthers, decoded, partsSpelled,
          bind_eq_ok_iff.mpr ⟨address, rest, payerRead, pure_eq_ok_iff.mpr ⟨rfl, rfl⟩⟩⟩

end Signable

end MoveClient
