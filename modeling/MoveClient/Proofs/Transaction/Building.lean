import MoveClient.Pipeline.Builder

/-!
Building transactions from options that leave nothing to ask.

Owns:
- that options which pass their own check have an expiration that can be added to the time;
- that building succeeds with such options, signers that can be listed and a clock that gives a
  number, which sequence number the transaction carries, and that it fails if the signers cannot be
  listed;
- what a kind of transaction keeps of the options.

Does not own: how sequence numbers are counted; `MoveClient.Proofs.Pipeline.Numbering` does.
-/

namespace MoveClient

/-- What is comparable with zero can be added to an integer. -/
theorem Value.exists_addTo
    {value : Value}
    {negative : Bool}
    (compared : value.isNegative = .ok negative)
    (whole : Int) :
    ∃ sum, value.addTo whole = .ok sum := by
  cases value with
  | bool | int | float => exact ⟨_, rfl⟩
  | _ => cases compared

theorem TransactionOptions.checked_eq_ok_iff {options result : TransactionOptions} :
    options.checked = .ok result ↔
      options.expirationSeconds.isNegative = .ok false ∧ result = options := by
  unfold checked
  cases compared : options.expirationSeconds.isNegative with
  | error error => simp [bind, Except.bind]
  | ok negative => cases negative <;> simp [bind, Except.bind, eq_comm]

/-- The options that a kind of transaction wants have the nonce of those given, and an expiration
that was checked. -/
theorem TransactionKind.of_restrict_eq_ok
    {kind : TransactionKind}
    {options restricted : TransactionOptions}
    (wanted : kind.restrict options = .ok restricted) :
    restricted.nonce = options.nonce ∧
      restricted.expirationSeconds.isNegative = .ok false := by
  cases kind with
  | single | multiAgent | feePayer =>
      obtain ⟨compared, rfl⟩ := TransactionOptions.checked_eq_ok_iff.mp wanted
      exact ⟨rfl, compared⟩
  | other name => cases wanted

theorem TransactionOptions.nonce_applyNonce
    (options : TransactionOptions)
    (payload : Payload) :
    (options.applyNonce payload).nonce.isSome = BuilderDesk.isOrderless options payload := by
  unfold applyNonce BuilderDesk.isOrderless
  cases found : options.nonce with
  | none => rfl
  | some nonce => rfl

/-- Building with everything given asks for nothing. -/
theorem TransactionOptions.build_eq_assemble
    {options : TransactionOptions}
    {ask : ChainAnswers (Except Error)}
    {sender : Address}
    {payload : Payload}
    {sequenceNumber chainId now : Value}
    (chosen : options.chooseSequenceNumber ask sender (options.applyNonce payload) =
      .ok sequenceNumber)
    (chain : options.chainId = some chainId) :
    options.build ask sender payload (.ok now) =
      Signable.assemble sender sequenceNumber chainId (options.applyNonce payload) options now := by
  simp only [build, chosen, chooseChainId, chain, bind, Except.bind, pure, Except.pure]
  cases Signable.assemble sender sequenceNumber chainId (options.applyNonce payload) options now <;>
    rfl

/-- Putting a transaction together fails neither for its sequence number nor for its payload, and
keeps both, if the signers that it lists can be listed. -/
theorem Signable.exists_assemble
    {options : TransactionOptions}
    {now : Value}
    {seconds : Int}
    (compared : options.expirationSeconds.isNegative = .ok false)
    (clock : now.toWhole = .ok seconds)
    {others : List Address}
    (listed : options.signers = .ok others)
    (sender : Address)
    (sequenceNumber chainId : Value)
    (payload : Payload) :
    ∃ signable, Signable.assemble sender sequenceNumber chainId payload options now = .ok signable ∧
      signable.transaction.sequenceNumber = sequenceNumber ∧
      signable.transaction.payload = payload := by
  obtain ⟨expiration, added⟩ := Value.exists_addTo compared seconds
  simp only [Signable.assemble, clock, added, listed, bind, Except.bind]
  cases options.feePayer with
  | some payer => exact ⟨_, rfl, rfl, rfl⟩
  | none =>
      cases options.additionalSigners.areGiven with
      | true => exact ⟨_, rfl, rfl, rfl⟩
      | false => exact ⟨_, rfl, rfl, rfl⟩

/-- Signers that cannot be listed are noticed when all else of the transaction is at hand. -/
theorem Signable.assemble_of_unlisted
    {options : TransactionOptions}
    {now : Value}
    {seconds : Int}
    {error : Error}
    (compared : options.expirationSeconds.isNegative = .ok false)
    (clock : now.toWhole = .ok seconds)
    (unlisted : options.signers = .error error)
    (sender : Address)
    (sequenceNumber chainId : Value)
    (payload : Payload) :
    Signable.assemble sender sequenceNumber chainId payload options now = .error error := by
  obtain ⟨expiration, added⟩ := Value.exists_addTo compared seconds
  simp only [Signable.assemble, clock, added, unlisted, bind, Except.bind]

namespace BuilderDesk

variable {source : PipelineSource} {options : TransactionOptions} {payload : Payload}
  {seconds : Int} {number : Value}

/-- With a checked expiration, building is putting the transaction together: with the fixed sequence
number if there is a nonce, and else with the one of the options. -/
theorem assemble_eq
    (compared : options.expirationSeconds.isNegative = .ok false)
    (numbered : isOrderless options payload = false → options.sequenceNumber = some number)
    (chainId : Int) :
    assemble source chainId options payload =
      Signable.assemble source.sender
        (if isOrderless options payload then .int RawTransaction.orderlessSequenceNumber
          else number)
        (.int chainId) (options.applyNonce payload)
        { options with chainId := some (.int chainId) } source.now := by
  let filled : TransactionOptions := { options with chainId := some (.int chainId) }
  have given : filled.checked = .ok filled :=
    TransactionOptions.checked_eq_ok_iff.mpr ⟨compared, rfl⟩
  have chosen : filled.chooseSequenceNumber (m := Except Error) (fun _ => .error .emptyAnswer)
      source.sender (filled.applyNonce payload) =
        .ok (if isOrderless options payload then .int RawTransaction.orderlessSequenceNumber
          else number) := by
    have orderless : (filled.applyNonce payload).nonce.isSome = isOrderless options payload :=
      filled.nonce_applyNonce payload
    unfold TransactionOptions.chooseSequenceNumber
    rw [orderless]
    cases isNonce : isOrderless options payload with
    | true => rfl
    | false =>
        have found : filled.sequenceNumber = some number := numbered isNonce
        simp [found, pure, Except.pure]
  show filled.checked.bind
    (fun options => options.build _ source.sender payload (.ok source.now)) = _
  rw [given]
  exact TransactionOptions.build_eq_assemble chosen rfl

/-- With a checked expiration, signers that can be listed and a clock that gives a number, a
transaction is built. A nonce makes it orderless, and else it carries the sequence number of the
options. -/
theorem exists_assemble
    {others : List Address}
    (compared : options.expirationSeconds.isNegative = .ok false)
    (listed : options.signers = .ok others)
    (clock : source.now.toWhole = .ok seconds)
    (numbered : isOrderless options payload = false → options.sequenceNumber = some number)
    (chainId : Int) :
    ∃ signable, assemble source chainId options payload = .ok signable ∧
      signable.transaction.isOrderless = isOrderless options payload ∧
      signable.transaction.sequenceNumber =
        if isOrderless options payload then .int RawTransaction.orderlessSequenceNumber
        else number := by
  let filled : TransactionOptions := { options with chainId := some (.int chainId) }
  have stillCompared : filled.expirationSeconds.isNegative = .ok false := compared
  have stillListed : filled.signers = .ok others := listed
  obtain ⟨signable, assembled, numberEq, payloadEq⟩ :=
    Signable.exists_assemble stillCompared clock stillListed source.sender _ (.int chainId)
      (options.applyNonce payload)
  refine ⟨signable, (assemble_eq compared numbered chainId).trans assembled, ?_, numberEq⟩
  unfold RawTransaction.isOrderless RawTransaction.nonce
  rw [payloadEq]
  exact options.nonce_applyNonce payload

/-- Signers that cannot be listed keep a transaction from being built. -/
theorem assemble_of_unlisted
    {error : Error}
    (compared : options.expirationSeconds.isNegative = .ok false)
    (unlisted : options.signers = .error error)
    (clock : source.now.toWhole = .ok seconds)
    (numbered : isOrderless options payload = false → options.sequenceNumber = some number)
    (chainId : Int) :
    assemble source chainId options payload = .error error := by
  let filled : TransactionOptions := { options with chainId := some (.int chainId) }
  have stillCompared : filled.expirationSeconds.isNegative = .ok false := compared
  have stillUnlisted : filled.signers = .error error := unlisted
  rw [assemble_eq compared numbered chainId]
  exact Signable.assemble_of_unlisted stillCompared clock stillUnlisted source.sender _
    (.int chainId) (options.applyNonce payload)

end BuilderDesk

end MoveClient
