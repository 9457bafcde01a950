import MoveClient.Account.Cosigning
import MoveClient.Http.Script
import MoveClient.Node.Transactions
import MoveClient.Proofs.Node.Programs
import MoveClient.Proofs.Transaction.Verification

/-!
What accounts sign together is valid.

Owns:
- that signing alone, with secondary signers and with a fee payer gives a signed transaction if the
  keys' schemes sign transactions;
- that what is signed is valid, also after it went through the wire, however a client of a node
  came by the transaction.

Does not own: the schemes; that public keys accept the signatures of their private keys is assumed.
-/

namespace MoveClient

variable {suite : Suite}

/-! ## Signing for a message -/

namespace Signable

theorem sign_eq_ok_iff
    {signable : Signable}
    {key : PrivateKey}
    {proof : AccountAuthenticator} :
    signable.sign suite key = .ok proof ↔
      ∃ message, signable.signingMessage = .ok message ∧ key.prove suite message = .ok proof :=
  Error.bind_eq_ok_iff

theorem exists_signingMessage
    {signable : Signable}
    (form : signable.HasWireForm) :
    ∃ message, signable.signingMessage = .ok message := by
  obtain ⟨octets, written⟩ := isComplete_write_iff.mpr form
  exact ⟨_, signingMessage_eq_ok_iff.mpr ⟨octets, written, rfl⟩⟩

/-- Keys of schemes that sign transactions sign whatever has a wire form. -/
theorem exists_sign
    (acceptsOwn : suite.AcceptsOwn)
    {signable : Signable}
    {key : PrivateKey}
    (form : signable.HasWireForm)
    (signs : key.SignsTransactions) :
    ∃ proof, signable.sign suite key = .ok proof := by
  obtain ⟨message, messageEq⟩ := exists_signingMessage form
  obtain ⟨proof, proved, _⟩ := PrivateKey.exists_prove signs (acceptsOwn key message signs)
  exact ⟨proof, sign_eq_ok_iff.mpr ⟨message, messageEq, proved⟩⟩

/-- A proof is valid for the message that it was signed for. -/
theorem verify_of_sign
    (acceptsOwn : suite.AcceptsOwn)
    {signable : Signable}
    {key : PrivateKey}
    {proof : AccountAuthenticator}
    {message : Bytes}
    (messageEq : signable.signingMessage = .ok message)
    (signed : signable.sign suite key = .ok proof) :
    proof.verify suite message = .ok true := by
  obtain ⟨other, otherEq, proved⟩ := sign_eq_ok_iff.mp signed
  rw [messageEq] at otherEq
  cases otherEq
  exact PrivateKey.verify_of_prove acceptsOwn proved

end Signable

/-! ## Secondary signers -/

namespace Account

theorem cosign_eq_ok_iff
    {signable : Signable}
    {accounts : List Account}
    {secondary : List (Address × AccountAuthenticator)} :
    cosign suite signable accounts = .ok secondary ↔
      List.Forall₂ (fun account signer =>
        account.sign suite signable = .ok signer.2 ∧ account.address = signer.1)
        accounts secondary := by
  unfold cosign
  rw [Error.mapM_eq_ok_iff]
  constructor
  · intro computed
    apply computed.imp
    intro account signer signerEq
    obtain ⟨_, signedEq, ⟨⟩⟩ := Error.bind_eq_ok_iff.mp signerEq
    exact ⟨signedEq, rfl⟩
  · intro stepwise
    apply stepwise.imp
    rintro account ⟨address, proof⟩ ⟨signedEq, rfl⟩
    exact Error.bind_eq_ok_iff.mpr ⟨proof, signedEq, rfl⟩

theorem map_fst_of_cosign
    {signable : Signable}
    {accounts : List Account}
    {secondary : List (Address × AccountAuthenticator)}
    (signed : cosign suite signable accounts = .ok secondary) :
    secondary.map Prod.fst = accounts.map Account.address := by
  have stepwise := cosign_eq_ok_iff.mp signed
  clear signed
  induction stepwise with
  | nil => rfl
  | cons both _ inductionHypothesis =>
      rw [List.map_cons, List.map_cons, inductionHypothesis, both.2]

theorem exists_cosign
    (acceptsOwn : suite.AcceptsOwn)
    {signable : Signable}
    {accounts : List Account}
    (form : signable.HasWireForm)
    (sign : ∀ account ∈ accounts, account.key.SignsTransactions) :
    ∃ secondary, cosign suite signable accounts = .ok secondary := by
  apply Error.exists_mapM
  intro account member
  obtain ⟨proof, signed⟩ := Signable.exists_sign acceptsOwn form (sign account member)
  exact ⟨(account.address, proof), Error.bind_eq_ok_iff.mpr ⟨proof, signed, rfl⟩⟩

theorem verify_of_cosign
    (acceptsOwn : suite.AcceptsOwn)
    {signable : Signable}
    {accounts : List Account}
    {secondary : List (Address × AccountAuthenticator)}
    {message : Bytes}
    (messageEq : signable.signingMessage = .ok message)
    (signed : cosign suite signable accounts = .ok secondary) :
    ∀ proof ∈ secondary.map Prod.snd, proof.verify suite message = .ok true := by
  have stepwise := cosign_eq_ok_iff.mp signed
  clear signed
  induction stepwise with
  | nil => simp
  | cons both _ inductionHypothesis =>
      rw [List.map_cons, List.forall_mem_cons]
      exact ⟨Signable.verify_of_sign acceptsOwn messageEq both.1, inductionHypothesis⟩

end Account

/-! ## Signed transactions -/

namespace SignedTransaction

/-- The signed transaction is valid, also after it went through the wire. A transaction with a type
in place of an address does not go through the wire. -/
def StaysValid (suite : Suite) (signed : SignedTransaction) : Prop :=
  signed.verify suite = .ok true ∧ (signed.HoldsAddresses → signed.SurvivesWire suite)

theorem staysValid_of_verify
    {signed : SignedTransaction}
    (valid : signed.verify suite = .ok true) :
    signed.StaysValid suite :=
  ⟨valid, survivesWire valid⟩

theorem signable_ofAccount
    (transaction : RawTransaction)
    (proof : AccountAuthenticator) :
    signable ⟨transaction, .ofAccount proof⟩ = .plain transaction := by
  cases proof <;> rfl

theorem proofs_ofAccount (proof : AccountAuthenticator) :
    (Authenticator.ofAccount proof).proofs = [proof] := by
  cases proof <;> rfl

theorem verify_of_signedBy
    (acceptsOwn : suite.AcceptsOwn)
    {transaction : RawTransaction}
    {sender : Account}
    {signed : SignedTransaction}
    (made : signedBy suite transaction sender = .ok signed) :
    signed.verify suite = .ok true := by
  obtain ⟨proof, proofSigned, ⟨⟩⟩ := Error.bind_eq_ok_iff.mp made
  obtain ⟨message, messageEq, _⟩ := Signable.sign_eq_ok_iff.mp proofSigned
  apply verify_eq_ok_true_iff.mpr
  rw [signable_ofAccount, proofs_ofAccount]
  refine ⟨message, messageEq, ?_⟩
  rw [List.forall_mem_singleton]
  exact Signable.verify_of_sign acceptsOwn messageEq proofSigned

theorem verify_of_cosigned
    (acceptsOwn : suite.AcceptsOwn)
    {transaction : RawTransaction}
    {sender : Account}
    {others : List Account}
    {signed : SignedTransaction}
    (made : cosigned suite transaction sender others = .ok signed) :
    signed.verify suite = .ok true := by
  obtain ⟨proof, proofSigned, rest⟩ := Error.bind_eq_ok_iff.mp made
  obtain ⟨secondary, secondarySigned, ⟨⟩⟩ := Error.bind_eq_ok_iff.mp rest
  obtain ⟨message, messageEq, _⟩ := Signable.sign_eq_ok_iff.mp proofSigned
  apply verify_eq_ok_true_iff.mpr
  refine ⟨message, ?_, ?_⟩
  · show (Signable.multiAgent transaction (secondary.map Prod.fst)).signingMessage = .ok message
    rw [Account.map_fst_of_cosign secondarySigned]
    exact messageEq
  · show ∀ other ∈ proof :: secondary.map Prod.snd, other.verify suite message = .ok true
    rw [List.forall_mem_cons]
    exact ⟨Signable.verify_of_sign acceptsOwn messageEq proofSigned,
      Account.verify_of_cosign acceptsOwn messageEq secondarySigned⟩

theorem verify_of_sponsored
    (acceptsOwn : suite.AcceptsOwn)
    {transaction : RawTransaction}
    {sender payer : Account}
    {others : List Account}
    {signed : SignedTransaction}
    (made : sponsored suite transaction sender payer others = .ok signed) :
    signed.verify suite = .ok true := by
  obtain ⟨proof, proofSigned, rest⟩ := Error.bind_eq_ok_iff.mp made
  obtain ⟨secondary, secondarySigned, rest⟩ := Error.bind_eq_ok_iff.mp rest
  obtain ⟨payment, paymentSigned, ⟨⟩⟩ := Error.bind_eq_ok_iff.mp rest
  obtain ⟨message, messageEq, _⟩ := Signable.sign_eq_ok_iff.mp proofSigned
  apply verify_eq_ok_true_iff.mpr
  refine ⟨message, ?_, ?_⟩
  · show (Signable.feePayer transaction (secondary.map Prod.fst)
      (some payer.address)).signingMessage = .ok message
    rw [Account.map_fst_of_cosign secondarySigned]
    exact messageEq
  · show ∀ other ∈ proof :: payment :: secondary.map Prod.snd,
      other.verify suite message = .ok true
    rw [List.forall_mem_cons, List.forall_mem_cons]
    exact ⟨Signable.verify_of_sign acceptsOwn messageEq proofSigned,
      Signable.verify_of_sign acceptsOwn messageEq paymentSigned,
      Account.verify_of_cosign acceptsOwn messageEq secondarySigned⟩

theorem exists_signedBy
    (acceptsOwn : suite.AcceptsOwn)
    {transaction : RawTransaction}
    {sender : Account}
    (form : transaction.HasWireForm)
    (signs : sender.key.SignsTransactions) :
    ∃ signed, signedBy suite transaction sender = .ok signed ∧
      signed.transaction = transaction := by
  have signableForm : (Signable.plain transaction).HasWireForm := ⟨form, Nat.zero_le maxLength⟩
  obtain ⟨proof, proofSigned⟩ := Signable.exists_sign acceptsOwn signableForm signs
  exact ⟨_, Error.bind_eq_ok_iff.mpr ⟨proof, proofSigned, rfl⟩, rfl⟩

theorem exists_cosigned
    (acceptsOwn : suite.AcceptsOwn)
    {transaction : RawTransaction}
    {sender : Account}
    {others : List Account}
    (form : transaction.HasWireForm)
    (few : others.length ≤ maxLength)
    (sign : ∀ account ∈ sender :: others, account.key.SignsTransactions) :
    ∃ signed, cosigned suite transaction sender others = .ok signed ∧
      signed.transaction = transaction := by
  have signableForm :
      (Signable.multiAgent transaction (others.map Account.address)).HasWireForm :=
    ⟨form, by rwa [Signable.secondary, List.length_map]⟩
  obtain ⟨senderSigns, othersSign⟩ := List.forall_mem_cons.mp sign
  obtain ⟨proof, proofSigned⟩ := Signable.exists_sign acceptsOwn signableForm senderSigns
  obtain ⟨secondary, secondarySigned⟩ := Account.exists_cosign acceptsOwn signableForm othersSign
  exact ⟨_, Error.bind_eq_ok_iff.mpr ⟨proof, proofSigned,
    Error.bind_eq_ok_iff.mpr ⟨secondary, secondarySigned, rfl⟩⟩, rfl⟩

/-- Secondary signers that cannot be counted do not sign. -/
theorem length_le_of_cosigned
    {transaction : RawTransaction}
    {sender : Account}
    {others : List Account}
    {signed : SignedTransaction}
    (made : cosigned suite transaction sender others = .ok signed) :
    others.length ≤ maxLength := by
  obtain ⟨proof, proofSigned, _⟩ := Error.bind_eq_ok_iff.mp made
  obtain ⟨message, messageEq, _⟩ := Signable.sign_eq_ok_iff.mp proofSigned
  obtain ⟨octets, written, _⟩ := Signable.signingMessage_eq_ok_iff.mp messageEq
  have few := (Signable.isComplete_write_iff.mp ⟨octets, written⟩).2
  rwa [Signable.secondary, List.length_map] at few

theorem exists_sponsored
    (acceptsOwn : suite.AcceptsOwn)
    {transaction : RawTransaction}
    {sender payer : Account}
    {others : List Account}
    (form : transaction.HasWireForm)
    (few : others.length ≤ maxLength)
    (sign : ∀ account ∈ sender :: payer :: others, account.key.SignsTransactions) :
    ∃ signed, sponsored suite transaction sender payer others = .ok signed ∧
      signed.transaction = transaction := by
  have signableForm :
      (Signable.feePayer transaction (others.map Account.address)
        (some payer.address)).HasWireForm :=
    ⟨form, by rwa [Signable.secondary, List.length_map]⟩
  obtain ⟨senderSigns, payerSigns, othersSign⟩ := by
    simpa only [List.forall_mem_cons] using sign
  obtain ⟨proof, proofSigned⟩ := Signable.exists_sign acceptsOwn signableForm senderSigns
  obtain ⟨secondary, secondarySigned⟩ := Account.exists_cosign acceptsOwn signableForm othersSign
  obtain ⟨payment, paymentSigned⟩ := Signable.exists_sign acceptsOwn signableForm payerSigns
  exact ⟨_, Error.bind_eq_ok_iff.mpr ⟨proof, proofSigned,
    Error.bind_eq_ok_iff.mpr ⟨secondary, secondarySigned,
      Error.bind_eq_ok_iff.mpr ⟨payment, paymentSigned, rfl⟩⟩⟩, rfl⟩

end SignedTransaction

/-! ## Clients of a node -/

namespace NodeClient

variable {σ : Type} (client : NodeClient (ExceptT Error (StateM σ)))

theorem createCosigned_yields
    (acceptsOwn : suite.AcceptsOwn)
    (sender : Account)
    (others : List Account)
    (payload : Payload)
    (options : Option TransactionOptions) :
    Yields (client.createCosigned suite sender others payload options)
      (·.verify suite = .ok true) := by
  unfold createCosigned
  apply Yields.bind
  intro chosen
  apply Yields.bind
  intro built
  cases built with
  | multiAgent transaction _ =>
      apply Yields.ofExcept
      intro signed made
      exact SignedTransaction.verify_of_cosigned acceptsOwn made
  | plain | feePayer => exact Yields.throw _

theorem createSponsored_yields
    (acceptsOwn : suite.AcceptsOwn)
    (sender payer : Account)
    (payload : Payload)
    (others : List Account)
    (options : Option TransactionOptions) :
    Yields (client.createSponsored suite sender payer payload others options)
      (·.verify suite = .ok true) := by
  unfold createSponsored
  apply Yields.bind
  intro chosen
  apply Yields.bind
  intro built
  apply Yields.ofExcept
  intro signed made
  exact SignedTransaction.verify_of_sponsored acceptsOwn made

end NodeClient

/-! ## What is signed is valid -/

/-- What is signed is what is verified. If public keys accept the signatures of their private keys,
accounts whose schemes sign transactions can sign whatever has a wire form, alone, with as many
secondary signers as can be counted, and with a fee payer; what they sign is valid and stays valid
through the wire. So is every transaction that a client of a node gives, whatever the node
answers. -/
theorem signers_staysValid
    (acceptsOwn : suite.AcceptsOwn) :
    (∀ (transaction : RawTransaction) (sender : Account),
      transaction.HasWireForm → sender.key.SignsTransactions →
        ∃ signed, SignedTransaction.signedBy suite transaction sender = .ok signed ∧
          signed.transaction = transaction ∧ signed.StaysValid suite) ∧
    (∀ (transaction : RawTransaction) (sender : Account) (others : List Account),
      transaction.HasWireForm → others.length ≤ maxLength →
        (∀ account ∈ sender :: others, account.key.SignsTransactions) →
          ∃ signed, SignedTransaction.cosigned suite transaction sender others = .ok signed ∧
            signed.transaction = transaction ∧ signed.StaysValid suite) ∧
    (∀ (transaction : RawTransaction) (sender payer : Account) (others : List Account),
      transaction.HasWireForm → others.length ≤ maxLength →
        (∀ account ∈ sender :: payer :: others, account.key.SignsTransactions) →
          ∃ signed,
            SignedTransaction.sponsored suite transaction sender payer others = .ok signed ∧
              signed.transaction = transaction ∧ signed.StaysValid suite) ∧
    (∀ (σ : Type) (client : NodeClient (ExceptT Error (StateM σ))) (sender : Account)
      (others : List Account) (payload : Payload) (options : Option TransactionOptions)
      (state : σ) (signed : SignedTransaction) (after : σ),
      (client.createCosigned suite sender others payload options).run.run state =
          (.ok signed, after) →
        signed.StaysValid suite) ∧
    (∀ (σ : Type) (client : NodeClient (ExceptT Error (StateM σ))) (sender payer : Account)
      (payload : Payload) (others : List Account) (options : Option TransactionOptions)
      (state : σ) (signed : SignedTransaction) (after : σ),
      (client.createSponsored suite sender payer payload others options).run.run state =
          (.ok signed, after) →
        signed.StaysValid suite) := by
  refine ⟨?_, ?_, ?_, ?_, ?_⟩
  · intro transaction sender form signs
    obtain ⟨signed, made, same⟩ := SignedTransaction.exists_signedBy acceptsOwn form signs
    exact ⟨signed, made, same, SignedTransaction.staysValid_of_verify
      (SignedTransaction.verify_of_signedBy acceptsOwn made)⟩
  · intro transaction sender others form few sign
    obtain ⟨signed, made, same⟩ := SignedTransaction.exists_cosigned acceptsOwn form few sign
    exact ⟨signed, made, same, SignedTransaction.staysValid_of_verify
      (SignedTransaction.verify_of_cosigned acceptsOwn made)⟩
  · intro transaction sender payer others form few sign
    obtain ⟨signed, made, same⟩ := SignedTransaction.exists_sponsored acceptsOwn form few sign
    exact ⟨signed, made, same, SignedTransaction.staysValid_of_verify
      (SignedTransaction.verify_of_sponsored acceptsOwn made)⟩
  · intro σ client sender others payload options state signed after ran
    exact SignedTransaction.staysValid_of_verify
      (client.createCosigned_yields acceptsOwn sender others payload options state signed after ran)
  · intro σ client sender payer payload others options state signed after ran
    exact SignedTransaction.staysValid_of_verify
      (client.createSponsored_yields acceptsOwn sender payer payload others options state signed
        after ran)

def ed25519Sender : Account := ⟨.one, .ed25519 (.zero 32)⟩

def secp256k1Cosigner : Account :=
  ⟨Signable.scriptCosigner, .ecdsa .secp256k1 ⟨7, by decide, by decide⟩⟩

theorem sign_ed25519Sender_secp256k1Cosigner :
    ∀ account ∈ [ed25519Sender, secp256k1Cosigner], account.key.SignsTransactions := by
  rw [List.forall_mem_cons, List.forall_mem_singleton]
  exact ⟨.inl rfl, .inr rfl⟩

/-- The payload of a call with an address. -/
def addressPayload : Payload := (Signable.scriptCall (.address .one)).transaction.payload

/-- Options that leave nothing to ask of a node. -/
def completeOptions : TransactionOptions :=
  { sequenceNumber := some (.int 5), chainId := some (.int 4) }

/-- What is built of `addressPayload` and `completeOptions` at the start of time. -/
def builtTransaction : RawTransaction :=
  ⟨.one, .int 5, addressPayload, .int 100000, .int 100, .int 300, .int 4⟩

/-- A server at the start of time that answers nothing. -/
def silentWeb : ScriptedWeb := { routes := [], timeOfDay := .int 0 }

/-- A client of that server. -/
def silentClient : NodeClient Scripted := ⟨"http://node", {}, ScriptedWeb.transport⟩

theorem build_silentClient :
    (silentClient.build
        { completeOptions with additionalSigners := .listed [secp256k1Cosigner.address] }
        ed25519Sender.address addressPayload).run.run silentWeb =
      (.ok (.multiAgent builtTransaction [secp256k1Cosigner.address]), silentWeb) :=
  rfl

/-- The standard schemes, where nothing but the signatures of the private keys is accepted. -/
noncomputable def honestSuite : Suite :=
  .honest .standard fun _ => True

theorem honestSuite_acceptsOwn : honestSuite.AcceptsOwn :=
  Suite.honest_acceptsOwn

theorem signers_staysValid_honest :
    (∃ signed,
      SignedTransaction.sponsored honestSuite builtTransaction ed25519Sender secp256k1Cosigner [] =
          .ok signed ∧
        signed.transaction = builtTransaction ∧ signed.StaysValid honestSuite) ∧
      ∃ signed,
        (silentClient.createCosigned honestSuite ed25519Sender [secp256k1Cosigner] addressPayload
            (some completeOptions)).run.run silentWeb =
            (.ok signed, silentWeb) ∧
          signed.StaysValid honestSuite := by
  have form : builtTransaction.HasWireForm :=
    RawTransaction.isComplete_write_iff.mp ⟨_, rfl⟩
  obtain ⟨_, _, sponsoredStays, cosignedStays, _⟩ := signers_staysValid honestSuite_acceptsOwn
  refine ⟨sponsoredStays _ _ _ _ form (by decide) sign_ed25519Sender_secp256k1Cosigner, ?_⟩
  obtain ⟨signed, made, _⟩ := SignedTransaction.exists_cosigned honestSuite_acceptsOwn form
    (by decide) sign_ed25519Sender_secp256k1Cosigner
  have ran : (silentClient.createCosigned honestSuite ed25519Sender [secp256k1Cosigner]
      addressPayload (some completeOptions)).run.run silentWeb = (.ok signed, silentWeb) := by
    have chosen : (silentClient.optionsOr (some completeOptions)).run.run silentWeb =
        (.ok completeOptions, silentWeb) := rfl
    unfold NodeClient.createCosigned
    rw [run_bind_of_ok chosen]
    refine (run_bind_of_ok build_silentClient).trans ?_
    dsimp only
    rw [made]
    rfl
  exact ⟨signed, ran, cosignedStays _ _ _ _ _ _ _ _ _ ran⟩

/-- A script call with a type of the address kind and a byte string. -/
def misplacedTypeCall : RawTransaction :=
  let script : Script :=
    ⟨[], [], [⟨.address, .type .u8⟩, ⟨.octets, .bytes (List.replicate 29 0 ++ [99])⟩]⟩
  ⟨.one, .int 0, .script script, .int 0, .int 0, .int 0, .int 4⟩

/-- The wire form of `misplacedTypeCall` up to the end of its script. -/
def misplacedTypeOctets : Bytes :=
  Address.one.bytes ++ List.replicate 8 0 ++ [0, 0, 0, 2, 3, 1, 4, 30] ++
    List.replicate 29 0 ++ [99]

/-- The octets behind the type are taken for the rest of an address; what is behind these is no
argument. -/
theorem not_read_misplacedTypeOctets
    (behind : Bytes)
    (transaction : RawTransaction)
    (rest : Bytes) :
    RawTransaction.read (misplacedTypeOctets ++ behind) ≠ .ok transaction rest := by
  have refused : ∃ left, RawTransaction.read (misplacedTypeOctets ++ behind) =
      .error (.codec (.unknownVariant .scriptArgument 99)) left := ⟨behind, rfl⟩
  obtain ⟨left, refusedEq⟩ := refused
  rw [refusedEq]
  rintro ⟨⟩

theorem not_read_of_misplacedTypeCall
    {signed other : SignedTransaction}
    {octets rest : Bytes}
    (same : signed.transaction = misplacedTypeCall)
    (written : signed.write = .complete octets) :
    SignedTransaction.read octets ≠ .ok other rest := by
  intro readEq
  have transactionWritten : misplacedTypeCall.write =
      .complete (misplacedTypeOctets ++ List.replicate 24 0 ++ [4]) := rfl
  obtain ⟨first, second, firstEq, _, rfl⟩ := Emission.append_eq_complete_iff.mp written
  rw [same, transactionWritten] at firstEq
  cases firstEq
  obtain ⟨transaction, _, _, middle, transactionRead, _⟩ := Reader.both_eq_ok_iff.mp readEq
  rw [List.append_assoc, List.append_assoc] at transactionRead
  exact not_read_misplacedTypeOctets _ _ _ transactionRead

theorem hasWireForm_misplacedTypeCall : misplacedTypeCall.HasWireForm :=
  RawTransaction.isComplete_write_iff.mp ⟨_, rfl⟩

/-- A transaction with a type in place of an address is signed and valid, and cannot be read back
from its octets. More secondary signers than can be counted cannot sign. -/
theorem misplacedTypeCall_not_read_back :
    (∃ (suite : Suite) (signed : SignedTransaction) (octets : Bytes),
      suite.AcceptsOwn ∧ ed25519Sender.key.SignsTransactions ∧
        misplacedTypeCall.HasWireForm ∧
        SignedTransaction.signedBy suite misplacedTypeCall ed25519Sender = .ok signed ∧
        signed.verify suite = .ok true ∧ signed.write.result = .ok octets ∧
        ∀ other rest, SignedTransaction.read octets ≠ .ok other rest) ∧
    ∃ (suite : Suite) (others : List Account),
      suite.AcceptsOwn ∧ builtTransaction.HasWireForm ∧
        (∀ account ∈ ed25519Sender :: others, account.key.SignsTransactions) ∧
        ∀ signed,
          SignedTransaction.cosigned suite builtTransaction ed25519Sender others ≠ .ok signed := by
  have acceptsOwn := honestSuite_acceptsOwn
  constructor
  · have form := hasWireForm_misplacedTypeCall
    have signs : ed25519Sender.key.SignsTransactions := .inl rfl
    obtain ⟨signed, made, same⟩ := SignedTransaction.exists_signedBy acceptsOwn form signs
    have valid := SignedTransaction.verify_of_signedBy acceptsOwn made
    obtain ⟨message, messageEq, _⟩ := SignedTransaction.verify_eq_ok_true_iff.mp valid
    obtain ⟨octets, octetsEq⟩ := SignedTransaction.isComplete_write_iff.mpr
      (SignedTransaction.hasWireForm_of_signingMessage messageEq)
    refine ⟨honestSuite, signed, octets, acceptsOwn, signs, form, made, valid,
      Emission.result_eq_ok_iff.mpr octetsEq, ?_⟩
    intro other rest
    exact not_read_of_misplacedTypeCall same octetsEq
  · refine ⟨honestSuite, List.replicate (maxLength + 1) ed25519Sender, acceptsOwn,
      RawTransaction.isComplete_write_iff.mp ⟨_, rfl⟩, ?_, ?_⟩
    · intro account member
      rw [← List.replicate_succ] at member
      rw [List.eq_of_mem_replicate member]
      exact .inl rfl
    · intro signed made
      have few := SignedTransaction.length_le_of_cosigned made
      rw [List.length_replicate] at few
      omega

end MoveClient
