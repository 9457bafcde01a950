import MoveClient.Account

/-!
Transactions signed by several accounts.

All accounts that take part sign the same message, which names the secondary signers and the
account that pays the fee. The proofs stand in the order in which the accounts are named.
-/

namespace MoveClient

namespace Account

variable (suite : Suite)

/-- The proofs of several accounts with their addresses. -/
def cosign (signable : Signable) (accounts : List Account) :
    Except Error (List (Address × AccountAuthenticator)) :=
  accounts.mapM fun account => do
    let proof ← account.sign suite signable
    .ok (account.address, proof)

end Account

namespace SignedTransaction

variable (suite : Suite)

/-- A transaction signed by its sender. -/
def signedBy (transaction : RawTransaction) (sender : Account) : Except Error SignedTransaction := do
  let proof ← sender.sign suite (.plain transaction)
  .ok ⟨transaction, .ofAccount proof⟩

/-- A transaction signed by its sender and by secondary signers. -/
def cosigned (transaction : RawTransaction) (sender : Account) (others : List Account) :
    Except Error SignedTransaction := do
  let signable := Signable.multiAgent transaction (others.map Account.address)
  let proof ← sender.sign suite signable
  let secondary ← Account.cosign suite signable others
  .ok ⟨transaction, .multiAgent proof secondary⟩

/-- A transaction signed by its sender, by secondary signers and by the account that pays. -/
def sponsored (transaction : RawTransaction) (sender payer : Account) (others : List Account) :
    Except Error SignedTransaction := do
  let signable :=
    Signable.feePayer transaction (others.map Account.address) (some payer.address)
  let proof ← sender.sign suite signable
  let secondary ← Account.cosign suite signable others
  let payment ← payer.sign suite signable
  .ok ⟨transaction, .feePayer proof secondary (payer.address, payment)⟩

end SignedTransaction

end MoveClient
