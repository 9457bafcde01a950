import MoveClient.Node.Wait

/-!
Faucets, which fund accounts of test networks.

A faucet shares the connection of a node's client; its own token takes the place of the client's.
-/

namespace MoveClient

/-- A faucet. -/
structure Faucet (m : Type → Type) where
  baseUrl : String
  token : Option String
  client : NodeClient m

namespace Faucet

variable {m : Type → Type} [Monad m] [MonadExceptOf Error m]

/-- The faucet at an address. -/
def make (url : String) (token : Option String) (client : NodeClient m) : Faucet m :=
  ⟨NodeClient.trimUrl url, token, client⟩

variable (faucet : Faucet m)

/-- The headers of the faucet itself. -/
def headers : List (String × String) :=
  Identification.bearer faucet.token

/-- Funds an account and gives the hash of the first transaction that did it; `wait` waits until
all of them are committed. -/
def fund (address : Address) (amount : Value) (wait : Bool) : m Value := do
  let response ← faucet.client.send {
    method := "POST"
    url := faucet.baseUrl ++ "/mint"
    params := HttpRequest.paramsOf [("amount", amount), ("address", .text address.text)]
    headers := faucet.headers }
  let hashes ← ofExcept (response.checkedJson (some address.text))
  if wait then
    match hashes.items? with
    | some items => do
        let _ ← faucet.client.waitForTransactions (items.map Value.shown) .null .null
        ofExcept hashes.firstItem
    | none => throw .wrongKind
  else ofExcept hashes.firstItem

/-- Whether the faucet says that it works. -/
def healthy : m Bool := do
  let response ← faucet.client.send { method := "GET", url := faucet.baseUrl }
  pure (response.text == "tap:ok")

end Faucet

end MoveClient
