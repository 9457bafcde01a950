import MoveClient.Address.Text
import MoveClient.Error.Api
import MoveClient.Node.Identification
import MoveClient.Value.Access

/-!
Queries to an indexer.

An indexer answers a query with data or with errors. Errors make the whole query fail, unless the
caller wants the answer as it is.
-/

namespace MoveClient

/-- A query with the values of its variables, and the part of the data that is wanted; none is the whole
answer. -/
structure IndexerQuery where
  query : String
  bindings : Value
  wanted : Option String
deriving Repr

namespace IndexerQuery

/-- The coins that an account holds. -/
def coinBalances (address : Address) : IndexerQuery where
  query :=
    "query CoinBalances($owner_address: String) \x7b current_coin_balances(where: " ++
      "\x7bowner_address: \x7b_eq: $owner_address\x7d\x7d) \x7b amount coin_type " ++
      "owner_address \x7d \x7d"
  bindings := .map [(.text "owner_address", .text address.text)]
  wanted := some "current_coin_balances"

/-- How far the indexer's processors are. -/
def processorStatus : IndexerQuery where
  query :=
    "query ProcessorStatus \x7b processor_status \x7b processor last_success_version " ++
      "last_updated \x7d \x7d"
  bindings := .map []
  wanted := some "processor_status"

/-- A query of the caller. -/
def custom (query : String) (bindings : Value) : IndexerQuery where
  query
  bindings := if bindings.isTruthy then bindings else .map []
  wanted := none

/-- What is wanted of an answer. -/
def result (query : IndexerQuery) (answer : Value) : Except Error Value :=
  match query.wanted with
  | none => .ok answer
  | some part => do
      let errors ← answer.optional "errors" .null
      if errors.isTruthy then
        let body := errors.json
        .error (.api {
          message := "GraphQL query failed: " ++ body
          status := 200
          body
          headers := [] })
      else
        let data ← answer.required "data"
        data.required part

end IndexerQuery

end MoveClient
