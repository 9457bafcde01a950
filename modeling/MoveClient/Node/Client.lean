import MoveClient.Http
import MoveClient.Node.Identification
import MoveClient.Transaction.Builder

/-!
Clients of a node.

A client sends requests under the address of a node and takes its answers apart. How a request
reaches the node, what time it is and what the client remembers is up to the transport; so a client
is a program for any transport, and says exactly which requests are made in which order.
-/

namespace MoveClient

/-- How a client behaves. -/
structure ClientConfig where
  expirationTtl : Value := .int 600
  gasUnitPrice : Value := .int 100
  maxGasAmount : Value := .int 100000
  apiKey : Option String := none
  headers : List (String × String) := []
  pollPeriod : Value := .float (.ofDecimal false 1 (-1))
  pollTimeout : Value := .float (.ofInt 10)
deriving Repr

namespace ClientConfig

/-- The headers of every request. -/
def requestHeaders (config : ClientConfig) : List (String × String) :=
  Identification.headers config.headers config.apiKey

/-- A configuration by the names of its settings; what is not named stays as it is by itself. -/
def ofNamed (settings : Value) : ClientConfig :=
  let setting (name : String) (otherwise : Value) : Value :=
    (settings.field? name).getD otherwise
  let usual : ClientConfig := {}
  { expirationTtl := setting "expiration_ttl" usual.expirationTtl
    gasUnitPrice := setting "gas_unit_price" usual.gasUnitPrice
    maxGasAmount := setting "max_gas_amount" usual.maxGasAmount
    apiKey := match setting "api_key" .null with
      | .text token => some token
      | _ => none
    headers := match setting "headers" .null with
      | .map entries => entries.map fun entry => (entry.1.shown, entry.2.shown)
      | _ => []
    pollPeriod := setting "poll_period" usual.pollPeriod
    pollTimeout := setting "poll_timeout" usual.pollTimeout }

/-- The options for transactions that the configuration gives. -/
def transactionOptions (config : ClientConfig) : Except Error TransactionOptions :=
  TransactionOptions.checked {
    maxGasAmount := config.maxGasAmount
    gasUnitPrice := config.gasUnitPrice
    expirationSeconds := config.expirationTtl }

end ClientConfig

/-- What a client needs around it: a way to send a request, a clock that only goes forward (in
seconds), a way to pause for some seconds, the time of day (in seconds), and a place to
remember the number of the chain. No wait polls more often than `maximumPolls`. -/
structure Transport (m : Type → Type) where
  send : HttpRequest → m HttpResponse
  readClock : m Binary64
  pause : Value → m Unit
  timeOfDay : m Value
  recallChainId : m (Option Int)
  rememberChainId : Int → m Unit
  maximumPolls : Nat

/-- A client of the node at an address. -/
structure NodeClient (m : Type → Type) where
  baseUrl : String
  config : ClientConfig
  transport : Transport m

namespace NodeClient

/-- An address without slashes at the end. -/
def trimUrl (url : String) : String :=
  String.ofList (url.toList.reverse.dropWhile (· == '/')).reverse

variable {m : Type → Type} [Monad m] [MonadExceptOf Error m] (client : NodeClient m)

/-- The client of a node. -/
def make (url : String) (config : ClientConfig) (transport : Transport m) : NodeClient m :=
  ⟨trimUrl url, config, transport⟩

/-- Sends a request to a full address with the client's headers. -/
def send (request : HttpRequest) : m HttpResponse :=
  client.transport.send
    { request with headers := HttpRequest.override client.config.requestHeaders request.headers }

/-- Asks for something under the client's address. -/
def get (endpoint : String) (params : List (String × Value) := [])
    (headers : List (String × String) := []) : m HttpResponse :=
  client.send {
    method := "GET"
    url := client.baseUrl ++ "/" ++ endpoint
    params := HttpRequest.paramsOf params
    headers }

/-- Hands something in under the client's address. -/
def post (endpoint : String) (params : List (String × Value)) (headers : List (String × String))
    (body : HttpBody) : m HttpResponse :=
  client.send {
    method := "POST"
    url := client.baseUrl ++ "/" ++ endpoint
    params := HttpRequest.paramsOf params
    headers
    body }

/-- Asks for JSON under the client's address. -/
def getJson (endpoint : String) (params : List (String × Value) := [])
    (context : Option String := none) : m Value := do
  ofExcept ((← client.get endpoint params).checkedJson context)

/-- What the node says about itself and the ledger. -/
def info : m Value :=
  client.getJson ""

/-- The number of the chain. It is asked for once. -/
def chainId : m Int := do
  let known ← client.transport.recallChainId
  if known.getD 0 ≠ 0 then pure (known.getD 0)
  else
    let answer ← client.info
    let number ← ofExcept (answer.required "chain_id" >>= Value.toWhole)
    client.transport.rememberChainId number
    pure number

/-- The time of the ledger in seconds. -/
def currentTimestamp : m Binary64 := do
  let answer ← client.info
  let time ← ofExcept (answer.required "ledger_timestamp" >>= Value.toFloat)
  pure (time.dividedBy 1000000)

/-- The node's estimates of the price of gas. -/
def estimateGasPrice : m (List (String × Int)) := do
  match ← client.getJson "estimate_gas_price" with
  | .map entries =>
      entries.mapM fun entry => do
        pure (entry.1.shown, ← ofExcept entry.2.toWhole)
  | _ => throw .wrongKind

/-- Whether the node is up, and whether it has committed something within so many seconds. -/
def healthy (seconds : Value) : m Bool := do
  let response ← client.get "-/healthy" [("duration_secs", seconds)]
  if response.status = 503 then pure false
  else
    ofExcept (response.check none)
    pure true

/-- The block at a height. -/
def blockByHeight (height : Value) (withTransactions : Bool) : m Value :=
  client.getJson ("blocks/by_height/" ++ height.shown)
    [("with_transactions", .bool withTransactions)]

/-- The block that holds a version of the ledger. -/
def blockByVersion (version : Value) (withTransactions : Bool) : m Value :=
  client.getJson ("blocks/by_version/" ++ version.shown)
    [("with_transactions", .bool withTransactions)]

end NodeClient

end MoveClient
