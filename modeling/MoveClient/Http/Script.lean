import MoveClient.Node.Client

/-!
Scripted web servers.

A scripted server answers requests by routes that are laid out beforehand. A route is used once
unless it is lasting; a request that no route fits is not found. Every request is noted. The clock
goes forward by a second whenever it is read, and no time passes in a pause.
-/

namespace MoveClient

/-- An answer to requests of a method for a path. -/
structure Route where
  method : String
  path : String
  response : HttpResponse
  isLasting : Bool

/-- A server with routes, and what a client remembers. -/
structure ScriptedWeb where
  routes : List Route
  requests : List HttpRequest := []
  clock : Nat := 0
  timeOfDay : Value
  chainId : Option Int := none
  isClosed : Bool := false

/-- Programs against a scripted server. -/
abbrev Scripted := ExceptT Error (StateM ScriptedWeb)

namespace ScriptedWeb

/-- The answer to a request that no route fits. -/
def notFound : HttpResponse where
  status := 404
  body := Emission.textOctets
    "\x7b\"message\":\"not found\",\"error_code\":\"not_found\"\x7d"

/-- The answer of the first route that fits, and the routes that are left. -/
def route (method path : String) : List Route → HttpResponse × List Route
  | [] => (notFound, [])
  | candidate :: rest =>
      if candidate.method = method ∧ candidate.path = path then
        (candidate.response, if candidate.isLasting then candidate :: rest else rest)
      else
        let (response, rest) := route method path rest
        (response, candidate :: rest)

/-- Answers a request, unless the connection is closed. -/
def respond (request : HttpRequest) : Scripted HttpResponse := do
  let web ← get
  if web.isClosed then throw .clientClosed
  else
    let (response, routes) := route request.method request.path web.routes
    set { web with routes, requests := web.requests ++ [request] }
    pure response

/-- The transport to a scripted server. -/
def transport : Transport Scripted where
  send := respond
  readClock := do
    let web ← get
    let clock := web.clock + 1
    set { web with clock }
    pure (.ofInt clock)
  pause _ := pure ()
  timeOfDay := do pure (← get).timeOfDay
  recallChainId := do pure (← get).chainId
  rememberChainId number := modify fun web => { web with chainId := some number }
  maximumPolls := 100000

/-- Closes the connection. -/
def close : Scripted Unit :=
  modify fun web => { web with isClosed := true }

/-- Runs a program with an empty note of requests, and gives the result and the requests. -/
def run {α : Type} (program : Scripted α) (web : ScriptedWeb) :
    Except Error α × List HttpRequest × ScriptedWeb :=
  let (result, web) := (ExceptT.run program).run { web with requests := [] }
  (result, web.requests, web)

end ScriptedWeb

end MoveClient
