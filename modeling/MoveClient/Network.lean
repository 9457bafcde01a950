import MoveClient.Node.Faucet
import MoveClient.Text.Blank

/-!
Networks and where they are found.

A network has a node and may have an indexer and a faucet. The number of its chain is zero if it
changes; then the node has to be asked for it.
-/

namespace MoveClient

/-- A network. -/
structure Network where
  name : String
  chainId : Int
  nodeUrl : String
  indexerUrl : Option String := none
  faucetUrl : Option String := none
deriving DecidableEq, Repr

namespace Network

/-- The network on the own machine. -/
def localnet : Network where
  name := "localnet"
  chainId := 4
  nodeUrl := "http://127.0.0.1:8080/v1"
  indexerUrl := some "http://127.0.0.1:8090/v1/graphql"
  faucetUrl := some "http://127.0.0.1:8081"

/-- The network that is set up anew again and again. -/
def devnet : Network where
  name := "devnet"
  chainId := 0
  nodeUrl := "https://api.devnet.aptoslabs.com/v1"
  indexerUrl := some "https://api.devnet.aptoslabs.com/v1/graphql"
  faucetUrl := some "https://faucet.devnet.aptoslabs.com"

/-- The network for tests. -/
def testnet : Network where
  name := "testnet"
  chainId := 2
  nodeUrl := "https://api.testnet.aptoslabs.com/v1"
  indexerUrl := some "https://api.testnet.aptoslabs.com/v1/graphql"
  faucetUrl := some "https://faucet.testnet.aptoslabs.com"

/-- The main network, which has no faucet. -/
def mainnet : Network where
  name := "mainnet"
  chainId := 1
  nodeUrl := "https://api.mainnet.aptoslabs.com/v1"
  indexerUrl := some "https://api.mainnet.aptoslabs.com/v1/graphql"

/-- The networks that have names. -/
def all : List Network :=
  [localnet, devnet, testnet, mainnet]

/-- The network of a name; blanks around it and the case of ASCII letters do not matter. -/
def ofName (name : String) : Except Error Network :=
  let plain := String.ofList ((trimBlanks name.toList).map Char.toLower)
  match all.find? fun network => network.name = plain with
  | some network => .ok network
  | none => .error (.parse (.unknownNetwork name))

/-- The text under a name that may be left out. -/
def urlIn (settings : Value) (name : String) : Except Error (Option String) :=
  match settings.field? name with
  | none | some .null => .ok none
  | some (.text url) => .ok (some url)
  | some _ => .error .wrongKind

/-- A network by the names of its settings. Name, number and node are needed, and no other names
than these five are known. -/
def ofSettings (settings : Value) : Except Error Network :=
  let known := ["name", "chain_id", "node_url", "indexer_url", "faucet_url"]
  let areKnown := match settings with
    | .map entries => entries.all fun entry => known.contains entry.1.shown
    | _ => false
  match settings.field? "name", settings.field? "chain_id", settings.field? "node_url" with
  | some (.text name), some (.int chainId), some (.text nodeUrl) => do
      let indexerUrl ← urlIn settings "indexer_url"
      let faucetUrl ← urlIn settings "faucet_url"
      if areKnown then .ok { name, chainId, nodeUrl, indexerUrl, faucetUrl } else .error .wrongKind
  | _, _, _ => .error .wrongKind

/-- The number of the chain, unless it changes. -/
def pinnedChainId (network : Network) : Option Int :=
  if network.chainId = 0 then none else some network.chainId

/-- An address that the network may lack. -/
def endpoint (network : Network) (kind : String) : Option String → Except Error String
  | none | some "" => .error (.unsupported (.noEndpoint network.name kind))
  | some url => .ok url

/-- The address of the faucet. -/
def faucet (network : Network) : Except Error String :=
  NodeClient.trimUrl <$> network.endpoint "faucet" network.faucetUrl

/-- The address of the indexer. -/
def indexer (network : Network) : Except Error String :=
  network.endpoint "indexer" network.indexerUrl

end Network

end MoveClient
