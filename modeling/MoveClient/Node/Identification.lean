/-!
How a client names itself.

Every request carries a header with the name of this library and its version.
-/

namespace MoveClient.Identification

/-- The name of the header. -/
def headerName : String := "x-aptos-client"

/-- The name under which the library is installed. -/
def packageName : String := "aptos-kit"

/-- The installed packages with their versions. -/
def installed : List (String × String) := [(packageName, "0.1.0")]

/-- A package's name with one hyphen for each run of separators, in lower case: names that agree
in this form are names of one package. -/
def plainName (name : String) : String :=
  let isSeparator (c : Char) : Bool := c == '-' || c == '_' || c == '.'
  let runs := name.toList.splitBy fun left right => isSeparator left == isSeparator right
  String.ofList (runs.flatMap fun run =>
    if run.all isSeparator then ['-'] else run.map Char.toLower)

/-- The value of the header, by the package whose version is given. -/
def headerValueOf (package : String) : String :=
  "aptos-kit-python/" ++ (installed.lookup (plainName package)).getD "unknown"

/-- The value of the header. -/
def headerValue : String :=
  headerValueOf packageName

/-- The header. -/
def header : String × String :=
  (headerName, headerValue)

/-- The header that authorises the bearer of a token, if there is one. -/
def bearer : Option String → List (String × String)
  | none | some "" => []
  | some token => [("Authorization", "Bearer " ++ token)]

/-- Sets an entry of a dictionary of headers: a name that is there keeps its place. -/
def setEntry (entry : String × String) : List (String × String) → List (String × String)
  | [] => [entry]
  | other :: rest => if other.1 = entry.1 then entry :: rest else other :: setEntry entry rest

/-- Updates a dictionary of headers with the entries of others. -/
def update (headers others : List (String × String)) : List (String × String) :=
  others.foldl (fun headers entry => setEntry entry headers) headers

/-- The headers of a client: its name, extra headers and the token. -/
def headers (extra : List (String × String)) (token : Option String) : List (String × String) :=
  update (update [header] extra) (bearer token)

end MoveClient.Identification
