import MoveClient.Codec.Reader
import MoveClient.Text.Utf8
import MoveClient.Value.Access
import MoveClient.Value.JsonText

/-!
Requests and answers of the web.

A request has a method, an address, parameters and headers in order, and a body. Names of headers
are the same in upper and lower case. An answer has a status and octets, which are read as text or
as JSON; octets that are not UTF-8 hold no JSON.
-/

namespace MoveClient

/-- The body of a request. -/
inductive HttpBody where
  | absent
  | octets (content : Bytes)
  | json (content : Value)
deriving Repr

/-- A request. -/
structure HttpRequest where
  method : String
  url : String
  params : List (String × String) := []
  headers : List (String × String) := []
  body : HttpBody := .absent
deriving Repr

/-- An answer. -/
structure HttpResponse where
  status : Int
  body : Bytes
deriving DecidableEq, Repr

namespace HttpRequest

/-- Whether two headers have one name. -/
def sameHeader (left right : String × String) : Bool :=
  left.1.toLower == right.1.toLower

/-- Adds headers in place of those of the same names. -/
def override (headers others : List (String × String)) : List (String × String) :=
  headers.filter (fun header => !others.any (sameHeader header)) ++ others

/-- The headers of one name as one header: their values stand behind each other. -/
def mergeHeader (header : String × String) :
    List (String × String) → List (String × String)
  | [] => [(header.1.toLower, header.2)]
  | other :: rest =>
      if sameHeader other header then (other.1, other.2 ++ ", " ++ header.2) :: rest
      else other :: mergeHeader header rest

/-- The headers as they are sent: names in lower case, one header for each name. -/
def sentHeaders (request : HttpRequest) : List (String × String) :=
  let merged := request.headers.foldl (fun merged header => mergeHeader header merged) []
  match request.body with
  | .json _ =>
      if merged.any (sameHeader ("content-type", "")) then merged
      else merged ++ [("content-type", "application/json")]
  | _ => merged

/-- A text up to the mark of the scheme, and the rest, if there is a scheme. -/
def splitScheme : List Char → Option (List Char × List Char)
  | ':' :: '/' :: '/' :: rest => some ([':', '/', '/'], rest)
  | c :: rest => (splitScheme rest).map fun parts => (c :: parts.1, parts.2)
  | [] => none

/-- An address as scheme with host, and path. -/
def splitUrl (url : String) : String × String :=
  let (scheme, rest) := (splitScheme url.toList).getD ([], url.toList)
  let (host, path) := rest.span (· != '/')
  (String.ofList (scheme ++ host), String.ofList path)

/-- The scheme and the host of the address. -/
def host (request : HttpRequest) : String :=
  (splitUrl request.url).1

/-- The path of the address. -/
def path (request : HttpRequest) : String :=
  match (splitUrl request.url).2 with
  | "" => "/"
  | path => path

/-- The text of a parameter. -/
def paramText : Value → String
  | .bool b => if b then "true" else "false"
  | value => value.shown

/-- The parameters that are there. -/
def paramsOf (named : List (String × Value)) : List (String × String) :=
  named.filterMap fun entry =>
    match entry.2 with
    | .null => none
    | value => some (entry.1, paramText value)

end HttpRequest

namespace HttpResponse

/-- The body as text. -/
def text (response : HttpResponse) : String :=
  Utf8.decode response.body

/-- The octets behind a byte order mark, if there is one. -/
def dropMark : Bytes → Bytes
  | 0xef :: 0xbb :: 0xbf :: rest => rest
  | octets => octets

/-- The body as JSON. -/
def json (response : HttpResponse) : Except Error Value :=
  match Reader.textOf? (dropMark response.body) with
  | some s => Value.ofJson s
  | none => .error .malformedJson

/-- The refusal in an answer; the context says what was asked for. -/
def refusal (response : HttpResponse) (context : Option String) : ApiError :=
  let message :=
    match context with
    | some context => response.text ++ " - " ++ context
    | none => response.text
  { message, status := response.status, body := response.text, headers := [] }

/-- Refuses an answer whose status says that the request failed. -/
def check (response : HttpResponse) (context : Option String) : Except Error Unit :=
  if 400 ≤ response.status then .error (.api (response.refusal context)) else .ok ()

/-- The JSON of an answer, unless the request failed. -/
def checkedJson (response : HttpResponse) (context : Option String) : Except Error Value := do
  response.check context
  response.json

end HttpResponse

end MoveClient
