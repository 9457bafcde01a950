import MoveClient.Description.Report
import MoveClient.Http

/-!
Reports of requests.

A report tells what was sent and where to. A body of JSON stands as it is, octets in hexadecimal.
-/

namespace MoveClient

/-- Headers as a map. -/
def HttpRequest.headerRecord (headers : List (String × String)) : Value :=
  .record (headers.map fun header => (header.1, .text header.2))

/-- Pairs of names and texts. -/
def HttpRequest.pairList (entries : List (String × String)) : Value :=
  .list (entries.map fun entry => .list [.text entry.1, .text entry.2])

/-- The report of a body; no body has no octets. -/
def HttpBody.report : HttpBody → Value
  | absent => .text ""
  | octets content => .text content.hex
  | json content => content

/-- The report of a request with the headers that are to be shown. -/
def HttpRequest.report (shown : String → Bool) (request : HttpRequest) : Value :=
  .record [("method", .text request.method), ("url", .text request.host),
    ("path", .text request.path), ("params", pairList request.params),
    ("headers", headerRecord (request.sentHeaders.filter fun header => shown header.1)),
    ("body", request.body.report)]

end MoveClient
