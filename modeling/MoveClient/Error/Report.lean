import MoveClient.Error.Api
import MoveClient.Error.Message

/-!
What there is to tell about an error besides its kind.

An error with a message of its own tells it, together with the data that a caller may act on:
where in a text it was noticed, what a node said, which transaction it is about.
-/

namespace MoveClient

/-- What a refusal by a node tells. -/
def ApiError.details (refusal : ApiError) : List (String × Value) :=
  [("status_code", .int refusal.status), ("error_code", refusal.errorCode),
    ("vm_error_code", refusal.vmErrorCode)]

namespace Error

/-- What an error tells besides its message. -/
def data : Error → List (String × Value)
  | api refusal => refusal.details
  | accountNotFound address => (ApiError.ofMessage address 404).details
  | resourceNotFound resource =>
      (ApiError.ofMessage resource 404).details ++ [("resource", .text resource)]
  | transactionTimeout hash _ => [("txn_hash", .text hash)]
  | transactionFailed hash status => [("txn_hash", .text hash), ("vm_status", status)]
  | typeText cause =>
      [("position", match cause.position with
        | some position => .int position
        | none => .null)]
  | _ => []

/-- Whether an error has a message of its own. -/
def hasMessage : Error → Bool
  | wrongKind | missingField | emptyAnswer | missingItem | halfCharacter | invalidNumber
  | numberTooLarge | numberTooLong | notListed | malformedJson | alreadyStarted | clientClosed
  | noSecondarySigners | endlessType => false
  | _ => true

/-- All that an error tells. -/
def details (error : Error) : List (String × Value) :=
  if error.hasMessage then ("message", .text error.message) :: error.data else []

end Error

end MoveClient
