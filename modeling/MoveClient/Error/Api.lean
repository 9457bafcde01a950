import MoveClient.Error
import MoveClient.Value.JsonText

/-!
Refusals by a node.

A node explains a refusal in a JSON object with a code of its own and, if a transaction failed, a
code of the virtual machine. A body of another form has neither.
-/

namespace MoveClient.ApiError

/-- A refusal whose body is its message. -/
def ofMessage (message : String) (status : Int) : ApiError :=
  { message, status, body := message, headers := [] }

/-- The value under a name in the body, or null. -/
def detail (error : ApiError) (name : String) : Value :=
  match Value.ofJson error.body with
  | .ok body => (body.field? name).getD .null
  | .error _ => .null

/-- The node's code for the refusal, or null. -/
def errorCode (error : ApiError) : Value :=
  error.detail "error_code"

/-- The virtual machine's code for the refusal, or null. -/
def vmErrorCode (error : ApiError) : Value :=
  error.detail "vm_error_code"

end MoveClient.ApiError
