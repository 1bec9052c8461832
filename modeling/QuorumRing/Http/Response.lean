import QuorumRing.Error
import QuorumRing.Json.Basic

/-!
# Responses
-/

namespace QuorumRing

/-- The status code that an error is answered with. -/
def Error.httpStatus : Error → Nat
  | .notFound _ => 404
  | .invalidConfig _ => 400
  | .timeout _ => 408
  | .noActiveUnits | .quorumNotReached .. | .nodeInactive _ => 503
  | .config _ | .io _ | .internal _ => 500

namespace Http

/-- The body of a response. -/
inductive Body where
  /-- No body. -/
  | empty
  /-- A JSON value. -/
  | json (value : Json)
  /-- A text of the given media type. -/
  | text (mediaType content : String)

/-- The media type of a body. -/
def Body.mediaType? : Body → Option String
  | .empty => none
  | .json _ => some "application/json"
  | .text mediaType _ => some mediaType

/-- A response. -/
structure Response where
  /-- The status code. -/
  status : Nat
  /-- The media type of the body. -/
  contentType : Option String
  /-- The methods that the resource has, in a response that names them. -/
  allow : List String := []
  /-- The body. -/
  body : Body := .empty

namespace Response

/-- A response with a JSON body. -/
def json (status : Nat) (value : Json) : Response :=
  { status, contentType := some "application/json", body := .json value }

/-- A response with a text. -/
def text (status : Nat) (mediaType content : String) : Response :=
  { status, contentType := some mediaType, body := .text mediaType content }

/-- A response without a body. -/
def bare (status : Nat) : Response := { status, contentType := none }

/-- The refusal of a request before it reaches the cluster, in words. -/
def refusal (status : Nat) (reason : String) : Response :=
  text status "text/plain; charset=utf-8" reason

/-- The refusal of a request in the form in which errors are told. -/
def problem (status : Nat) (reason : String) : Response :=
  json status (.object [("error", .string reason)])

/-- The answer to a request that failed. -/
def ofError (e : Error) : Response :=
  json e.httpStatus (.object [("error", .string e.message), ("retryable", .bool e.isRetryable)])

/-- The same response without its body. -/
def withoutBody (response : Response) : Response := { response with body := .empty }

end Response

end Http

end QuorumRing
