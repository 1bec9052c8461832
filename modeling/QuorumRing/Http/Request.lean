import QuorumRing.Http.Body
import QuorumRing.Http.MediaType
import QuorumRing.Http.Response
import QuorumRing.Http.Route

/-!
# Requests

A request is understood as one action on the cluster, or refused. A refusal looks at nothing but the
request itself. The checks come in this order: the path, the method, the parameter of the path, the
media type of the body, its length, the body.
-/

namespace QuorumRing.Http

/-- A request. -/
structure Request where
  /-- The method. -/
  method : String
  /-- The path, with a query if there is one. -/
  target : String
  /-- The media type that the body is said to have. -/
  contentType : Option String := none
  /-- The body. -/
  body : String := ""

/-- What a request asks of the cluster. -/
inductive Action where
  /-- To store an entry. -/
  | put (key value : String)
  /-- To read a key. -/
  | get (key : String)
  /-- To delete a key. -/
  | delete (key : String)
  /-- To admit a unit. -/
  | addNode (id host : String) (port : UInt16)
  /-- To show all units. -/
  | listNodes
  /-- To show a unit. -/
  | showNode (id : String)
  /-- To remove a unit. -/
  | removeNode (id : String)
  /-- To show the status. -/
  | status
  /-- To show the number of keys on each unit. -/
  | distribution
  /-- To show how a key is placed. -/
  | placement (key : String)
  /-- To show the counters. -/
  | metrics
  /-- To show the counters in the text exposition. -/
  | exposition
  /-- To repair a key. -/
  | repair (key : String)
  /-- To verify the cluster. -/
  | verify
  /-- To show the health. -/
  | health
deriving DecidableEq, Repr

/-- Why a request is refused. -/
inductive Refusal where
  /-- There is no such resource. -/
  | noRoute
  /-- The resource does not have the method. -/
  | wrongMethod (allowed : List Method)
  /-- The parameter of the path is not UTF-8. -/
  | badParameter
  /-- The body is not said to be JSON. -/
  | wrongMediaType
  /-- The body is too long. -/
  | oversizedBody
  /-- The body cannot be read. -/
  | badBody (reason : BodyError)
deriving DecidableEq, Repr

/-- The response to a request that is refused. -/
def Refusal.response : Refusal → Response
  | .noRoute => .bare 404
  | .wrongMethod allowed => { Response.bare 405 with allow := allowed.map (·.name) }
  | .badParameter => .refusal 400 "Invalid URL: the path parameter is not valid UTF-8"
  | .wrongMediaType => .refusal 415 "Expected request with `Content-Type: application/json`"
  | .oversizedBody => .refusal 413 "Failed to buffer the request body: length limit exceeded"
  | .badBody .malformed => .refusal 400 "Failed to parse the request body as JSON"
  | .badBody .unfit =>
    .refusal 422 "Failed to deserialize the JSON body into the target type"

namespace Request

/-- The number of bytes that a body may have: two mebibytes. -/
def bodyLimit : Nat := 2097152

/-- Reads the body as an object with the given fields. A body that is too long is not looked into. -/
def fields (request : Request) (fields : Fields) : Except Refusal Found :=
  if (request.contentType.bind MediaType.parse?).any (·.isJson) then
    if bodyLimit < request.body.utf8ByteSize then .error .oversizedBody
    else
      match decodeBody fields request.body with
      | .ok found => .ok found
      | .error e => .error (.badBody e)
  else .error .wrongMediaType

/-- The fields of an entry. -/
def entryFields : Fields := [("key", .text), ("value", .text)]

/-- The fields of a unit. -/
def nodeFields : Fields := [("id", .text), ("host", .text), ("port", .port)]

/-- The parameter of the path, decoded. -/
def parameter (route : Route) : Except Refusal String :=
  match (route.parameterText?.getD "" |> PercentEncoding.decode?) with
  | some s => .ok s
  | none => .error .badParameter

/-- What the request asks for. -/
def action (request : Request) : Except Refusal Action := do
  let some route := Route.ofPath? (pathOf request.target) | .error .noRoute
  let some method := Method.ofName? request.method | .error (.wrongMethod route.methods)
  if !route.methods.contains method then .error (.wrongMethod route.methods)
  let parameter ← parameter route
  match route, method with
  | .data, _ =>
    let found ← request.fields entryFields
    return .put (found.text "key") (found.text "value")
  | .entry _, .delete => return .delete parameter
  | .entry _, _ => return .get parameter
  | .nodes, .post =>
    let found ← request.fields nodeFields
    return .addNode (found.text "id") (found.text "host") (found.port "port")
  | .nodes, _ => return .listNodes
  | .node _, .delete => return .removeNode parameter
  | .node _, _ => return .showNode parameter
  | .status, _ => return .status
  | .distribution, _ => return .distribution
  | .placement _, _ => return .placement parameter
  | .metrics, _ => return .metrics
  | .exposition, _ => return .exposition
  | .repair _, _ => return .repair parameter
  | .verification, _ => return .verify
  | .health, _ => return .health

end Request

end QuorumRing.Http
