/-!
# Routes

A resource is named by the segments of a path. A segment that is a parameter may be anything but
empty; it is percent-encoded, and decoded later: a percent sign with two hexadecimal digits stands for
a byte, and a percent sign without them for itself.
-/

namespace QuorumRing

namespace PercentEncoding

/-- The value of a byte that is a hexadecimal digit. -/
def hexValue? (b : UInt8) : Option UInt8 :=
  if 48 ≤ b && b ≤ 57 then some (b - 48)
  else if 97 ≤ b && b ≤ 102 then some (b - 87)
  else if 65 ≤ b && b ≤ 70 then some (b - 55)
  else none

/-- The bytes that stand behind a percent-encoded text. -/
def decodeBytes : List UInt8 → List UInt8
  | [] => []
  | 37 :: high :: low :: rest =>
    match hexValue? high, hexValue? low with
    | some h, some l => (16 * h + l) :: decodeBytes rest
    | _, _ => 37 :: decodeBytes (high :: low :: rest)
  | b :: rest => b :: decodeBytes rest

/-- The text behind a percent-encoded one; `none` if the bytes are not UTF-8. -/
def decode? (s : String) : Option String :=
  String.fromUTF8? (ByteArray.mk (decodeBytes s.toUTF8.toList).toArray)

end PercentEncoding

namespace Http

/-- A resource. Parameters are as in the path. -/
inductive Route where
  /-- All entries. -/
  | data
  /-- The entry of a key. -/
  | entry (key : String)
  /-- All units. -/
  | nodes
  /-- The unit of an id. -/
  | node (id : String)
  /-- The status of the cluster. -/
  | status
  /-- The number of keys on each unit. -/
  | distribution
  /-- The walk that places a key. -/
  | placement (key : String)
  /-- The counters. -/
  | metrics
  /-- The counters in the text exposition. -/
  | exposition
  /-- The repair of a key. -/
  | repair (key : String)
  /-- The verification of the cluster. -/
  | verification
  /-- The health of the cluster. -/
  | health
deriving DecidableEq, Repr

/-- What a resource can be asked for. -/
inductive Method where
  /-- To be shown. -/
  | get
  /-- To be shown without its body. -/
  | head
  /-- To take in what the body says. -/
  | post
  /-- To be removed. -/
  | delete
deriving DecidableEq, Repr

namespace Method

/-- The method as it stands in a request. -/
def name : Method → String
  | get => "GET"
  | head => "HEAD"
  | post => "POST"
  | delete => "DELETE"

/-- The method of a name. -/
def ofName? (s : String) : Option Method := [get, head, post, delete].find? (·.name = s)

end Method

namespace Route

/-- A parameter of a path, if it is not empty. -/
def parameter? (route : String → Route) (segment : String) : Option Route :=
  if segment.isEmpty then none else some (route segment)

/-- The resource that a path names. -/
def ofPath? (path : String) : Option Route :=
  match path.splitOn "/" with
  | ["", "data"] => some .data
  | ["", "data", key] => parameter? .entry key
  | ["", "nodes"] => some .nodes
  | ["", "nodes", id] => parameter? .node id
  | ["", "status"] => some .status
  | ["", "distribution"] => some .distribution
  | ["", "placement", key] => parameter? .placement key
  | ["", "metrics"] => some .metrics
  | ["", "metrics", "prometheus"] => some .exposition
  | ["", "admin", "repair", key] => parameter? .repair key
  | ["", "admin", "verify"] => some .verification
  | ["", "health"] => some .health
  | _ => none

/-- The methods of a resource, by name. -/
def methods : Route → List Method
  | .data | .repair _ => [.post]
  | .nodes => [.get, .head, .post]
  | .entry _ | .node _ => [.delete, .get, .head]
  | .status | .distribution | .placement _ | .metrics | .exposition | .verification | .health =>
    [.get, .head]

/-- The parameter of a path. -/
def parameterText? : Route → Option String
  | .entry s | .node s | .placement s | .repair s => some s
  | _ => none

end Route

/-- The path of a request target: what comes before a query or a fragment. -/
def pathOf (target : String) : String :=
  String.ofList (target.toList.takeWhile fun c => c != '?' && c != '#')

end Http

end QuorumRing
