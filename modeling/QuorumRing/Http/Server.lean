import QuorumRing.Cluster.Bootstrap
import QuorumRing.Http.Service

/-!
# The server

A server has a cluster with the units that its settings name and a health monitor, and takes
requests at one address.
-/

namespace QuorumRing

/-- A server. -/
structure Server where
  /-- Where requests are taken. -/
  address : SocketAddress
  /-- The cluster. -/
  cluster : Cluster
  /-- The health monitor. -/
  monitor : Monitor := {}

namespace Server

/-- Starts a server. `listen` is the attempt to take requests at an address, or why it fails. -/
def start (settings : Settings) (listen : SocketAddress → Except String Unit) :
    Except Error Server :=
  let address := settings.coordinator.bindAddress
  match listen address with
  | .ok () => .ok { address, cluster := .bootstrap settings }
  | .error reason => .error (.io reason)

/-- Answers a request. -/
def answer (server : Server) (request : Http.Request) : Http.Response × Server :=
  let (response, cluster) := Http.handle (some server.monitor) server.cluster request
  (response, { server with cluster })

end Server

end QuorumRing
