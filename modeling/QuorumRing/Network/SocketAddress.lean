import QuorumRing.Network.IpAddress

/-!
# Socket addresses

An internet address and a port, written `address:port`. An address of version 6 stands in brackets,
with its zone behind a percent sign if it has one.
-/

namespace QuorumRing

/-- An internet address and a port. -/
structure SocketAddress where
  /-- The address. -/
  address : IpAddress
  /-- The port. -/
  port : UInt16
deriving DecidableEq, Repr

open Text (takeChar? takeNumber?)

namespace SocketAddress

/-- The text of a socket address. -/
def text (socket : SocketAddress) : String :=
  let host :=
    match socket.address with
    | .v4 address => address.text
    | .v6 address zone =>
      "[" ++ address.text ++ (if zone = 0 then "" else "%" ++ toString zone.toNat) ++ "]"
  host ++ ":" ++ toString socket.port.toNat

/-- Takes a zone from the front of a text. -/
def takeZone? (s : List Char) : Option (UInt32 × List Char) := do
  let (_, n, rest) ← takeChar? '%' s >>= takeNumber? 10
  if n < UInt32.size then some (n.toUInt32, rest) else none

/-- Takes an address as it stands in front of a port. -/
def takeHost? (s : List Char) : Option (IpAddress × List Char) :=
  match IPv4.take? s with
  | some (address, rest) => some (.v4 address, rest)
  | none => do
    let (address, s) ← takeChar? '[' s >>= IPv6.take?
    let (zone, s) := (takeZone? s).getD (0, s)
    let s ← takeChar? ']' s
    return (.v6 address zone, s)

/-- The socket address that a text stands for. -/
def parse? (text : String) : Option SocketAddress := do
  let (address, s) ← takeHost? text.toList
  let (_, port, rest) ← takeChar? ':' s >>= takeNumber? 10
  if port < UInt16.size && rest.isEmpty then some { address, port := port.toUInt16 } else none

end SocketAddress

end QuorumRing
