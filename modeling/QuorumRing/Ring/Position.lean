import QuorumRing.Digest.Blake3

/-!
# Positions on the ring

A position is a 32-bit word. Keys and the labels of virtual nodes are placed by their digest: the
position is the number that its first four bytes spell, high byte first.
-/

namespace QuorumRing

/-- A point on the ring. -/
abbrev Position := UInt32

namespace Position

/-- The number spelled by the first four bytes, high byte first. -/
def ofBigEndian : List UInt8 → Position
  | a :: b :: c :: d :: _ =>
    (a.toUInt32 <<< 24) ||| (b.toUInt32 <<< 16) ||| (c.toUInt32 <<< 8) ||| d.toUInt32
  | _ => 0

/-- The position of a string of bytes. -/
def ofBytes (bytes : List UInt8) : Position := ofBigEndian (Blake3.digest bytes)

/-- The position of a text, by its UTF-8 bytes. -/
def ofString (s : String) : Position := ofBytes s.toUTF8.toList

end Position

/-- The label of a virtual node of a unit. -/
def virtualNodeLabel (id : String) (index : Nat) : String := id ++ ":" ++ toString index

/-- The positions of the first `count` virtual nodes of a unit, by index. -/
def virtualNodePositions (id : String) (count : Nat) : List Position :=
  (List.range count).map fun index => Position.ofString (virtualNodeLabel id index)

end QuorumRing
