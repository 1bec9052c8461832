import QuorumRing.Text.Numeral

/-!
# Internet addresses

The addresses of both versions of the protocol, their texts and how these are read. A reader takes
what it can from the front of a text and gives back the rest.

An address of version 6 is eight groups of 16 bits. Its text may leave out one run of zero groups,
which `::` stands for, and may give the last two groups as an address of version 4. The text that is
written leaves out the longest run of at least two zero groups, the first of several, and has an
address of version 4 in it exactly if the address is a mapped one.
-/

namespace QuorumRing

/-- An address of version 4: four bytes. -/
structure IPv4 where
  /-- The first byte. -/
  a : UInt8
  /-- The second byte. -/
  b : UInt8
  /-- The third byte. -/
  c : UInt8
  /-- The last byte. -/
  d : UInt8
deriving DecidableEq, Repr

/-- An address of version 6: eight groups. -/
structure IPv6 where
  /-- The groups. -/
  groups : List UInt16
  /-- There are eight of them. -/
  length_groups : groups.length = 8
deriving DecidableEq, Repr

/-- An internet address. -/
inductive IpAddress where
  /-- An address of version 4. -/
  | v4 (address : IPv4)
  /-- An address of version 6, and the zone it belongs to, or zero. -/
  | v6 (address : IPv6) (zone : UInt32)
deriving DecidableEq, Repr

open Text (takeChar? takeNumber?)

namespace IPv4

/-- Takes a byte in decimal, without leading zeros. -/
def takeByte? (s : List Char) : Option (UInt8 × List Char) := do
  let (digits, n, rest) ← takeNumber? 10 s
  if n < 256 && (digits.length = 1 || digits.head? ≠ some '0') then some (n.toUInt8, rest) else none

/-- Takes an address from the front of a text. -/
def take? (s : List Char) : Option (IPv4 × List Char) := do
  let (a, s) ← takeByte? s
  let (b, s) ← takeChar? '.' s >>= takeByte?
  let (c, s) ← takeChar? '.' s >>= takeByte?
  let (d, s) ← takeChar? '.' s >>= takeByte?
  return ({ a, b, c, d }, s)

/-- The text of an address. -/
def text (address : IPv4) : String :=
  ".".intercalate ([address.a, address.b, address.c, address.d].map fun byte => toString byte.toNat)

/-- The address as two groups. -/
def groups (address : IPv4) : List UInt16 :=
  [address.a.toUInt16 * 256 + address.b.toUInt16, address.c.toUInt16 * 256 + address.d.toUInt16]

/-- The address that two groups stand for. -/
def ofGroups (high low : UInt16) : IPv4 :=
  { a := (high / 256).toUInt8, b := high.toUInt8, c := (low / 256).toUInt8, d := low.toUInt8 }

end IPv4

namespace IPv6

/-- Takes a group of at most four hexadecimal digits. -/
def takeGroup? (s : List Char) : Option (UInt16 × List Char) := do
  let (digits, n, rest) ← takeNumber? 16 s
  if digits.length ≤ 4 then some (n.toUInt16, rest) else none

/-- Takes at most so many groups with colons in between; if `first` does not hold, there is one in
front as well. An address of version 4 ends them, which the flag in the answer tells. -/
def takeGroups : Nat → (first : Bool) → List Char → List UInt16 × Bool × List Char
  | 0, _, s => ([], false, s)
  | room + 1, first, s =>
    match if first then some s else takeChar? ':' s with
    | none => ([], false, s)
    | some next =>
      match if room = 0 then none else IPv4.take? next with
      | some (address, rest) => (address.groups, true, rest)
      | none =>
        match takeGroup? next with
        | none => ([], false, s)
        | some (group, rest) =>
          let (groups, embedded, rest) := takeGroups room false rest
          (group :: groups, embedded, rest)

/-- The address with the given groups, if there are eight. -/
def ofGroups? (groups : List UInt16) : Option IPv6 :=
  if length_groups : groups.length = 8 then some { groups, length_groups } else none

/-- Takes an address from the front of a text. -/
def take? (s : List Char) : Option (IPv6 × List Char) := do
  let (head, embedded, s) := takeGroups 8 true s
  if head.length = 8 then return (← ofGroups? head, s)
  if embedded then none
  let s ← takeChar? ':' s >>= takeChar? ':'
  let (tail, _, s) := takeGroups (7 - head.length) true s
  let gap := List.replicate (8 - head.length - tail.length) 0
  return (← ofGroups? (head ++ gap ++ tail), s)

/-- The text of groups. -/
def groupsText (groups : List UInt16) : String :=
  ":".intercalate (groups.map fun group => String.ofList (Nat.toDigits 16 group.toNat))

/-- The number of zero groups at the front. -/
def zeroRun (groups : List UInt16) : Nat := (groups.takeWhile (· = 0)).length

/-- Start and length of the longest run of zero groups, the first of several. -/
def longestRun (groups : List UInt16) : Nat × Nat :=
  (List.range groups.length).foldl
    (fun best start =>
      let length := zeroRun (groups.drop start)
      if best.2 < length then (start, length) else best)
    (0, 0)

/-- The text of an address. -/
def text (address : IPv6) : String :=
  match address.groups with
  | [0, 0, 0, 0, 0, 0xffff, high, low] => "::ffff:" ++ (IPv4.ofGroups high low).text
  | groups =>
    let (start, length) := longestRun groups
    if 1 < length then
      groupsText (groups.take start) ++ "::" ++ groupsText (groups.drop (start + length))
    else groupsText groups

end IPv6

end QuorumRing
