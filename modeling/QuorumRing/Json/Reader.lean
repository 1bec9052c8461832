import QuorumRing.Json.Token

/-!
# Reading JSON

Tokens are put together by a stack machine: each open array or object is a frame that holds what was
read of it so far, and each token either fits what is expected next or ends the reading.

An object is read with its members sorted by key, and of two members with the same key the later one
counts.
-/

namespace QuorumRing.Json

/-- An array or object that has begun and not ended. Items and members are held in reverse. -/
inductive Frame where
  /-- An array. -/
  | array (items : List Json)
  /-- An object, with the key whose value is to come. -/
  | object (members : List (String × Json)) (key : String)

/-- What may come next. -/
inductive Expected where
  /-- A value. -/
  | value
  /-- A value or the end of the array. -/
  | item
  /-- A key. -/
  | key
  /-- A key or the end of the object. -/
  | member
  /-- A colon. -/
  | colon
  /-- A comma or the end of the container. -/
  | separator

/-- How to read a value. -/
structure Mode where
  /-- Containers may be nested less deep than this. -/
  depth : Option Nat := none
  /-- Whether texts with half of a surrogate pair and numbers that are too large are let pass. Then
  the value read is of no use. -/
  lenient : Bool := false

/-- A reading under way. -/
structure Reading where
  /-- The open containers, innermost first. -/
  frames : List Frame := []
  /-- What may come next. -/
  expected : Expected := .value

/-- What a token does to a reading. -/
inductive Progress where
  /-- The reading goes on. -/
  | more (reading : Reading)
  /-- The value is complete. -/
  | done (value : Json)

/-- The value of a token that is a value by itself. -/
def Token.scalar? : Token → Option Json
  | .null => some .null
  | .bool b => some (.bool b)
  | .number literal => literal.value?.map .number
  | .string s => s.map .string
  | _ => none

/-- Whether a token is a value by itself. -/
def Token.isScalar : Token → Bool
  | .null | .bool _ | .number _ | .string _ => true
  | _ => false

/-- Puts a complete value in its place. -/
def accept (value : Json) : List Frame → Progress
  | [] => .done value
  | .array items :: frames =>
    .more { frames := .array (value :: items) :: frames, expected := .separator }
  | .object members key :: frames =>
    .more { frames := .object ((key, value) :: members) "" :: frames, expected := .separator }

/-- Begins a container. -/
def enter (mode : Mode) (frame : Frame) (expected : Expected) (frames : List Frame) :
    Option Progress :=
  if mode.depth.all (frames.length + 1 < ·) then
    some (.more { frames := frame :: frames, expected })
  else none

/-- Reads a token where a value may stand. -/
def readValue (mode : Mode) (frames : List Frame) : Token → Option Progress
  | .openArray => enter mode (.array []) .item frames
  | .openObject => enter mode (.object [] "") .member frames
  | token =>
    match token.scalar? with
    | some value => some (accept value frames)
    | none => if mode.lenient && token.isScalar then some (accept .null frames) else none

/-- Reads a token where a key may stand. -/
def readKey (mode : Mode) : List Frame → Token → Option Progress
  | .object members _ :: frames, .string (some key) =>
    some (.more { frames := .object members key :: frames, expected := .colon })
  | frames, .string none =>
    if mode.lenient then some (.more { frames, expected := .colon }) else none
  | _, _ => none

/-- Reads a token. -/
def Reading.read (mode : Mode) (reading : Reading) (token : Token) : Option Progress :=
  match reading.expected, reading.frames, token with
  | .value, frames, token => readValue mode frames token
  | .item, .array items :: frames, .closeArray => some (accept (.array items.reverse) frames)
  | .item, frames, token => readValue mode frames token
  | .key, frames, token => readKey mode frames token
  | .member, .object members _ :: frames, .closeObject =>
    some (accept (.object (sortMembers members.reverse)) frames)
  | .member, frames, token => readKey mode frames token
  | .colon, frames, .colon => some (.more { frames, expected := .value })
  | .separator, .array items :: frames, .comma =>
    some (.more { frames := .array items :: frames, expected := .value })
  | .separator, .array items :: frames, .closeArray => some (accept (.array items.reverse) frames)
  | .separator, .object members key :: frames, .comma =>
    some (.more { frames := .object members key :: frames, expected := .key })
  | .separator, .object members _ :: frames, .closeObject =>
    some (accept (.object (sortMembers members.reverse)) frames)
  | _, _, _ => none

/-- Goes on with a reading until the value is complete. The answer is the value and the tokens after
it. -/
def Reading.resume (mode : Mode) (reading : Reading) : List Token → Option (Json × List Token)
  | [] => none
  | token :: tokens =>
    match reading.read mode token with
    | none => none
    | some (.done value) => some (value, tokens)
    | some (.more reading) => resume mode reading tokens

/-- Reads a text that is one value. -/
def parse? (s : String) (depth : Option Nat := none) : Option Json :=
  match Reading.resume { depth } {} (tokens s) with
  | some (value, []) => some value
  | _ => none

end QuorumRing.Json
