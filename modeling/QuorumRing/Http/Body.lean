import QuorumRing.Json.Reader

/-!
# Request bodies

A request body is an object with certain members, or an array of their values in a fixed order. It
is read token by token, and the first thing that is wrong decides how it is refused: as text that is
not JSON, or as JSON of the wrong form. What follows the body's value is not read.
-/

namespace QuorumRing.Http

/-- Why a body is refused. -/
inductive BodyError where
  /-- It is not JSON. -/
  | malformed
  /-- It is JSON, but not of the expected form. -/
  | unfit
deriving DecidableEq, Repr

/-- The form of a member. -/
inductive FieldKind where
  /-- A text. -/
  | text
  /-- A whole number of at most 16 bits. -/
  | port
deriving DecidableEq, Repr

/-- The value of a member. -/
inductive FieldValue where
  /-- A text. -/
  | text (s : String)
  /-- A whole number of at most 16 bits. -/
  | port (n : UInt16)
deriving DecidableEq, Repr

/-- The members of a body: name and form of each. -/
abbrev Fields := List (String × FieldKind)

/-- Reads the value of a member. -/
def FieldKind.read (kind : FieldKind) (token : Json.Token) : Except BodyError FieldValue :=
  match kind, token with
  | _, .openObject | _, .openArray => .error .unfit
  | kind, token =>
    match token.scalar?, kind with
    | none, _ => .error .malformed
    | some (.string s), .text => .ok (.text s)
    | some (.number (.natural n)), .port =>
      if n < UInt16.size then .ok (.port n.toUInt16) else .error .unfit
    | some _, _ => .error .unfit

/-- The members read so far, by name. -/
abbrev Found := List (String × FieldValue)

/-- The place in a body at which the next token stands. -/
inductive BodyPlace where
  /-- The first token. -/
  | start
  /-- A key or the end of the object. -/
  | member
  /-- A key. -/
  | key
  /-- The colon behind the key of a member, if it is one of the fields. -/
  | colon (field : Option (String × FieldKind))
  /-- The value of a field. -/
  | value (field : String × FieldKind)
  /-- Inside the value of a member that is none of the fields. -/
  | skip (reading : Json.Reading)
  /-- A comma or the end of the object. -/
  | separator
  /-- The value of the first field, or the end of the array. -/
  | firstItem
  /-- The value of the next field. -/
  | item
  /-- A comma or the end of the array. -/
  | itemSeparator

/-- Goes on with reading a body from a place in it. `pending` are the fields whose values an array
has still to give. -/
def readBody (fields : Fields) :
    BodyPlace → (pending : Fields) → Found → List Json.Token → Except BodyError Found
  | _, _, _, [] => .error .malformed
  | .start, _, found, token :: tokens =>
    match token with
    | .openObject => readBody fields .member [] found tokens
    | .openArray => readBody fields .firstItem fields found tokens
    | token => if token.scalar?.isSome then .error .unfit else .error .malformed
  | .member, pending, found, token :: tokens =>
    match token with
    | .closeObject => finish found
    | token => readKey pending found token tokens
  | .key, pending, found, token :: tokens => readKey pending found token tokens
  | .colon field, pending, found, token :: tokens =>
    match token, field with
    | .colon, some field => readBody fields (.value field) pending found tokens
    | .colon, none => readBody fields (.skip {}) pending found tokens
    | _, _ => .error .malformed
  | .value (name, kind), pending, found, token :: tokens =>
    match kind.read token with
    | .ok value => readBody fields .separator pending (found ++ [(name, value)]) tokens
    | .error e => .error e
  | .skip reading, pending, found, token :: tokens =>
    match reading.read { lenient := true } token with
    | some (.done _) => readBody fields .separator pending found tokens
    | some (.more reading) => readBody fields (.skip reading) pending found tokens
    | none => .error .malformed
  | .separator, pending, found, token :: tokens =>
    match token with
    | .comma => readBody fields .key pending found tokens
    | .closeObject => finish found
    | _ => .error .malformed
  | .firstItem, pending, found, token :: tokens =>
    match token with
    | .closeArray => .error .unfit
    | token => readItem pending found token tokens
  | .item, pending, found, token :: tokens => readItem pending found token tokens
  | .itemSeparator, pending, found, token :: tokens =>
    match token, pending with
    | .closeArray, [] => finish found
    | .closeArray, _ :: _ => .error .unfit
    | .comma, _ :: _ => readBody fields .item pending found tokens
    | _, _ => .error .malformed
where
  /-- The fields are complete if all of them were found. -/
  finish (found : Found) : Except BodyError Found :=
    if fields.all fun field => (found.lookup field.1).isSome then .ok found else .error .unfit
  /-- Reads the key of a member. A field may not come twice. -/
  readKey (pending : Fields) (found : Found) (token : Json.Token) (tokens : List Json.Token) :
      Except BodyError Found :=
    match token with
    | .string (some key) =>
      if (found.lookup key).isSome then .error .unfit
      else
        readBody fields (.colon ((fields.lookup key).map fun kind => (key, kind))) pending found
          tokens
    | _ => .error .malformed
  /-- Reads the value of the next field of an array. -/
  readItem (pending : Fields) (found : Found) (token : Json.Token) (tokens : List Json.Token) :
      Except BodyError Found :=
    match pending with
    | [] => .error .malformed
    | (name, kind) :: pending =>
      match kind.read token with
      | .ok value => readBody fields .itemSeparator pending (found ++ [(name, value)]) tokens
      | .error e => .error e

/-- Reads a body with the given fields. -/
def decodeBody (fields : Fields) (body : String) : Except BodyError Found :=
  readBody fields .start [] [] (Json.tokens body)

/-- The text of a field. -/
def Found.text (found : Found) (name : String) : String :=
  match found.lookup name with
  | some (.text s) => s
  | _ => ""

/-- The number of a field. -/
def Found.port (found : Found) (name : String) : UInt16 :=
  match found.lookup name with
  | some (.port n) => n
  | _ => 0

end QuorumRing.Http
