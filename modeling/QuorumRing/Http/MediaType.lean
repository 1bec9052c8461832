/-!
# Media types

A media type is a type and a subtype, joined by a slash, and parameters, each after a semicolon. The
part of a subtype behind its last plus sign is its suffix.
-/

namespace QuorumRing

/-- A media type, in lower case and without its parameters. -/
structure MediaType where
  /-- The type. -/
  type : String
  /-- The subtype, without its suffix. -/
  subtype : String
  /-- The suffix. -/
  suffix : Option String
deriving DecidableEq, Repr

namespace MediaType

/-- Whether a character may stand in a name. -/
def isToken (c : Char) : Bool :=
  c.isAlphanum || "!#$%&'*+-.^_\x60|~".toList.contains c

/-- What may follow in a list of parameters. -/
inductive Place where
  /-- A name, or blanks before it. -/
  | start
  /-- More of a name. -/
  | name
  /-- A value. -/
  | value
  /-- More of a value. -/
  | inValue
  /-- More of a value in quotation marks, of which nothing was read. -/
  | quoted
  /-- More of a value in quotation marks. -/
  | inQuoted
  /-- Blanks after a value in quotation marks. -/
  | afterQuoted

/-- Whether parameters are well formed, from a place in them on. -/
def parametersOk : Place → List Char → Bool
  | .start, [] => true
  | .start, c :: rest => if c = ' ' then parametersOk .start rest
    else isToken c && parametersOk .name rest
  | .name, [] => false
  | .name, c :: rest => if c = '=' then parametersOk .value rest
    else isToken c && parametersOk .name rest
  | .value, [] => true
  | .value, c :: rest => if c = '"' then parametersOk .quoted rest
    else isToken c && parametersOk .inValue rest
  | .inValue, [] => true
  | .inValue, c :: rest => if c = ';' then parametersOk .start rest
    else isToken c && parametersOk .inValue rest
  | .quoted, [] => false
  | .quoted, c :: rest => 31 < c.toNat && c.toNat != 127 && parametersOk .inQuoted rest
  | .inQuoted, [] => false
  | .inQuoted, c :: rest => if c = '"' then parametersOk .afterQuoted rest
    else 31 < c.toNat && c.toNat != 127 && parametersOk .inQuoted rest
  | .afterQuoted, [] => true
  | .afterQuoted, c :: rest => if c = ';' then parametersOk .start rest
    else c = ' ' && parametersOk .afterQuoted rest

/-- Cuts a subtype at its last plus sign, unless it begins with that. -/
def splitSuffix (subtype : List Char) : List Char × Option (List Char) :=
  let suffix := (subtype.reverse.takeWhile (· != '+')).reverse
  let rest := subtype.take (subtype.length - suffix.length - 1)
  if suffix.length < subtype.length && !rest.isEmpty then (rest, some suffix) else (subtype, none)

/-- Reads a media type. Only visible ASCII characters and blanks may stand in it. -/
def parse? (s : String) : Option MediaType :=
  let cs := s.toList
  let (type, rest) := (cs.takeWhile (· != '/'), (cs.dropWhile (· != '/')).drop 1)
  let (subtype, parameters) := (rest.takeWhile (· != ';'), (rest.dropWhile (· != ';')).drop 1)
  let lower (cs : List Char) := (String.ofList cs).toLower
  if cs.all (fun c => c.toNat < 128) && cs.contains '/' && !type.isEmpty && type.all isToken &&
      !subtype.isEmpty && subtype.all isToken && parametersOk .start parameters then
    let (subtype, suffix) := splitSuffix subtype
    some { type := lower type, subtype := lower subtype, suffix := suffix.map lower }
  else none

/-- Whether the media type is that of JSON, or of a format based on it. -/
def isJson (m : MediaType) : Bool :=
  m.type = "application" && (m.subtype = "json" || m.suffix = some "json")

end MediaType

end QuorumRing
