/-!
# Decoding records

Data comes in several formats, each with its own values and its own account of what is wrong with
one. `DataFormat` is what they have in common, and `DataFormat.record` decodes a record in any of
them: from its members by name, or from the list of the values of its fields in the order in which
they are declared. A field with a default may be left out.
-/

namespace QuorumRing

/-- What a value is made of. -/
inductive Shape (σ : Type) where
  /-- It has no parts. -/
  | scalar
  /-- It is a list. -/
  | list (items : List σ)
  /-- It has parts with names. -/
  | members (members : List (String × σ))

/-- A format with values in `σ` and problems in `ε`. What is expected of a value has a name, which
some formats put into their problems. -/
structure DataFormat (σ ε : Type) where
  /-- What a value is made of. -/
  shape : σ → Shape σ
  /-- The text that a value is. -/
  text : (expected : String) → σ → Except ε String
  /-- The whole number below a bound that a value is. -/
  natural : (bound : Nat) → (expected : String) → σ → Except ε Nat
  /-- A value is not made of the expected parts. -/
  wrongShape : (expected : String) → σ → ε
  /-- A list has not the expected length. -/
  wrongLength : (length : Nat) → (expected : String) → ε
  /-- A member is missing. -/
  missing : (name : String) → ε
  /-- A text does not stand for a value of the expected type. -/
  unreadable : (reason : String) → ε
  /-- A problem in a member, told from outside. -/
  inMember : (name : String) → ε → ε
  /-- A problem in an item, told from outside. -/
  inItem : (index : Nat) → ε → ε
  /-- Whether a list with more items than a record has fields is let pass. -/
  allowsSurplus : Bool

namespace DataFormat

variable {σ ε α β : Type}

/-- A field of a record of type `α`. -/
structure Field (σ ε α : Type) where
  /-- Its name. -/
  name : String
  /-- Whether it has a default. -/
  hasDefault : Bool
  /-- Decodes a value and puts it into the record. -/
  decode : σ → α → Except ε α

/-- A field whose value is decoded by `decoder`. -/
def field (name : String) (hasDefault : Bool) (decoder : σ → Except ε β) (put : β → α → α) :
    Field σ ε α where
  name := name
  hasDefault := hasDefault
  decode value record := (decoder value).map (put · record)

variable (format : DataFormat σ ε)

/-- Decodes the items of a list. `index` is the number of those before them. -/
def items (decoder : σ → Except ε α) (index : Nat) : List σ → Except ε (List α)
  | [] => .ok []
  | item :: rest => do
    let first ← (decoder item).mapError (format.inItem index)
    return first :: (← items decoder (index + 1) rest)

/-- Decodes a list. -/
def list (decoder : σ → Except ε α) (value : σ) : Except ε (List α) :=
  match format.shape value with
  | .list values => format.items decoder 0 values
  | _ => .error (format.wrongShape "a sequence" value)

/-- Puts members into a record. Unknown ones are ignored. -/
def fill (fields : List (Field σ ε α)) : List (String × σ) → α → Except ε α
  | [], record => .ok record
  | (name, value) :: members, record =>
    match fields.find? (·.name = name) with
    | none => fill fields members record
    | some field => do
      fill fields members (← (field.decode value record).mapError (format.inMember name))

/-- Puts the items of a list into a record. `index` is the number of fields before those left. -/
def fillInOrder (expected : String) (index : Nat) :
    List (Field σ ε α) → List σ → α → Except ε α
  | [], items, record =>
    if items.isEmpty || format.allowsSurplus then .ok record
    else .error (format.wrongLength (index + items.length) "fewer elements in array")
  | field :: fields, item :: items, record => do
    let record ← (field.decode item record).mapError (format.inItem index)
    fillInOrder expected (index + 1) fields items record
  | field :: fields, [], record =>
    if field.hasDefault then fillInOrder expected (index + 1) fields [] record
    else .error (format.wrongLength index expected)

/-- Decodes a record. Fields that are left out stay as they are in `start`. -/
def record (name : String) (fields : List (Field σ ε α)) (start : α) (value : σ) : Except ε α :=
  match format.shape value with
  | .members members => do
    let record ← format.fill fields members start
    match fields.find? fun field => !field.hasDefault && (members.lookup field.name).isNone with
    | some field => .error (format.missing field.name)
    | none => .ok record
  | .list items => format.fillInOrder s!"{name} with {fields.length} elements" 0 fields items start
  | .scalar => .error (format.wrongShape name value)

end DataFormat

end QuorumRing
