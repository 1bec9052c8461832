import QuorumRing.Json.Reader
import QuorumRing.Settings.Decoding
import QuorumRing.Settings.Environment
import QuorumRing.Toml.Document
import QuorumRing.Tree.Decoding
import QuorumRing.Tree.Path

/-!
# Loading settings

The extension of its name says how a settings file is read: as TOML or as JSON. A file with another
extension is not read. The environment is laid over the file, and what neither of them sets has its
default. Whether the settings make sense is not looked at.
-/

namespace QuorumRing

/-- A file. -/
structure SettingsFile where
  /-- Its name. -/
  name : String
  /-- Its content. -/
  content : String

/-- How a file is read. -/
inductive FileFormat where
  /-- As TOML. -/
  | toml
  /-- As JSON. -/
  | json
deriving DecidableEq, Repr

namespace FileFormat

/-- The extension of the names of such files. -/
def extension : FileFormat → String
  | toml => "toml"
  | json => "json"

/-- All formats. -/
def all : List FileFormat := [toml, json]

/-- What stands behind the last point of a file's name, unless there is none or it is the first
character. Directories in front of the name do not count. -/
def extensionOf? (path : String) : Option String :=
  let name := path.toList.reverse.takeWhile (· ≠ '/')
  match name.span (· ≠ '.') with
  | (extension, _ :: _ :: _) => some (String.ofList extension.reverse)
  | _ => none

/-- The format of a file. -/
def ofName? (name : String) : Option FileFormat :=
  (extensionOf? name).bind fun extension => all.find? (·.extension = extension)

end FileFormat

mutual

/-- A JSON value as a value of a setting. A whole number of more than 63 bits is made a float. -/
def Json.toTree : Json → Tree
  | .null => .nil
  | .bool b => .bool b
  | .number (.natural n) => if n < Numeral.signedBound then .int n else .float n.toUInt64.toFloat
  | .number (.negative n) => .int (-n)
  | .number (.float x) => .float x
  | .string s => .text s
  | .array items => .list (Json.itemsToTrees items)
  | .object members => .table (Json.membersToTrees members)

/-- The items of an array as values of settings. -/
def Json.itemsToTrees : List Json → List Tree
  | [] => []
  | item :: items => item.toTree :: Json.itemsToTrees items

/-- The members of an object as values of settings. -/
def Json.membersToTrees : List (String × Json) → List (String × Tree)
  | [] => []
  | (name, value) :: members => (name, value.toTree) :: Json.membersToTrees members

end

namespace FileFormat

/-- The values that the content of a file sets. -/
def read? (content : String) : FileFormat → Option (List (String × Tree))
  | toml => Toml.parse? content
  | json =>
    match Json.parse? content (some 128) with
    | some (.object members) => some (Json.membersToTrees members)
    | _ => none

end FileFormat

namespace SettingsFile

/-- A path without the parts that stay where they are. -/
def plainPath (path : String) : String := "/".intercalate ((path.splitOn "/").filter (· ≠ "."))

/-- The format in which a file is read if a path is asked for. The file is the one with that name
or, if there is none, with an extension behind it. -/
def formatFor? (path : String) (file : SettingsFile) : Option FileFormat :=
  let path := plainPath path
  if path = file.name then FileFormat.ofName? path
  else FileFormat.all.find? fun format => path ++ "." ++ format.extension = file.name

/-- The values that the file at a path sets, if there is one and it is read at all. -/
def values (path : String) (file : Option SettingsFile) :
    Except LoadProblem (List (String × Tree)) :=
  match file.bind fun file => (file.formatFor? path).map (file, ·) with
  | none => .ok []
  | some (file, format) =>
    match format.read? file.content with
    | some values => .ok values
    | none => .error .unreadableFile

end SettingsFile

namespace Settings

/-- The name of the settings file, if no other is given. -/
def defaultFile : String := "ringkv.toml"

/-- The settings that come from the file at a path and the environment. `file` is the only file that
there is. -/
def load (path : String) (file : Option SettingsFile) (environment : List (String × String)) :
    Except LoadProblem Settings := do
  let values ← SettingsFile.values path file
  let tree := ((Tree.table []).overlay values).overlay (Environment.values environment)
  decode Tree.dataFormat tree

end Settings

end QuorumRing
