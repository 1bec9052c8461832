import QuorumRing.Text.DecimalNumber
import QuorumRing.Tree.Basic

/-!
# Settings from the environment

A variable whose name begins with `namePrefix`, in any case, sets a value. The rest of its name, in
lower case and with a point in place of each double underscore, is the path of the value.
-/

namespace QuorumRing.Environment

/-- What the names of variables begin with. -/
def namePrefix : List Char := "ringkv__".toList

/-- The character in lower case, if that is an ASCII character. So it is for the ASCII letters and
for the sign of the unit kelvin. -/
def lowerChar (c : Char) : Char := if c = '\u212a' then 'k' else c.toLower

/-- The text with a point in place of each double underscore, from the left. -/
def separate : List Char → List Char
  | '_' :: '_' :: rest => '.' :: separate rest
  | c :: rest => c :: separate rest
  | [] => []

/-- The path that the name of a variable stands for, unless the variable is none of ours. -/
def path? (name : String) : Option String :=
  let lower := name.toList.map lowerChar
  if namePrefix.isPrefixOf lower then
    some (String.ofList (separate (lower.drop namePrefix.length)))
  else none

/-- The value that the text of a variable stands for: a truth value, a whole number of 64 bits, a
floating-point number, or the text itself, whichever is the first that fits. -/
def value (text : String) : Tree :=
  let lower := text.map Char.toLower
  if lower = "true" then .bool true
  else if lower = "false" then .bool false
  else
    match Numeral.signed Numeral.signedBound text.toList with
    | .ok n => .int n
    | .error _ =>
      match floatOfText? text with
      | some x => .float x
      | none => .text text

/-- The values that an environment sets, by their paths. Of two variables for the same path the
later one counts. -/
def values (environment : List (String × String)) : List (String × Tree) :=
  environment.foldl
    (fun values (name, text) =>
      match path? name with
      | some path => Tree.setMember path (value text) values
      | none => values)
    []

end QuorumRing.Environment
