/-!
# Reading options

A command has options, which are written `--name` if they have no value and `--name value` or
`--name=value` if they have one. `Reading.readAll` reads the arguments of a command from the left,
up to the name of a subcommand.

A value that comes as an argument of its own is looked at when the next option begins or when there
are no more arguments. Before that an argument that cannot be read at all is refused.
-/

namespace QuorumRing.CommandLine

/-- Why arguments are refused. -/
inductive Refusal where
  /-- There is no such option or subcommand, or there are too many arguments. -/
  | unexpected (argument : String)
  /-- An option has no value. -/
  | missingValue (option : String)
  /-- An option that takes no value is given one. -/
  | needlessValue (option : String)
  /-- An option is given more than once. -/
  | repeated (option : String)
  /-- A value is no number, no address or no path. -/
  | malformed (option value : String)
  /-- A value describes no unit or no duration. -/
  | rejected (option value reason : String)
  /-- There is no subcommand. -/
  | noCommand
deriving DecidableEq, Repr

/-- The refusal in words. -/
def Refusal.message : Refusal → String
  | unexpected argument => s!"error: unexpected argument '{argument}'"
  | missingValue option => s!"error: a value is required for '{option}'"
  | needlessValue option => s!"error: no value can be given for '{option}'"
  | repeated option => s!"error: the argument '{option}' cannot be used multiple times"
  | malformed option value => s!"error: invalid value '{value}' for '{option}'"
  | rejected option value reason => s!"error: invalid value '{value}' for '{option}': {reason}"
  | noCommand => "error: a subcommand is required"

/-- Why the reading of arguments ends early. -/
inductive Stop where
  /-- The arguments are refused. -/
  | refused (refusal : Refusal)
  /-- The version is asked for. -/
  | version
  /-- An explanation is asked for. -/
  | help
deriving DecidableEq, Repr

/-- What an option does to the settings `α` of a command. -/
inductive Effect (α : Type) where
  /-- It has no value. -/
  | flag (set : α → α)
  /-- It has a value, for which the placeholder stands in messages. -/
  | value (placeholder : String) (set : (option value : String) → α → Except Refusal α)
  /-- It ends the reading. -/
  | stop (stop : Stop)

/-- An option of a command. -/
structure OptionSpec (α : Type) where
  /-- Its name. -/
  name : String
  /-- Its short name. -/
  letter : Option Char := none
  /-- Whether it may be given more than once. -/
  repeatable : Bool := false
  /-- What it does. -/
  effect : Effect α

variable {α : Type}

/-- The option as messages show it. -/
def OptionSpec.shown (spec : OptionSpec α) : String :=
  match spec.effect with
  | .value placeholder _ => s!"--{spec.name} <{placeholder}>"
  | .flag _ | .stop _ => "--" ++ spec.name

/-- What was read of the arguments of a command. -/
structure Reading (α : Type) where
  /-- The settings made so far. -/
  settings : α
  /-- The names of the options looked at. -/
  given : List String := []
  /-- The last option, if it was not looked at yet, and its value, if that has come. -/
  pending : Option (OptionSpec α × Option String) := none

namespace Reading

/-- Whether the next argument is the value of an option. -/
def awaitsValue (r : Reading α) : Bool :=
  match r.pending with
  | some (_, none) => true
  | _ => false

/-- Lets an option take effect. -/
def enact (r : Reading α) (spec : OptionSpec α) (value : Option String) :
    Except Stop (Reading α) :=
  let isRepeated := !spec.repeatable && r.given.contains spec.name
  let done (settings : α) : Reading α := { settings, given := spec.name :: r.given }
  match spec.effect, value with
  | .stop stop, _ => .error stop
  | .flag set, _ =>
    if isRepeated then .error (.refused (.repeated spec.shown)) else .ok (done (set r.settings))
  | .value .., none => .error (.refused (.missingValue spec.shown))
  | .value _ set, some value =>
    if isRepeated then .error (.refused (.repeated spec.shown))
    else
      match set spec.shown value r.settings with
      | .ok settings => .ok (done settings)
      | .error refusal => .error (.refused refusal)

/-- Looks at the last option. -/
def settle (r : Reading α) : Except Stop (Reading α) :=
  match r.pending with
  | some (spec, value) => enact { r with pending := none } spec value
  | none => .ok r

/-- Begins an option, whose value may be part of the argument. -/
def takeOption (r : Reading α) (spec : OptionSpec α) (attached : Option String) :
    Except Stop (Reading α) :=
  match spec.effect, attached with
  | .value .., none => do return { ← r.settle with pending := some (spec, none) }
  | .value .., some value => do (← r.settle).enact spec (some value)
  | _, none => do (← r.settle).enact spec none
  | _, some _ => .error (.refused (.needlessValue spec.shown))

/-- The name and the value of an option of which the dashes are taken off. -/
def splitAttached (s : List Char) : String × Option String :=
  match s.span (· ≠ '=') with
  | (name, []) => (String.ofList name, none)
  | (name, _ :: value) => (String.ofList name, some (String.ofList value))

/-- Takes one argument that is neither the name of a subcommand nor the end of the options. -/
def takeArgument (specs : List (OptionSpec α)) (r : Reading α) (argument : String) :
    Except Stop (Reading α) :=
  let unexpected : Except Stop (Reading α) := .error (.refused (.unexpected argument))
  match argument.toList with
  | '-' :: '-' :: s =>
    let (name, attached) := splitAttached s
    match specs.find? (·.name = name) with
    | some spec => r.takeOption spec attached
    | none => unexpected
  | '-' :: letter :: _ =>
    match specs.find? (·.letter = some letter) with
    | some spec => r.takeOption spec none
    | none => unexpected
  | _ =>
    match r.pending with
    | some (spec, none) => .ok { r with pending := some (spec, some argument) }
    | _ => unexpected

/-- Reads arguments up to the name of a subcommand. The answer holds that name and the arguments
behind it. -/
def readAll (specs : List (OptionSpec α)) (commands : List String) (r : Reading α) :
    List String → Except Stop (Reading α × Option (String × List String))
  | [] => .ok (r, none)
  | argument :: rest =>
    if !r.awaitsValue && commands.contains argument then .ok (r, some (argument, rest))
    else if argument = "--" then
      match rest with
      | [] => .ok (r, none)
      | next :: _ => .error (.refused (.unexpected next))
    else do readAll specs commands (← r.takeArgument specs argument) rest

end Reading

end QuorumRing.CommandLine
