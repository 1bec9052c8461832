import QuorumRing.CommandLine.Options
import QuorumRing.Report
import QuorumRing.Settings.Loading
import QuorumRing.Settings.UnitSpec
import QuorumRing.Simulation
import QuorumRing.Time.Duration

/-!
# The commands

The program has two commands: `serve` answers requests, and `simulate` runs a simulation and prints
its report. Both take their settings from the settings file and the environment. Some options, which
may stand on either side of the command, change settings; of those that stand on both sides the one
behind the command counts.
-/

namespace QuorumRing.CommandLine

/-- The settings that options change. -/
structure Overrides where
  /-- The path of the settings file. -/
  file : Option String := none
  /-- The number of replicas. -/
  replicas : Option Nat := none
  /-- The number of positions of each unit. -/
  virtualNodes : Option Nat := none
  /-- The time to wait for an outcome of a write. -/
  writeTimeout : Option Duration := none
  /-- The units, if there are any. -/
  units : List UnitSpec := []
deriving DecidableEq, Repr

namespace Overrides

/-- What is given behind the command, and otherwise in front of it. -/
def combine (front behind : Overrides) : Overrides :=
  { file := behind.file <|> front.file
    replicas := behind.replicas <|> front.replicas
    virtualNodes := behind.virtualNodes <|> front.virtualNodes
    writeTimeout := behind.writeTimeout <|> front.writeTimeout
    units := if behind.units.isEmpty then front.units else behind.units }

/-- The whole milliseconds of a duration, as a number of 64 bits. -/
def timeoutMillis (duration : Duration) : Nat := duration.millis % UInt64.size

/-- The settings with what the options change. -/
def apply (overrides : Overrides) (settings : Settings) : Settings :=
  let coordinator := settings.coordinator
  { settings with
    coordinator :=
      { coordinator with
        replicationFactor := overrides.replicas.getD coordinator.replicationFactor
        virtualNodes := overrides.virtualNodes.getD coordinator.virtualNodes
        writeTimeout := (overrides.writeTimeout.map timeoutMillis).getD coordinator.writeTimeout }
    initialUnits := if overrides.units.isEmpty then settings.initialUnits else overrides.units }

end Overrides

/-- A command. -/
inductive Command where
  /-- Answer requests, at an address of its own if there is one. -/
  | serve (bindAddress : Option SocketAddress)
  /-- Run a simulation. -/
  | simulate (simulation : Simulation)
deriving DecidableEq, Repr

/-- The arguments of the program. -/
structure Invocation where
  /-- The settings that options change. -/
  overrides : Overrides
  /-- The command. -/
  command : Command
deriving DecidableEq, Repr

/-! ## Reading the arguments -/

/-- The options of a command: those of all commands, and its own. -/
structure Given (β : Type) where
  /-- The options of all commands. -/
  overrides : Overrides := {}
  /-- Its own options. -/
  own : β

/-- An option with a whole number. -/
def numberOption {α : Type} (name placeholder : String) (set : Nat → α → α) : OptionSpec α where
  name := name
  effect := .value placeholder fun option value settings =>
    match Numeral.natural UInt64.size value.toList with
    | .ok n => .ok (set n settings)
    | .error _ => .error (.malformed option value)

/-- The options of all commands. -/
def sharedOptions {β : Type} : List (OptionSpec (Given β)) :=
  let change (f : Overrides → Overrides) (given : Given β) : Given β :=
    { given with overrides := f given.overrides }
  [{ name := "config"
     effect := .value "CONFIG" fun option path given =>
       if path.isEmpty then .error (.missingValue option)
       else .ok (change (fun o => { o with file := some path }) given) },
    numberOption "replicas" "REPLICAS" fun n => change fun o => { o with replicas := some n },
    numberOption "virtual-nodes" "VIRTUAL_NODES" fun n =>
      change fun o => { o with virtualNodes := some n },
    { name := "write-timeout"
      effect := .value "WRITE_TIMEOUT" fun option text given =>
        match Duration.parse text with
        | .ok duration => .ok (change (fun o => { o with writeTimeout := some duration }) given)
        | .error e => .error (.rejected option text e.message) },
    { name := "node"
      repeatable := true
      effect := .value "NODES" fun option text given =>
        match UnitSpec.parse text with
        | .ok unit => .ok (change (fun o => { o with units := o.units ++ [unit] }) given)
        | .error problem => .error (.rejected option text problem.message) },
    { name := "help", letter := some 'h', effect := .stop .help }]

/-- The options that stand in front of the command. -/
def frontOptions : List (OptionSpec (Given Unit)) :=
  { name := "version", letter := some 'V', effect := .stop .version } :: sharedOptions

/-- The options of the command that answers requests. -/
def serveOptions : List (OptionSpec (Given (Option SocketAddress))) :=
  { name := "bind"
    effect := .value "BIND" fun option text given =>
      match SocketAddress.parse? text with
      | some address => .ok { given with own := some address }
      | none => .error (.malformed option text) } :: sharedOptions

/-- The options of the command that runs a simulation. -/
def simulateOptions : List (OptionSpec (Given Simulation)) :=
  let change (f : Simulation → Simulation) (given : Given Simulation) : Given Simulation :=
    { given with own := f given.own }
  [numberOption "keys" "KEYS" fun keys => change fun s => { s with keys },
    numberOption "writers" "WRITERS" fun writers => change fun s => { s with writers },
    numberOption "units" "UNITS" fun units => change fun s => { s with units },
    { name := "grow", effect := .flag (change fun s => { s with grow := true }) }] ++ sharedOptions

/-- Reads the arguments behind a command. -/
def readCommand {β : Type} (specs : List (OptionSpec (Given β))) (own : β)
    (arguments : List String) : Except Stop (Given β) := do
  let (reading, _) ← Reading.readAll specs [] { settings := { own } } arguments
  return (← reading.settle).settings

/-- The names of all commands. -/
def commandNames : List String := ["serve", "simulate", "help"]

/-- What comes of asking for help: at most one command may be named. -/
def askForHelp : List String → Stop
  | [] => .help
  | [name] => if commandNames.contains name then .help else .refused (.unexpected name)
  | name :: next :: _ => .refused (.unexpected (if commandNames.contains name then next else name))

/-- Reads the arguments of the program. -/
def Invocation.parse (arguments : List String) : Except Stop Invocation := do
  let (reading, next) ←
    Reading.readAll frontOptions commandNames { settings := { own := () } } arguments
  let (behind, command) : Overrides × Option Command ←
    match next with
    | some ("serve", rest) => do
      let given ← readCommand serveOptions none rest
      pure (given.overrides, some (Command.serve given.own))
    | some ("simulate", rest) => do
      let given ← readCommand simulateOptions {} rest
      pure (given.overrides, some (Command.simulate given.own))
    | some (_, rest) => .error (askForHelp rest)
    | none => pure ({}, none)
  let front := (← reading.settle).settings.overrides
  match command with
  | some command => return { overrides := front.combine behind, command }
  | none => .error (.refused .noCommand)

/-! ## Running a command -/

/-- What a run of the program comes to. -/
inductive Outcome where
  /-- It prints a text. -/
  | printed (text : String)
  /-- It prints the report of a simulation. -/
  | report (report : SimulationReport)
  /-- It answers requests. -/
  | serving (settings : Settings)
  /-- The arguments are refused. -/
  | refused (refusal : Refusal)
  /-- It fails. -/
  | failed (e : Error)

/-- The exit status. -/
def Outcome.exitCode : Outcome → Nat
  | printed _ | report _ | serving _ => 0
  | failed _ => 1
  | refused _ => 2

/-- The settings of a command, before they are looked at. -/
def Invocation.settings (invocation : Invocation) (file : Option SettingsFile)
    (environment : List (String × String)) : Except LoadProblem Settings := do
  let path := invocation.overrides.file.getD Settings.defaultFile
  return invocation.overrides.apply (← Settings.load path file environment)

/-- Runs a command. -/
def Command.run (settings : Settings) : Command → Except Error Outcome
  | serve bindAddress => do
    let coordinator := settings.coordinator
    let settings :=
      { settings with
        coordinator :=
          { coordinator with bindAddress := bindAddress.getD coordinator.bindAddress } }
    settings.validate
    return .serving settings
  | simulate simulation => do
    let settings := simulation.populate settings
    settings.validate
    return .report (simulation.run settings)

/-- The version as the program prints it. -/
def versionText : String := "ringkv-coord " ++ version ++ "\n"

/-- The explanation of the arguments. -/
def helpText : String :=
  "Usage: ringkv-coord [OPTIONS] <COMMAND>\n\n" ++
  "Commands:\n" ++
  "  serve     Answer requests\n" ++
  "  simulate  Run a simulated load and print a report\n\n" ++
  "Options:\n" ++
  "  --config <CONFIG>                The settings file\n" ++
  "  --replicas <REPLICAS>            The number of replicas of each key\n" ++
  "  --virtual-nodes <VIRTUAL_NODES>  The number of positions of each unit\n" ++
  "  --write-timeout <WRITE_TIMEOUT>  How long to wait for a write, such as 500ms or 5s\n" ++
  "  --node <NODES>                   A unit to start with, as id@host:port\n" ++
  "  -h, --help                       Print this text\n" ++
  "  -V, --version                    Print the version\n"

/-- Runs the program. -/
def run (arguments : List String) (file : Option SettingsFile)
    (environment : List (String × String)) : Outcome :=
  match Invocation.parse arguments with
  | .error .version => .printed versionText
  | .error .help => .printed helpText
  | .error (.refused refusal) => .refused refusal
  | .ok invocation =>
    match invocation.settings file environment with
    | .error problem => .failed (.config problem)
    | .ok settings =>
      match invocation.command.run settings with
      | .ok outcome => outcome
      | .error e => .failed e

end QuorumRing.CommandLine
