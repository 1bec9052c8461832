import QuorumRing.Text.Printable

/-!
# Errors

Every failure of the store is one of the causes below. `Error.message` holds their wording,
`Error.isRetryable` says whether the same request may succeed later.

In the reasons why settings cannot be loaded, a setting is named by its path: the names of the tables
around it and its own, with dots in between.
-/

namespace QuorumRing

/-- Why settings cannot be loaded. -/
inductive LoadProblem where
  /-- A reason given in words. -/
  | told (reason : String)
  /-- A setting without a default is missing. -/
  | missingField (path : String)
  /-- The settings file does not follow its format. -/
  | unreadableFile
  /-- A value cannot be taken as a value of the type of the setting. -/
  | wrongType (path : String)
  /-- A table, list or address is not of the form of the setting. -/
  | wrongShape (path : String)
deriving DecidableEq, Repr

/-- The problem in words. -/
def LoadProblem.message : LoadProblem → String
  | told reason => reason
  | missingField path => "missing configuration field " ++ Text.quoted path
  | unreadableFile => "the configuration file cannot be read"
  | wrongType path => "invalid type for configuration field " ++ Text.quoted path
  | wrongShape path => "invalid form of configuration field " ++ Text.quoted path

/-- Why an operation failed. -/
inductive Error where
  /-- No active unit is responsible for the key. -/
  | noActiveUnits
  /-- Fewer replicas than a majority acknowledged a write. -/
  | quorumNotReached (needed got : Nat)
  /-- The unit is not active. -/
  | nodeInactive (id : String)
  /-- There is no such thing. -/
  | notFound (what : String)
  /-- A setting has a value that it cannot have. -/
  | invalidConfig (reason : String)
  /-- The settings could not be loaded. -/
  | config (problem : LoadProblem)
  /-- The system refused to read or write. -/
  | io (reason : String)
  /-- The operation took too long. -/
  | timeout (what : String)
  /-- The program is at fault. -/
  | internal (reason : String)
deriving DecidableEq, Repr

namespace Error

/-- The failure in words. -/
def message : Error → String
  | noActiveUnits => "No active storage units available"
  | quorumNotReached needed got => s!"Write quorum not reached: need {needed}, got {got}"
  | nodeInactive id => s!"Node {id} is not active"
  | notFound what => s!"Not found: {what}"
  | invalidConfig reason => s!"Invalid configuration: {reason}"
  | config problem => s!"Configuration error: {problem.message}"
  | io reason => s!"I/O error: {reason}"
  | timeout what => s!"Operation timeout: {what}"
  | internal reason => s!"Internal error: {reason}"

/-- Whether the same request may succeed later without any change to it. -/
def isRetryable : Error → Bool
  | timeout _ | nodeInactive _ | noActiveUnits | quorumNotReached .. => true
  | notFound _ | invalidConfig _ | config _ | io _ | internal _ => false

end Error

end QuorumRing
