/-!
# The registry of migrations

Every migration is registered when its change of membership happens and runs later. The registry
answers whether the cluster is rebalancing, and lets a caller wait for the migrations of a moment.

A migration of the same kind and id as one that is still running takes its place in the registry.
The end of the earlier one then changes nothing there, which the ticket of a registration ensures.
-/

namespace QuorumRing

/-- The change of membership that a migration belongs to. -/
inductive MigrationKind where
  /-- Keys move onto a new unit. -/
  | join
  /-- Keys of a removed unit are stored again. -/
  | leave
deriving DecidableEq, Repr

/-- The name of the kind. -/
def MigrationKind.name : MigrationKind → String
  | join => "join"
  | leave => "leave"

/-- The registration of one migration. -/
structure Registration where
  /-- The kind of the migration. -/
  kind : MigrationKind
  /-- The id of the unit. -/
  id : String
  /-- The number of registrations made before. -/
  ticket : Nat
deriving DecidableEq, Repr

/-- The migrations that have begun and not ended. -/
structure Registry where
  /-- The registrations in force: at most one for each kind and id. -/
  inFlight : List Registration := []
  /-- The registrations of all migrations that have not ended, also of those replaced since. -/
  running : List Registration := []
  /-- The number of registrations made so far: the true one, where a counter of 64 bits wraps
  around. -/
  tickets : Nat := 0
deriving DecidableEq, Repr

namespace Registry

/-- Registers a migration, in place of one of the same kind and id. -/
def enter (registry : Registry) (kind : MigrationKind) (id : String) : Registration × Registry :=
  let registration := { kind, id, ticket := registry.tickets }
  let others := registry.inFlight.filter fun other => !(other.kind = kind && other.id = id)
  (registration,
    { inFlight := others ++ [registration]
      running := registry.running ++ [registration]
      tickets := registry.tickets + 1 })

/-- Takes note of the end of a migration. -/
def finish (registry : Registry) (registration : Registration) : Registry :=
  { registry with
    inFlight := registry.inFlight.erase registration
    running := registry.running.erase registration }

/-- Whether a migration is registered. -/
def isRebalancing (registry : Registry) : Bool := !registry.inFlight.isEmpty

/-- The registrations in force, by id and then by kind. -/
def listing (registry : Registry) : List Registration :=
  registry.inFlight.mergeSort fun a b =>
    a.id < b.id || (a.id = b.id && (a.kind = .join || b.kind = .leave))

/-- Whether all of the migrations have ended. -/
def isOver (registry : Registry) (migrations : List Registration) : Bool :=
  migrations.all fun registration => !registry.running.contains registration

end Registry

end QuorumRing
