import QuorumRing.Error

/-!
# Write quorums

A write is sent to all replicas of a key at once and succeeds when a majority of them has
acknowledged it. The coordinator waits for one outcome after the other, as many times as there are
replicas, and stops as soon as the majority is reached. A wait that ends without an outcome gives up
on one replica only.
-/

namespace QuorumRing

/-- How waiting for one outcome of a write ended. -/
inductive Wait where
  /-- A replica has stored the value. -/
  | acknowledged
  /-- A replica has refused the value. -/
  | refused
  /-- The task of a replica was dropped. -/
  | dropped
  /-- Nothing happened in time. -/
  | timedOut
deriving DecidableEq, Repr

namespace Quorum

/-- The number of acknowledgements that a write to `n` replicas needs: a majority. -/
def needed (n : Nat) : Nat := n / 2 + 1

/-- The number of acknowledgements seen, after `seen` of them and with at most `pending` waits to
come. Once `goal` is reached no further wait is made. -/
def collect (goal : Nat) : (pending seen : Nat) → List Wait → Nat
  | 0, seen, _ => seen
  | _ + 1, seen, [] => seen
  | pending + 1, seen, wait :: waits =>
    if seen < goal then
      collect goal pending (if wait = .acknowledged then seen + 1 else seen) waits
    else seen

/-- The verdict on a write to `n` replicas: the number of acknowledgements seen, or how far it fell
short. -/
def judge (n : Nat) (waits : List Wait) : Except Error Nat :=
  let got := collect (needed n) n 0 waits
  if got < needed n then .error (.quorumNotReached (needed n) got) else .ok got

end Quorum

end QuorumRing
