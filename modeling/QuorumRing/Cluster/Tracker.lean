/-!
# Tasks that take time

A tracker knows the tasks that have been started and not yet ended, so that one can wait for them,
for a limited time if need be. Time is counted in milliseconds and passes only while someone waits.
-/

namespace QuorumRing

/-- A task that has been started. -/
structure TimedTask where
  /-- The name of the task. -/
  label : String
  /-- The time at which it ends. -/
  due : Nat
  /-- Whether it ends with a failure. -/
  fails : Bool
deriving DecidableEq, Repr

/-- The tasks under way. -/
structure Tracker where
  /-- The time. -/
  now : Nat := 0
  /-- The tasks that have not ended, in the order in which they were started. -/
  running : List TimedTask := []
  /-- The labels of the tasks that have ended without a failure, in the order in which they did. -/
  finished : List String := []
  /-- Whether new tasks are refused. -/
  closed : Bool := false
deriving DecidableEq, Repr

namespace Tracker

/-- Starts a task, unless the tracker is closed. The answer is whether it was started. -/
def start (t : Tracker) (label : String) (millis : Nat) (fails : Bool) : Bool × Tracker :=
  if t.closed then (false, t)
  else (true, { t with running := t.running ++ [{ label, due := t.now + millis, fails }] })

/-- Lets time pass up to the given moment. The tasks that are due by then end. -/
def runUntil (t : Tracker) (time : Nat) : Tracker :=
  let ended := (t.running.filter (·.due ≤ time)).mergeSort (·.due ≤ ·.due)
  { t with
    now := time
    running := t.running.filter (time < ·.due)
    finished := t.finished ++ (ended.filter (!·.fails)).map (·.label) }

/-- Lets so much time pass. If it is none, no task is run. -/
def sleep (t : Tracker) (millis : Nat) : Tracker :=
  if millis = 0 then t else t.runUntil (t.now + millis)

/-- The moment at which the last task ends. -/
def idleTime (t : Tracker) : Nat := t.running.foldl (fun time task => max time task.due) t.now

/-- Waits until all tasks have ended. -/
def waitIdle (t : Tracker) : Tracker := t.runUntil t.idleTime

/-- Waits until all tasks have ended, but not longer than the given time. The answer is whether they
have. -/
def waitIdleFor (t : Tracker) (millis : Nat) : Bool × Tracker :=
  if t.running = [] then (true, t)
  else if 0 < millis && t.idleTime ≤ t.now + millis then (true, t.waitIdle)
  else (false, t.sleep millis)

/-- Refuses new tasks, waits for the others for the given time and drops those that have not ended
by then. The answer is their number. -/
def shutdown (t : Tracker) (millis : Nat) : Nat × Tracker :=
  let (_, t) := { t with closed := true }.waitIdleFor millis
  (t.running.length, { t with running := [] })

end Tracker

end QuorumRing
