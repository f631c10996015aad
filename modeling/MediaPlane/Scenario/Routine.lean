import MediaPlane.ControlPlane.Lifecycle

/-
  Routines: the sweep over idle sessions and the eviction of old responses, done again and again at
  an interval. A routine has its turn when the foreground waits. It runs at its first turn, and then
  whenever a whole interval has gone by since; runs that were missed are made up for at once.
-/

namespace MediaPlane.Scenario

/-- What a routine does. -/
inductive Chore where
  | sweep
  | evict
deriving DecidableEq, Repr

def Chore.perform : Chore → ControlPlane → ControlPlane
  | sweep, cp => cp.sweep.2
  | evict, cp => cp.evict.2

/-- A chore that is done at an interval. -/
structure Routine where
  /-- Routines that are started together are ended together. -/
  owner : Nat
  chore : Chore
  period : Nat
  /-- When it runs next; open until its first turn. -/
  next : Option Nat := none
deriving DecidableEq, Repr

namespace Routine

/-- The sweep and the eviction; one without an interval never runs. -/
def pair (owner sweepEvery evictEvery : Nat) : List Routine :=
  [{ owner, chore := .sweep, period := sweepEvery },
    { owner, chore := .evict, period := evictEvery }].filter (·.period ≠ 0)

/-- The first time after `tick` on the routine's grid through `due`. -/
def nextAfter (r : Routine) (due tick : Nat) : Nat := due + ((tick - due) / r.period + 1) * r.period

/-- A turn. Timers have gone off up to `tick`. As nothing happens between the runs of one turn, the
first of them does the work of all. -/
def turn (tick : Nat) (cp : ControlPlane) (r : Routine) : Routine × ControlPlane :=
  let due := r.next.getD cp.now
  if tick < due then ({ r with next := some due }, cp)
  else ({ r with next := some (r.nextAfter due tick) }, r.chore.perform cp)

def turnAll (tick : Nat) (cp : ControlPlane) : List Routine → List Routine × ControlPlane
  | [] => ([], cp)
  | r :: rest =>
    let (r, cp) := r.turn tick cp
    let (rest, cp) := turnAll tick cp rest
    (r :: rest, cp)

end Routine

end MediaPlane.Scenario
