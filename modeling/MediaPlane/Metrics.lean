import MediaPlane.Failure

/-
  Statistics: gauges that say how much there is now, and counters that only grow. A gauge exists
  once it was set, a counter once it was raised.
-/

namespace MediaPlane

/-- Why objects were taken out. -/
inductive RemovalReason where
  | unreferenced
  | forced
  | released
  | shutdown
deriving DecidableEq, Repr

namespace RemovalReason

def all : List RemovalReason := [unreferenced, forced, released, shutdown]

def name : RemovalReason → String
  | unreferenced => "unreferenced"
  | forced => "forced"
  | released => "released"
  | shutdown => "shutdown"

end RemovalReason

structure Metrics where
  objectsActive : Option Nat := none
  sessionsActive : Option Nat := none
  subscriptionsActive : Option Nat := none
  /-- Executed requests, by method and by outcome. -/
  requests : Std.ExtTreeMap (String × String) Nat comparePair := ∅
  /-- Requests answered by an earlier execution. -/
  replays : Nat := 0
  /-- Objects taken out, by reason. -/
  collected : RemovalReason → Nat := fun _ => 0
  /-- Constructions refused for lack of capacity. -/
  rejected : Nat := 0
  /-- Events delivered to handlers. -/
  delivered : Nat := 0

namespace Metrics

def countRequest (m : Metrics) (method status : String) : Metrics :=
  let key := (method, status)
  { m with requests := m.requests.insert key (m.requests[key]?.getD 0 + 1) }

def countReplay (m : Metrics) : Metrics := { m with replays := m.replays + 1 }

def countCollected (m : Metrics) (reason : RemovalReason) (n : Nat) : Metrics :=
  { m with collected := fun r => if r = reason then m.collected r + n else m.collected r }

def countRejected (m : Metrics) : Metrics := { m with rejected := m.rejected + 1 }

def countDelivered (m : Metrics) (n : Nat) : Metrics := { m with delivered := m.delivered + n }

/-- All executed requests together. -/
def totalRequests (m : Metrics) : Nat := m.requests.foldl (fun total _ n => total + n) 0

/-- All objects taken out together. -/
def totalCollected (m : Metrics) : Nat := RemovalReason.all.foldl (fun n r => n + m.collected r) 0

/-! ## Exposition -/

/-- The name of a series with its labels, which are in order of their names. -/
def series (name : String) (labels : List (String × String)) : String :=
  name ++ "\x7b" ++ ",".intercalate (labels.map fun l => l.1 ++ "=" ++ l.2) ++ "\x7d"

/-- A counter that was never raised does not show. -/
def raised (n : Nat) : Option Nat := if n = 0 then none else some n

/-- Every series that exists, with its value. -/
def toValue (m : Metrics) : Value :=
  let single := fun (name : String) (n : Option Nat) => (series name [], n.map Value.nat)
  .objectOf <|
    [single "media_objects_active" m.objectsActive,
      single "media_sessions_active" m.sessionsActive,
      single "media_subscriptions_active" m.subscriptionsActive,
      single "media_request_replays_total" (raised m.replays),
      single "media_admission_rejected_total" (raised m.rejected),
      single "media_events_delivered_total" (raised m.delivered)] ++
    (RemovalReason.all.map fun r =>
      (series "media_objects_collected_total" [("reason", r.name)],
        (raised (m.collected r)).map Value.nat)) ++
    m.requests.toList.map fun e =>
      (series "media_requests_total" [("method", e.1.1), ("status", e.1.2)], some (Value.nat e.2))

end Metrics

end MediaPlane
