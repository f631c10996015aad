import MediaPlane.Scenario.Routine
import MediaPlane.Scenario.Step

/-
  The world of a scenario: its control plane, what the scenario keeps beside it, and the routines in
  the background. Most steps are done at once; they take a world to a result and the next world.
-/

namespace MediaPlane.Scenario

/-- The control plane of a scenario, and what the scenario keeps beside it. -/
structure World where
  plane : ControlPlane
  ready : Bool := false
  bindings : Bindings := []
  /-- The handlers that the scenario holds, by name. -/
  refs : List (String × Handler) := []
  /-- The routines that run in the background. -/
  routines : List Routine := []
  /-- How many pairs of routines were started. -/
  started : Nat := 0

namespace World

def mapPlane (w : World) (f : ControlPlane → ControlPlane) : World := { w with plane := f w.plane }

/-! ## Routines -/

/-- Starts the sweep and the eviction, and gives the number under which they can be ended. -/
def startRoutines (w : World) (sweepEvery evictEvery : Nat) : Nat × World :=
  let started := Routine.pair w.started sweepEvery evictEvery
  (w.started, { w with routines := w.routines ++ started, started := w.started + 1 })

def endRoutines (w : World) (owner : Nat) : World :=
  { w with routines := w.routines.filter (·.owner ≠ owner) }

/-- Every routine has its turn, in the order in which they were started. -/
def turnRoutines (w : World) (tick : Nat) : World :=
  let (routines, plane) := Routine.turnAll tick w.plane w.routines
  { w with routines, plane }

/-! ## Handlers that the scenario holds -/

def ref? (w : World) (name : String) : Option Handler := w.refs.lookup name

/-- Lets go of the handler of a name. -/
def dropRef (w : World) (name : String) : World :=
  match w.ref? name with
  | none => w
  | some h =>
    { w with
      plane := { w.plane with dispatcher := w.plane.dispatcher.letGo h }
      refs := w.refs.filter (·.1 ≠ name) }

/-- Holds a handler under a name, in place of the one of that name. -/
def saveRef (w : World) (name : String) (h : Handler) : World :=
  let w := w.mapPlane fun cp => { cp with dispatcher := cp.dispatcher.hold h }
  let w := w.dropRef name
  { w with refs := (name, h) :: w.refs }

/-! ## Steps that are done at once -/

def handlerValue (h : Handler) : Value :=
  .object [("object", .str h.key.object.text), ("type", .str h.key.eventType),
    ("session", Value.orNull (h.key.session.map (.str ·.text)))]

/-- A result with the next state, or a failure that changed nothing. -/
def settle {α : Type} (w : World) (encode : α → Value) :
    Except Failure (α × ControlPlane) → Value × World
  | .error e => (failureValue e, w)
  | .ok (a, plane) => (encode a, { w with plane })

/-- A result, whatever the next state. -/
def settleWith {α : Type} (w : World) (encode : α → Value) (r : Except Failure α × ControlPlane) :
    Value × World :=
  (outcomeValue encode r.1, { w with plane := r.2 })

/-- Runs a step that is done at once; others give nothing. -/
def perform (w : World) (step : Step) : Value × World :=
  let cp := w.plane
  match step with
  | .keepAlive s => w.settle (fun _ => .bool true) ((cp.keepAlive s).map fun cp => ((), cp))
  | .connect s => (.null, w.mapPlane (·.connect s))
  | .close s forced => w.settle .nat (cp.closeSession s forced)
  | .sweep => w.settle .nat (.ok cp.sweep)
  | .evict => w.settle .nat (.ok cp.evict)
  | .setFactory name =>
    (.null, match handlerFactory? name with
      | some f => w.mapPlane (·.installFactory f)
      | none => w)
  | .emit object eventType data => w.settle .nat (cp.emit object eventType data)
  | .connectHandler object session eventType receiver =>
    w.settleWith (fun id => .object [("value", .str id.text)])
      (cp.connectHandler object session eventType (.named receiver))
  | .lookupHandler object session eventType save =>
    match cp.lookupHandler? object session eventType with
    | none => (.null, w)
    | some h => (handlerValue h, match save with
        | some name => w.saveRef name h
        | none => w)
  | .registerHandler object session subscription ref =>
    match w.ref? ref with
    | none => (.str "no such ref", w)
    | some h =>
      w.settleWith (fun _ => .bool true) (cp.shareHandler object session subscription h)
  | .dropRef ref => (.bool (w.ref? ref).isSome, w.dropRef ref)
  | .failConstructs refuses =>
    (.null, w.mapPlane fun cp => { cp with mock := { cp.mock with refuses } })
  | .mock =>
    (.arr [.nat cp.mock.constructions, .nat cp.mock.invocations, .nat cp.mock.releases], w)
  | .snapshot => (cp.snapshot, w)
  | .reference session object =>
    (Value.orNull ((cp.sessions.reference? session object).map (.str ·.name)), w)
  | .contains object session =>
    (.arr [.bool (cp.registry.contains object), .bool (cp.sessions.contains session)], w)
  | .counts =>
    (.arr [.nat cp.registry.size, .nat cp.sessions.size, .nat cp.dispatcher.subscriptionCount], w)
  | .shutdown => (.null, w.mapPlane (·.shutdown))
  | .health ready =>
    let w := { w with ready := ready.getD w.ready }
    (.arr [.bool true, .bool w.ready], w)
  | .metrics => (cp.metrics.toValue, w)
  | .request _ | .concurrent _ | .advance _ | .tasks .. | .http .. | .unknown => (.null, w)

end World

end MediaPlane.Scenario
