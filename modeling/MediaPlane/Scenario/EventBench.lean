import MediaPlane.Scenario.Report

/-
  Scenarios of the dispatcher alone. Handlers may be held by name, and so may emitters, which raise
  events for one object. When the dispatcher is replaced, handlers that are held stay alive, and
  emitters of the old one reach nobody.
-/

namespace MediaPlane.Scenario

/-- Raises events for one object, through the dispatcher of a generation; a detached one has
none. -/
structure Emitter where
  object : ObjectId
  generation : Option Nat
deriving DecidableEq, Repr

/-- A dispatcher under test. -/
structure EventBench where
  names : NameSource
  dispatcher : Dispatcher := {}
  /-- How often the dispatcher was replaced. -/
  generation : Nat := 0
  refs : List (String × Handler) := []
  emitters : List (String × Emitter) := []
  deliveries : List Delivery := []
  built : Nat := 0

namespace EventBench

def draw (b : EventBench) : String × EventBench :=
  let (text, names) := b.names.draw
  (text, { b with names })

/-- Subscribes under a new name. -/
def attach (b : EventBench) (session : SessionId) (key : HandlerKey) (receiver : Receiver) :
    Value × EventBench :=
  let (text, b) := b.draw
  (.str text, { b with dispatcher := b.dispatcher.attach ⟨text⟩ session key receiver })

def dispatch (b : EventBench) (e : Event) : Nat × EventBench :=
  let deliveries := b.dispatcher.dispatch e
  (deliveries.length, { b with deliveries := b.deliveries ++ deliveries })

def dropRef (b : EventBench) (name : String) : EventBench :=
  match b.refs.lookup name with
  | none => b
  | some h =>
    { b with
      dispatcher := b.dispatcher.letGo h
      refs := b.refs.filter (·.1 ≠ name) }

def saveRef (b : EventBench) (name : String) (h : Handler) : EventBench :=
  let b := { b with dispatcher := b.dispatcher.hold h }.dropRef name
  { b with refs := (name, h) :: b.refs }

/-- A new dispatcher takes the place of the old one. -/
def replace (b : EventBench) : EventBench :=
  { b with
    dispatcher := { held := b.dispatcher.held, nextSerial := b.dispatcher.nextSerial }
    generation := b.generation + 1 }

def subscriptionValue (s : Subscription) : Value :=
  .arr [.str s.id.text, .str s.object.text, .str s.eventType, .str s.session.text]

/-- A change of the dispatcher that may fail. -/
def settle (b : EventBench) : Except Failure Dispatcher → Value × EventBench
  | .error e => (failureValue e, b)
  | .ok dispatcher => (.bool true, { b with dispatcher })

/-- Runs one step. -/
def perform (b : EventBench) (v : Value) : Value × EventBench :=
  let object : ObjectId := ⟨v.textAt "object"⟩
  let session : SessionId := ⟨v.textAt "session"⟩
  let eventType := v.textAt "type"
  let d := b.dispatcher
  match v.textAt "do" with
  | "set_factory" =>
    (.null, match handlerFactory? (v.textAt "factory") with
      | some f => { b with dispatcher := { d with factory := some f } }
      | none => b)
  | "subscribe" =>
    match d.receiverFor object session eventType (v.memberAt "params") with
    | .error e => (failureValue e, b)
    | .ok (key, receiver, built) =>
      { b with built := if built then b.built + 1 else b.built }.attach session key receiver
  | "connect" =>
    b.attach session (d.keyFor object session eventType) (.named (v.textAt "handler"))
  | "lookup" =>
    match d.lookup? object session eventType with
    | none => (.null, b)
    | some h => (World.handlerValue h, match (v.get? "save").bind Value.str? with
        | some name => b.saveRef name h
        | none => b)
  | "register" =>
    match b.refs.lookup (v.textAt "ref") with
    | none => (.str "no such ref", b)
    | some h => b.settle (d.share object session ⟨v.textAt "subscription"⟩ h)
  | "drop_ref" =>
    let name := v.textAt "ref"
    (.bool (b.refs.lookup name).isSome, b.dropRef name)
  | "unsubscribe" => b.settle (d.unsubscribe object session ⟨v.textAt "subscription"⟩)
  | "drop_session" =>
    let (n, dispatcher) := d.dropSession session
    (.nat n, { b with dispatcher })
  | "drop_object" =>
    let (n, dispatcher) := d.dropObject object
    (.nat n, { b with dispatcher })
  | "dispatch" =>
    let (n, b) := b.dispatch ⟨object, eventType, v.memberAt "data"⟩
    (.nat n, b)
  | "emitter" =>
    let e : Emitter :=
      { object, generation := if v.flagAt "detached" then none else some b.generation }
    (.null, { b with emitters := (v.textAt "save", e) :: b.emitters })
  | "emit" =>
    match b.emitters.lookup (v.textAt "ref") with
    | none => (.str "no such ref", b)
    | some e =>
      let (n, b) :=
        if e.generation = some b.generation then
          b.dispatch ⟨e.object, eventType, v.memberAt "data"⟩
        else (0, b)
      (.arr [.str e.object.text, .nat n], b)
  | "replace" => (.null, b.replace)
  | "subs" => (.arr ((d.subscriptionsOn object).map subscriptionValue), b)
  | _ => (.null, b)

def stepReport (before after : EventBench) (result : Value) : Value :=
  .objectOf [("r", some result),
    ("st", some (.arr [.nat after.dispatcher.subscriptionCount,
      .nat after.dispatcher.handlerCount])),
    ("ev", unlessEmpty (deliveryRecords (after.deliveries.drop before.deliveries.length))),
    ("built", unlessZero (after.built - before.built))]

def runSteps (b : EventBench) : List Value → List Value
  | [] => []
  | step :: steps =>
    let (result, next) := b.perform step
    stepReport b next result :: runSteps next steps

end EventBench

/-- Runs a scenario of the dispatcher alone. -/
def runEvents (scenario : Value) : Value :=
  let b : EventBench := { names := nameSource scenario }
  .object [("steps", .arr (b.runSteps (scenario.itemsAt "steps")))]

end MediaPlane.Scenario
