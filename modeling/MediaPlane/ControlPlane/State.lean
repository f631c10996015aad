import MediaPlane.Admission
import MediaPlane.Event.Dispatcher
import MediaPlane.Metrics
import MediaPlane.RetryCache
import MediaPlane.Session.Collector

/-
  The state of the control plane, and the small steps that its operations are made of: drawing a
  name, raising an event, releasing elements, reading off gauges. A step that may fail without
  having changed anything gives the next state only on success; one whose failure leaves traces
  gives it always. The journal keeps what the world outside got to see.
-/

namespace MediaPlane

/-- What the mock engine counted, and whether it refuses to build. -/
structure MockEngine where
  refuses : Bool := false
  constructions : Nat := 0
  invocations : Nat := 0
  releases : Nat := 0
deriving DecidableEq, Repr

/-- What the world outside saw, in order of time. -/
structure Journal where
  /-- The objects whose elements were constructed. -/
  constructed : List ObjectId := []
  /-- The objects that entered the registry. -/
  registered : List ObjectId := []
  /-- Those among them that entered below a parent, each with that parent. -/
  adopted : List (ObjectId × ObjectId) := []
  /-- The objects whose elements were released. -/
  released : List ObjectId := []
  /-- The events that objects raised, whether or not anybody heard them. -/
  raised : List Event := []
  deliveries : List Delivery := []
  /-- How many handlers with a named receiver were built. -/
  built : Nat := 0

structure ControlPlane where
  admission : AdmissionControl
  /-- How long a session may be quiet, in milliseconds. -/
  sessionTtl : Nat
  catalog : Catalog
  names : NameSource
  cache : RetryCache
  /-- The time in milliseconds. -/
  now : Nat := 0
  holdings : Holdings := {}
  dispatcher : Dispatcher := {}
  mock : MockEngine := {}
  metrics : Metrics := {}
  journal : Journal := {}

namespace ControlPlane

/-- The live objects. -/
def registry (cp : ControlPlane) : Registry := cp.holdings.registry

/-- The live sessions. -/
def sessions (cp : ControlPlane) : SessionTable := cp.holdings.sessions

/-- Puts another registry in place. -/
def withRegistry (cp : ControlPlane) (registry : Registry) : ControlPlane :=
  { cp with holdings := { cp.holdings with registry } }

/-- Puts another session table in place. -/
def withSessions (cp : ControlPlane) (sessions : SessionTable) : ControlPlane :=
  { cp with holdings := { cp.holdings with sessions } }

@[simp] theorem registry_withRegistry (cp : ControlPlane) (r : Registry) :
    (cp.withRegistry r).registry = r := rfl

@[simp] theorem sessions_withRegistry (cp : ControlPlane) (r : Registry) :
    (cp.withRegistry r).sessions = cp.sessions := rfl

@[simp] theorem registry_withSessions (cp : ControlPlane) (t : SessionTable) :
    (cp.withSessions t).registry = cp.registry := rfl

@[simp] theorem sessions_withSessions (cp : ControlPlane) (t : SessionTable) :
    (cp.withSessions t).sessions = t := rfl

/-- The clock moves on. -/
def advance (cp : ControlPlane) (ms : Nat) : ControlPlane := { cp with now := cp.now + ms }

def installFactory (cp : ControlPlane) (factory : HandlerFactory) : ControlPlane :=
  { cp with dispatcher := { cp.dispatcher with factory := some factory } }

/-- The next unique text. -/
def drawName (cp : ControlPlane) : String × ControlPlane :=
  let (text, names) := cp.names.draw
  (text, { cp with names })

/-! ## Gauges -/

def gaugeObjects (cp : ControlPlane) : ControlPlane :=
  { cp with metrics := { cp.metrics with objectsActive := some cp.registry.size } }

def gaugeSessions (cp : ControlPlane) : ControlPlane :=
  { cp with metrics := { cp.metrics with sessionsActive := some cp.sessions.size } }

def gaugeSubscriptions (cp : ControlPlane) : ControlPlane :=
  { cp with
    metrics := { cp.metrics with subscriptionsActive := some cp.dispatcher.subscriptionCount } }

/-! ## Events and elements -/

/-- An object raises an event; how many handlers it reached. -/
def raise (cp : ControlPlane) (e : Event) : Nat × ControlPlane :=
  let deliveries := cp.dispatcher.dispatch e
  (deliveries.length,
    { cp with
      metrics := cp.metrics.countDelivered deliveries.length
      journal :=
        { cp.journal with
          raised := cp.journal.raised ++ [e]
          deliveries := cp.journal.deliveries ++ deliveries } })

@[simp] theorem raise_fst (cp : ControlPlane) (e : Event) :
    (cp.raise e).1 = (cp.dispatcher.dispatch e).length := rfl

@[simp] theorem holdings_raise (cp : ControlPlane) (e : Event) :
    (cp.raise e).2.holdings = cp.holdings := rfl

@[simp] theorem dispatcher_raise (cp : ControlPlane) (e : Event) :
    (cp.raise e).2.dispatcher = cp.dispatcher := rfl

/-- The engine lets go of an element. -/
def releaseElement (cp : ControlPlane) (id : ObjectId) (element : Element) : ControlPlane :=
  { cp with
    mock := match element with
      | .mock => { cp.mock with releases := cp.mock.releases + 1 }
      | .loopback .. => cp.mock
    journal := { cp.journal with released := cp.journal.released ++ [id] } }

/-- A removed object loses its subscriptions, and then its element. -/
def dismantle (cp : ControlPlane) (o : MediaObject) : ControlPlane :=
  { cp with dispatcher := (cp.dispatcher.dropObject o.id).2 }.releaseElement o.id o.element

/-- Dismantles removed objects in order, and counts them under a reason. -/
def teardown (cp : ControlPlane) (reason : RemovalReason) (removed : List MediaObject) :
    ControlPlane :=
  if removed.isEmpty then cp
  else
    let cp := removed.foldl dismantle cp
    { cp with metrics := cp.metrics.countCollected reason removed.length }.gaugeObjects
      |>.gaugeSubscriptions

@[simp] theorem holdings_dismantle (cp : ControlPlane) (o : MediaObject) :
    (cp.dismantle o).holdings = cp.holdings := rfl

/-- Taking elements down leaves the tables as they are. -/
@[simp] theorem holdings_teardown (cp : ControlPlane) (reason : RemovalReason)
    (removed : List MediaObject) : (cp.teardown reason removed).holdings = cp.holdings := by
  have h : ∀ (os : List MediaObject) (cp : ControlPlane),
      (os.foldl dismantle cp).holdings = cp.holdings := by
    intro os
    induction os with
    | nil => intro cp; rfl
    | cons o os ih => intro cp; exact ih (cp.dismantle o)
  simp only [teardown]
  split
  · rfl
  · exact h removed cp

/-! ## Addressing objects -/

/-- Finds an object for a session that addresses it; the session touches it thereby. -/
def touch (cp : ControlPlane) (session : SessionId) (id : ObjectId) :
    Except Failure (MediaObject × ControlPlane) :=
  match cp.registry.get id with
  | .error e => .error e
  | .ok o => .ok (o, cp.withSessions (cp.sessions.touch session id .touched cp.now))

/-- Whether an object is still there; if not, its subscriptions go. -/
def ensureLive (cp : ControlPlane) (id : ObjectId) : Except Failure Unit × ControlPlane :=
  if cp.registry.contains id then (.ok (), cp)
  else
    (.error (.objectNotFound id), { cp with dispatcher := (cp.dispatcher.dropObject id).2 })

/-! ## Requests in a session -/

/-- A request enters its session, which is created if needed. -/
def enter (cp : ControlPlane) (session : SessionId) : ControlPlane :=
  let (created, sessions) := cp.sessions.enter session cp.now
  if created then (cp.withSessions sessions).gaugeSessions else cp.withSessions sessions

/-- A request leaves its session. -/
def leave (cp : ControlPlane) (session : SessionId) : ControlPlane :=
  cp.withSessions (cp.sessions.leave session cp.now)

/-- An executed request is counted, by its method and its outcome. -/
def countRequest {α : Type} (cp : ControlPlane) (label : String) (result : Except Failure α) :
    ControlPlane :=
  { cp with
    metrics := cp.metrics.countRequest label <|
      match result with
      | .ok _ => "success"
      | .error e => e.label }

end ControlPlane

end MediaPlane
