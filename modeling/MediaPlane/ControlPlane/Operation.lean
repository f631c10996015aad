import MediaPlane.ControlPlane.Element
import MediaPlane.ControlPlane.Lifecycle
import MediaPlane.ControlPlane.Status
import MediaPlane.Request.Placeholder

/-
  The operations that address objects. Each runs inside a session and touches, claims or drops what
  it addresses. A creation may wait for its element to be built, and an invocation for the element's
  answer; all others settle at once. A transport that builds a handler may call back, and those
  calls run to their end before the subscription goes on.
-/

namespace MediaPlane

/-- An object whose element is being built, and that is not registered yet. -/
structure Construction where
  id : ObjectId
  type : ObjectType
  parent : Option ObjectId
  element : Element
deriving Repr

/-- What an operation waits for. -/
inductive Wait where
  /-- The construction of an element, until a time. -/
  | construction (c : Construction) (ready : Nat)
  /-- The answer of an element, which comes at a time. -/
  | answer (value : Value) (ready : Nat)
deriving Repr

namespace Wait

/-- When the wait is over. -/
def ready : Wait → Nat
  | construction _ t => t
  | answer _ t => t

end Wait

/-- How far an operation got. -/
inductive Outcome where
  | settled (result : Except Failure Value)
  | waiting (w : Wait)

/-- The result of an operation that gives a value. -/
def valueResult (v : Value) : Value := .object [("value", v)]

/-- The result of an operation that gives nothing. -/
def emptyResult : Value := .obj []

/-- The result of an operation that names its session. -/
def sessionResult (session : SessionId) : Value := .object [("sessionId", .str session.text)]

namespace ControlPlane

/-! ## Creation -/

/-- The parent that constructor parameters name, if objects of the type need one. -/
def parentFor (cp : ControlPlane) (type : ObjectType) (params : Value) :
    Except Failure (Option ObjectId) :=
  match type.placement with
  | .root => .ok none
  | .under param kind =>
    match (params.get? param).bind Value.str? with
    | none => .error (.invalidParams (.parentRequired type.typeName param))
    | some text =>
      match cp.registry.getOfKind ⟨text⟩ kind with
      | .error e => .error e
      | .ok parent => .ok (some parent.id)

/-- Registers a constructed object, strongly held by the session that asked for it. If its parent is
gone by now, the element is released instead. -/
def register (cp : ControlPlane) (session : SessionId) (c : Construction) :
    Except Failure Value × ControlPlane :=
  match cp.registry.put (.new c.id c.type c.parent c.element cp.now) with
  | .error e => (.error e, cp.releaseElement c.id c.element)
  | .ok registry =>
    let sessions := cp.sessions.touch session c.id .strong cp.now
    let journal :=
      { cp.journal with
        registered := cp.journal.registered ++ [c.id]
        adopted := cp.journal.adopted ++ c.parent.toList.map (c.id, ·) }
    (.ok (valueResult (.str c.id.text)),
      { cp with holdings := { registry, sessions }, journal }.gaugeObjects)

/-- Constructs an object of a known type below a known parent, and registers it as soon as its
element is there. -/
def createUnder (cp : ControlPlane) (session : SessionId) (entry : CatalogEntry)
    (parent : Option ObjectId) (params : Value) : Outcome × ControlPlane :=
  let (text, cp) := cp.drawName
  let id := ObjectId.below parent text entry.type.qualifiedName
  match cp.construct entry id params with
  | .error fault => (.settled (.error (.engine fault)), cp)
  | .ok (element, cp) =>
    let c : Construction := { id, type := entry.type, parent, element }
    match constructionTime entry params with
    | some ms => (.waiting (.construction c (cp.now + ms)), cp)
    | none =>
      let (result, cp) := cp.register session c
      (.settled result, cp)

def create (cp : ControlPlane) (session : SessionId) (typeName : String) (params : Value) :
    Outcome × ControlPlane :=
  match cp.admission.check cp.registry.size with
  | .error e => (.settled (.error e), { cp with metrics := cp.metrics.countRejected })
  | .ok () =>
    match cp.catalog.find typeName with
    | .error e => (.settled (.error e), cp)
    | .ok entry =>
      match cp.parentFor entry.type params with
      | .error e => (.settled (.error e), cp)
      | .ok parent => cp.createUnder session entry parent params

/-! ## Invocation -/

def invoke (cp : ControlPlane) (session : SessionId) (object : ObjectId) (operation : String)
    (params : Value) : Outcome × ControlPlane :=
  match cp.touch session object with
  | .error e => (.settled (.error e), cp)
  | .ok (o, cp) =>
    match cp.builtin? o operation params with
    | some (.error e) => (.settled (.error e), cp)
    | some (.ok (value, cp)) => (.settled (.ok (valueResult value)), cp)
    | none =>
      match cp.invokeElement o operation params with
      | (.now (.error fault), cp) => (.settled (.error (.engine fault)), cp)
      | (.now (.ok value), cp) => (.settled (.ok (valueResult value)), cp)
      | (.later value after, cp) => (.waiting (.answer value (cp.now + after)), cp)

/-! ## References -/

/-- The session claims an object. -/
def claim (cp : ControlPlane) (session : SessionId) (object : ObjectId) :
    Except Failure ControlPlane :=
  if cp.registry.contains object then
    .ok (cp.withSessions (cp.sessions.touch session object .strong cp.now))
  else .error (.objectNotFound object)

/-- The session drops its references to objects, and what nobody holds among them goes. -/
def dropReferences (cp : ControlPlane) (session : SessionId) (objects : List ObjectId)
    (reason : RemovalReason) : ControlPlane :=
  let sessions := objects.foldl (fun t o => t.dropReference session o) cp.sessions
  let (removed, holdings) := { cp.holdings with sessions }.collect objects
  { cp with holdings }.teardown reason removed

/-- The session drops its reference to an object. -/
def unref (cp : ControlPlane) (session : SessionId) (object : ObjectId) :
    Except Failure ControlPlane :=
  if cp.registry.contains object then
    .ok (cp.dropReferences session [object] .unreferenced)
  else .error (.objectNotFound object)

/-- The session drops its references to an object and to all below it. -/
def release (cp : ControlPlane) (session : SessionId) (object : ObjectId) :
    Except Failure ControlPlane :=
  if cp.registry.contains object then
    .ok (cp.dropReferences session (cp.registry.descendants object ++ [object]) .released)
  else .error (.objectNotFound object)

/-- What is known of a type. -/
def typeResult (t : ObjectType) : Value :=
  .object [("type", .str t.typeName), ("qualifiedType", .str t.qualifiedName),
    ("hierarchy", .arr (t.hierarchy.map .str))]

/-! ## Subscriptions -/

/-- Adds a subscription under a key. Should its object have gone while a handler was built, the
subscription goes too. -/
def subscribeUnder (cp : ControlPlane) (session : SessionId) (key : HandlerKey)
    (receiver : Receiver) : Except Failure Value × ControlPlane :=
  let (text, cp) := cp.drawName
  let cp := { cp with dispatcher := cp.dispatcher.attach ⟨text⟩ session key receiver }
  match cp.ensureLive key.object with
  | (.error e, cp) => (.error e, cp)
  | (.ok (), cp) => (.ok (valueResult (.str text)), cp.gaugeSubscriptions)

/-- Subscribes a session to an event type of an object; `build` says how a handler is built with the
installed factory. -/
def subscribeWith (cp : ControlPlane) (session : SessionId) (object : ObjectId)
    (eventType : String)
    (build : HandlerFactory → ControlPlane → Except Failure Receiver × ControlPlane) :
    Except Failure Value × ControlPlane :=
  match cp.touch session object with
  | .error e => (.error e, cp)
  | .ok (_, cp) =>
    match cp.dispatcher.supply object session eventType with
    | .error e => (.error e, cp)
    | .ok (key, .shared h) => cp.subscribeUnder session key h.receiver
    | .ok (key, .built factory) =>
      match build factory cp with
      | (.error e, cp) => (.error e, cp)
      | (.ok receiver, cp) => cp.subscribeUnder session key receiver

/-- Notes that a handler with a named receiver was built. -/
def noteBuilt (cp : ControlPlane) : Receiver → ControlPlane
  | .named _ => { cp with journal := { cp.journal with built := cp.journal.built + 1 } }
  | .silent => cp

/-- Builds a handler as a plan says, with the calls that the plan makes on the way. What subscribes
is a request of its own. -/
def buildHandler : BuildPlan → ControlPlane → Except Failure Receiver × ControlPlane
  | .done receiver, cp => (.ok receiver, cp.noteBuilt receiver)
  | .refuse reason, cp => (.error reason, cp)
  | .lookFirst rest, cp => buildHandler (rest cp.snapshot) cp
  | .subscribeFirst session object eventType inner rest, cp =>
    let (result, cp) := (cp.enter session).subscribeWith session object eventType fun _ =>
      buildHandler inner
    buildHandler (rest result) ((cp.leave session).countRequest Method.subscribe.name result)
  | .closeFirst session forced rest, cp =>
    match cp.closeSession session forced with
    | .error e => buildHandler (rest (.error e)) cp
    | .ok (n, cp) => buildHandler (rest (.ok n)) cp

def subscribe (cp : ControlPlane) (session : SessionId) (object : ObjectId) (eventType : String)
    (params : Value) : Except Failure Value × ControlPlane :=
  cp.subscribeWith session object eventType fun factory =>
    buildHandler (factory.plan object session eventType params)

def unsubscribe (cp : ControlPlane) (session : SessionId) (object : ObjectId)
    (subscription : SubscriptionId) : Except Failure Value × ControlPlane :=
  match cp.touch session object with
  | .error e => (.error e, cp)
  | .ok (_, cp) =>
    match cp.dispatcher.unsubscribe object session subscription with
    | .error e => (.error e, cp)
    | .ok dispatcher => (.ok emptyResult, { cp with dispatcher }.gaugeSubscriptions)

/-! ## All of them -/

/-- An operation that fails without a trace, or succeeds with a known result. -/
def settle (cp : ControlPlane) (result : Value) :
    Except Failure ControlPlane → Outcome × ControlPlane
  | .error e => (.settled (.error e), cp)
  | .ok cp => (.settled (.ok result), cp)

/-- Runs an operation that addresses objects; the other ones are refused. -/
def execute (cp : ControlPlane) (session : SessionId) (op : Operation) : Outcome × ControlPlane :=
  match op with
  | .create typeName params => cp.create session typeName params
  | .invoke object operation params => cp.invoke session object operation params
  | .ref object => cp.settle emptyResult (cp.claim session object)
  | .unref object => cp.settle emptyResult (cp.unref session object)
  | .release object => cp.settle (sessionResult session) (cp.release session object)
  | .describe object =>
    match cp.touch session object with
    | .error e => (.settled (.error e), cp)
    | .ok (o, cp) => (.settled (.ok (typeResult o.type)), cp)
  | .subscribe object eventType params =>
    let (result, cp) := cp.subscribe session object eventType params
    (.settled result, cp)
  | .unsubscribe object subscription =>
    let (result, cp) := cp.unsubscribe session object subscription
    (.settled result, cp)
  | other => (.settled (.error (.invalidParams (.notInTransaction other.method.name))), cp)

/-- Goes on after a wait. -/
def finishWait (cp : ControlPlane) (session : SessionId) :
    Wait → Except Failure Value × ControlPlane
  | .construction c _ => cp.register session c
  | .answer value _ => (.ok (valueResult value), cp)

end ControlPlane

end MediaPlane
