import MediaPlane.ControlPlane.State

/-
  What the engines do: building elements and running operations on them. A loopback element keeps
  properties and connections to sinks of the same pipeline; it raises an event when a connection is
  made or undone. A mock element counts what it is asked, and can be slow. Faults are the engine's
  own; connections to objects that are gone are forgotten when they are looked at.
-/

namespace MediaPlane

namespace ControlPlane

/-! ## Construction -/

/-- The properties that constructor parameters give a loopback element. -/
def initialProperties (params : Value) : Except EngineFault Members :=
  match params.get? "properties" with
  | some (.obj ms) => .ok ms
  | some .null | none => .ok []
  | some _ => .error (.illegalParam "'properties' must be an object")

/-- Builds the element of a new object. -/
def construct (cp : ControlPlane) (entry : CatalogEntry) (id : ObjectId) (params : Value) :
    Except EngineFault (Element × ControlPlane) :=
  let constructed := { cp.journal with constructed := cp.journal.constructed ++ [id] }
  match entry.engine with
  | .mock =>
    if cp.mock.refuses then
      .error
        { code := 40900
          kind := "CONSTRUCTION_FAILED"
          message := "mock refused to build " ++ entry.type.typeName }
    else
      .ok (.mock,
        { cp with
          mock := { cp.mock with constructions := cp.mock.constructions + 1 }
          journal := constructed })
  | .loopback =>
    match initialProperties params with
    | .error fault => .error fault
    | .ok properties => .ok (.loopback properties [], { cp with journal := constructed })

/-- How long a construction takes, if it takes time at all. -/
def constructionTime (entry : CatalogEntry) (params : Value) : Option Nat :=
  if entry.delayable then ((params.get? "$delay").bind Value.nat?).filter (0 < ·) else none

/-! ## Operations -/

/-- How an element answers. -/
inductive Reply where
  | now (result : Except EngineFault Value)
  /-- After so many milliseconds. -/
  | later (value : Value) (after : Nat)

/-- A text among the parameters. -/
def textParam (params : Value) (name : String) : Except EngineFault String :=
  match (params.get? name).bind Value.str? with
  | some s => .ok s
  | none => .error (.illegalParam ("missing string parameter '" ++ name ++ "'"))

/-- Changes the element of a live object. -/
def setElement (cp : ControlPlane) (id : ObjectId) (element : Element) : ControlPlane :=
  cp.withRegistry (cp.registry.update id fun o => { o with element })

/-- What an engine reports of an object that it cannot find. -/
def notFoundFault (f : Failure) : EngineFault where
  code := FailureCode.objectNotFound.number
  kind := FailureCode.objectNotFound.symbol
  message := f.message

/-- How a loopback element is called where another engine's element stands in its place. -/
def loopbackElementName : String := "media_controller::engine::loopback::LoopbackElement"

/-- A live object with a loopback element. -/
def resolveLoopback (r : Registry) (id : ObjectId) : Except EngineFault MediaObject :=
  match r.find? id with
  | none => .error (notFoundFault (.objectNotFound id))
  | some o =>
    match o.element with
    | .loopback .. => .ok o
    | .mock => .error (notFoundFault (.wrongKind id loopbackElementName))

/-- The sinks that still exist. -/
def liveSinks (r : Registry) (sinks : List ObjectId) : List ObjectId :=
  sinks.filter fun s => (resolveLoopback r s).isOk

/-- The event of a connection between two elements. -/
def connectionEvent (source sink : ObjectId) (eventType : String) : Event where
  object := source
  eventType := eventType
  data := .object [("source", .str source.text), ("sink", .str sink.text)]

/-- Whether two objects stand in one tree. -/
def sameRoot (r : Registry) (a b : ObjectId) : Except EngineFault Bool :=
  match r.rootOf a, r.rootOf b with
  | .error f, _ => .error (notFoundFault f)
  | _, .error f => .error (notFoundFault f)
  | .ok x, .ok y => .ok (x = y)

/-- The sink to connect to, if the connection is legal. -/
def connectionTarget (r : Registry) (o : MediaObject) (params : Value) :
    Except EngineFault ObjectId :=
  match textParam params "sink" with
  | .error f => .error f
  | .ok text =>
    match resolveLoopback r ⟨text⟩ with
    | .error f => .error f
    | .ok sink =>
      if !o.kind.connectable || !sink.kind.connectable then
        .error (.illegalParam
          (o.type.typeName ++ " cannot be connected to " ++ sink.type.typeName))
      else
        match sameRoot r o.id sink.id with
        | .error f => .error f
        | .ok true => .ok sink.id
        | .ok false =>
          .error
            { code := 40109
              kind := "CONNECT_ERROR"
              message := "Elements belong to different pipelines" }

/-- Connects a loopback element to a sink; a connection that exists stays as it is. -/
def connectSink (cp : ControlPlane) (o : MediaObject) (properties : Members)
    (sinks : List ObjectId) (sink : ObjectId) : ControlPlane :=
  let live := liveSinks cp.registry sinks
  if live.contains sink then cp.setElement o.id (.loopback properties live)
  else
    ((cp.setElement o.id (.loopback properties (live ++ [sink]))).raise
      (connectionEvent o.id sink "ElementConnected")).2

/-- Undoes the connection to a sink, if there is one. -/
def disconnectSink (cp : ControlPlane) (o : MediaObject) (properties : Members)
    (sinks : List ObjectId) (sink : ObjectId) : ControlPlane :=
  if sinks.contains sink then
    ((cp.setElement o.id (.loopback properties (sinks.filter (· ≠ sink)))).raise
      (connectionEvent o.id sink "ElementDisconnected")).2
  else cp

/-- An operation of a loopback element. -/
def invokeLoopback (cp : ControlPlane) (o : MediaObject) (properties : Members)
    (sinks : List ObjectId) (operation : String) (params : Value) :
    Except EngineFault (Value × ControlPlane) :=
  match operation with
  | "connect" =>
    match connectionTarget cp.registry o params with
    | .error f => .error f
    | .ok sink => .ok (.null, cp.connectSink o properties sinks sink)
  | "disconnect" =>
    match textParam params "sink" with
    | .error f => .error f
    | .ok sink => .ok (.null, cp.disconnectSink o properties sinks ⟨sink⟩)
  | "getSinkConnections" =>
    let live := liveSinks cp.registry sinks
    .ok (.arr (live.map (.str ·.text)), cp.setElement o.id (.loopback properties live))
  | "setProperty" =>
    match textParam params "name" with
    | .error f => .error f
    | .ok name =>
      let value := Value.orNull (params.get? "value")
      .ok (.null, cp.setElement o.id (.loopback (Members.insert name value properties) sinks))
  | "getProperty" =>
    match textParam params "name" with
    | .error f => .error f
    | .ok name => .ok (Value.orNull (Members.get? properties name), cp)
  | "getProperties" => .ok (.obj properties, cp)
  | _ => .error (.unsupportedOperation o.type.typeName operation)

/-- An operation of a mock element. The count that `sleep` gives is that of its start. -/
def invokeMock (cp : ControlPlane) (o : MediaObject) (operation : String) (params : Value) :
    Reply × ControlPlane :=
  let count := cp.mock.invocations + 1
  let cp := { cp with mock := { cp.mock with invocations := count } }
  match operation with
  | "echo" => (.now (.ok params), cp)
  | "fail" =>
    let fault : EngineFault :=
      { code := 40900, kind := "MOCK_FAILURE", message := "mock failure" }
    (.now (.error (fault.withData params)), cp)
  | "emit" =>
    let eventType := ((params.get? "type").bind Value.str?).getD "MockEvent"
    let (reached, cp) := cp.raise ⟨o.id, eventType, Value.orNull (params.get? "data")⟩
    (.now (.ok (.nat reached)), cp)
  | "sleep" =>
    match ((params.get? "ms").bind Value.nat?).getD 0 with
    | 0 => (.now (.ok (.nat count)), cp)
    | ms + 1 => (.later (.nat count) (ms + 1), cp)
  | _ => (.now (.error (.unsupportedOperation "MockElement" operation)), cp)

/-- An operation of an object's element. -/
def invokeElement (cp : ControlPlane) (o : MediaObject) (operation : String) (params : Value) :
    Reply × ControlPlane :=
  match o.element with
  | .mock => cp.invokeMock o operation params
  | .loopback properties sinks =>
    match cp.invokeLoopback o properties sinks operation params with
    | .error f => (.now (.error f), cp)
    | .ok (value, cp) => (.now (.ok value), cp)

/-! ## Operations on every object -/

/-- A text among the parameters of an operation that every object has. -/
def argument (operation : String) (params : Value) (name : String) : Except Failure String :=
  match (params.get? name).bind Value.str? with
  | some s => .ok s
  | none => .error (.invalidParams (.argumentMissing operation name))

/-- Changes what the registry keeps about an object. -/
def annotate (cp : ControlPlane) (id : ObjectId) (f : MediaObject → MediaObject) : ControlPlane :=
  cp.withRegistry (cp.registry.update id f)

/-- Runs an operation that every object has and no engine sees; `none` if it is not one. -/
def builtin? (cp : ControlPlane) (o : MediaObject) (operation : String) (params : Value) :
    Option (Except Failure (Value × ControlPlane)) :=
  match operation with
  | "getName" => some (.ok (.str o.name, cp))
  | "setName" => some do
    let name ← argument operation params "name"
    return (.null, cp.annotate o.id fun o => { o with name })
  | "getChildren" => some (.ok (.arr ((cp.registry.childrenOf o.id).map (.str ·.text)), cp))
  | "getParent" => some (.ok (Value.orNull (o.parent.map (.str ·.text)), cp))
  | "getMediaPipeline" => some do
    let root ← cp.registry.rootOf o.id
    return (.str root.text, cp)
  | "getCreationTime" => some (.ok (.nat (o.createdAt / 1000), cp))
  | "addTag" => some do
    let key ← argument operation params "key"
    let value ← argument operation params "value"
    return (.null, cp.annotate o.id fun o => { o with tags := o.tags.insert key value })
  | "removeTag" => some do
    let key ← argument operation params "key"
    return (.null, cp.annotate o.id fun o => { o with tags := o.tags.erase key })
  | "getTag" => some do
    let key ← argument operation params "key"
    match o.tags[key]? with
    | some value => return (.str value, cp)
    | none => .error (.invalidParams (.noTag key))
  | "getTags" =>
    let pair := fun p : String × String => Value.object [("key", .str p.1), ("value", .str p.2)]
    some (.ok (.arr (o.tags.toList.map pair), cp))
  | _ => none

end ControlPlane

end MediaPlane
