import MediaPlane.ControlPlane.State

/-
  The life of sessions and of what they hold: connecting, keeping alive, closing, the sweep over
  idle sessions, and the shutdown. Objects that go are handed to `teardown` after the tables have
  settled.
-/

namespace MediaPlane

namespace ControlPlane

/-- Restarts the idle time of a session. -/
def keepAlive (cp : ControlPlane) (session : SessionId) : Except Failure ControlPlane :=
  if cp.sessions.contains session then
    .ok (cp.withSessions (cp.sessions.recordActivity session cp.now))
  else .error (.invalidSession session)

/-- Establishes a session, or refreshes it if it exists. -/
def connect (cp : ControlPlane) (session : SessionId) : ControlPlane :=
  let (created, sessions) := cp.sessions.ensure session cp.now
  let cp := cp.withSessions (sessions.recordActivity session cp.now)
  if created then cp.gaugeSessions else cp

/-- The subscriptions of a session go. -/
def dropSubscriptions (cp : ControlPlane) (session : SessionId) : ControlPlane :=
  { cp with dispatcher := (cp.dispatcher.dropSession session).2 }

/-- Closes a session, by force if asked; how many objects went with it. -/
def closeSession (cp : ControlPlane) (session : SessionId) (forced : Bool) :
    Except Failure (Nat × ControlPlane) :=
  match cp.holdings.close session (if forced then .forced else .soft) with
  | .error e => .error e
  | .ok closed =>
    let (closure, holdings) := closed.getD ({}, cp.holdings)
    let cp := { cp with holdings }.dropSubscriptions session
    let cp := (cp.teardown .forced closure.forced).teardown .unreferenced closure.collected
    .ok (closure.count, cp.gaugeSessions.gaugeSubscriptions)

/-! ## The idle sweep -/

/-- Closes a session if it is still idle; the next state if it was. -/
def expire? (cp : ControlPlane) (session : SessionId) : Option ControlPlane :=
  match cp.holdings.close session (.idle cp.now cp.sessionTtl) with
  | .ok (some (closure, holdings)) =>
    some (({ cp with holdings }.dropSubscriptions session).teardown .unreferenced closure.collected)
  | _ => none

/-- Closes the idle ones among sessions; how many there were. -/
def expireAll (cp : ControlPlane) : List SessionId → Nat × ControlPlane
  | [] => (0, cp)
  | s :: ss =>
    match cp.expire? s with
    | none => expireAll cp ss
    | some cp =>
      let (closed, cp) := expireAll cp ss
      (closed + 1, cp)

/-- Closes every idle session; how many there were. -/
def sweep (cp : ControlPlane) : Nat × ControlPlane :=
  let (closed, cp) := cp.expireAll (cp.sessions.idle cp.now cp.sessionTtl)
  (closed, if closed = 0 then cp else cp.gaugeSessions.gaugeSubscriptions)

/-- Forgets the responses that are too old to be replayed; how many there were. -/
def evict (cp : ControlPlane) : Nat × ControlPlane :=
  let (evicted, cache) := cp.cache.evict cp.now
  (evicted, { cp with cache })

/-! ## The end -/

/-- Closes every session and releases every object. -/
def shutdown (cp : ControlPlane) : ControlPlane :=
  let ids := cp.sessions.ids
  let (removed, registry) := cp.registry.drain
  let cp := { cp with holdings := { registry, sessions := cp.sessions.removeSessions ids } }
  let cp := (ids.foldl dropSubscriptions cp).teardown .shutdown removed
  { cp with metrics := { cp.metrics with sessionsActive := some 0 } }.gaugeSubscriptions

/-! ## Events from outside -/

/-- Raises an event on behalf of a live object; how many handlers it reached. -/
def emit (cp : ControlPlane) (object : ObjectId) (eventType : String) (data : Value) :
    Except Failure (Nat × ControlPlane) :=
  if cp.registry.contains object then .ok (cp.raise ⟨object, eventType, data⟩)
  else .error (.objectNotFound object)

/-- Subscribes with a receiver that the caller brings; the subscription's name. -/
def connectHandler (cp : ControlPlane) (object : ObjectId) (session : SessionId)
    (eventType : String) (receiver : Receiver) : Except Failure SubscriptionId × ControlPlane :=
  match cp.touch session object with
  | .error e => (.error e, cp)
  | .ok (_, cp) =>
    let (text, cp) := cp.drawName
    let id : SubscriptionId := ⟨text⟩
    let key := cp.dispatcher.keyFor object session eventType
    let cp := { cp with dispatcher := cp.dispatcher.attach id session key receiver }
    match cp.ensureLive object with
    | (.error e, cp) => (.error e, cp)
    | (.ok (), cp) => (.ok id, cp.gaugeSubscriptions)

/-- Subscribes with a handler that somebody holds, under a name of the caller's choice. -/
def shareHandler (cp : ControlPlane) (object : ObjectId) (session : SessionId)
    (id : SubscriptionId) (handler : Handler) : Except Failure Unit × ControlPlane :=
  match cp.touch session object with
  | .error e => (.error e, cp)
  | .ok (_, cp) =>
    match cp.dispatcher.share object session id handler with
    | .error e => (.error e, cp)
    | .ok dispatcher =>
      match { cp with dispatcher }.ensureLive object with
      | (.error e, cp) => (.error e, cp)
      | (.ok (), cp) => (.ok (), cp.gaugeSubscriptions)

/-- The live handler that a subscription of a session would share. -/
def lookupHandler? (cp : ControlPlane) (object : ObjectId) (session : SessionId)
    (eventType : String) : Option Handler :=
  cp.dispatcher.lookup? object session eventType

end ControlPlane

end MediaPlane
