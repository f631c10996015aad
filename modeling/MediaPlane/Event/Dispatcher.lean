import MediaPlane.Event.Handler

/-
  The dispatcher routes events to handlers. Subscriptions own their handlers; the handler table and
  the source index only know of them. A handler is live while a subscription or a holder outside the
  dispatcher has it, and entries of dead handlers count for nothing until they are pruned. An event
  reaches each live handler of its source once, however many subscriptions share it. Pruning never
  touches the subscriptions (`subscriptions_prune`).
-/

namespace MediaPlane

/-- One subscription and the handler it owns a share of. -/
structure Subscription where
  id : SubscriptionId
  object : ObjectId
  eventType : String
  session : SessionId
  handler : Handler
deriving DecidableEq, Repr

namespace Subscription

def source (s : Subscription) : EventSource := ⟨s.object, s.eventType⟩

end Subscription

/-- An event raised by an object. -/
structure Event where
  object : ObjectId
  eventType : String
  data : Value
deriving Repr

namespace Event

def source (e : Event) : EventSource := ⟨e.object, e.eventType⟩

end Event

/-- An event that reached a handler. -/
structure Delivery where
  handler : Handler
  event : Event
deriving Repr

/-- Where the handler of a new subscription comes from. -/
inductive Supply where
  /-- The live handler of its key. -/
  | shared (h : Handler)
  /-- A handler that a factory builds for it. -/
  | built (factory : HandlerFactory)

structure Dispatcher where
  /-- The transport's factory, once one is installed. -/
  factory : Option HandlerFactory := none
  /-- The handler known for a key, dead or alive. -/
  handlers : Std.ExtTreeMap HandlerKey Handler := ∅
  /-- The keys of the handlers known for a source. -/
  sources : Std.ExtTreeMap EventSource (Std.ExtTreeSet HandlerKey) := ∅
  subscriptions : Std.ExtTreeMap SubscriptionId Subscription := ∅
  /-- The handlers held outside, once per holder. -/
  held : List Handler := []
  /-- The serial number of the next handler. -/
  nextSerial : Nat := 0

namespace Dispatcher

def empty : Dispatcher := {}

/-! ## Handlers -/

/-- The scope of the installed factory; per session until one is installed. -/
def scope (d : Dispatcher) : HandlerScope :=
  match d.factory with
  | some f => f.scope
  | none => .session

def keyFor (d : Dispatcher) (object : ObjectId) (session : SessionId) (eventType : String) :
    HandlerKey :=
  .under d.scope object session eventType

/-- Whether a subscription or a holder outside has the handler. -/
def isLive (d : Dispatcher) (h : Handler) : Bool :=
  d.subscriptions.any (fun _ s => s.handler.serial == h.serial) ||
    d.held.any fun k => k.serial == h.serial

/-- The live handler of a key. -/
def liveHandler? (d : Dispatcher) (key : HandlerKey) : Option Handler :=
  d.handlers[key]?.filter d.isLive

/-- The live handler that a subscription of this kind would share. -/
def lookup? (d : Dispatcher) (object : ObjectId) (session : SessionId) (eventType : String) :
    Option Handler :=
  d.liveHandler? (d.keyFor object session eventType)

/-- The key of a new subscription, and where its handler comes from: there is a live one to share,
or the installed factory has to build one. -/
def supply (d : Dispatcher) (object : ObjectId) (session : SessionId) (eventType : String) :
    Except Failure (HandlerKey × Supply) :=
  match d.factory with
  | none => .error (.internal .noHandlerFactory)
  | some factory =>
    let key := HandlerKey.under factory.scope object session eventType
    .ok (key, match d.liveHandler? key with
      | some h => .shared h
      | none => .built factory)

section Supply

variable {d : Dispatcher} {object : ObjectId} {session : SessionId} {eventType : String}
  {key : HandlerKey} {factory : HandlerFactory} {h : Handler}

theorem supply_of_live (hf : d.factory = some factory)
    (hlive : d.liveHandler? (.under factory.scope object session eventType) = some h) :
    d.supply object session eventType =
      .ok (.under factory.scope object session eventType, .shared h) := by
  unfold supply
  simp only [hf, hlive]

theorem supply_of_dead (hf : d.factory = some factory)
    (hdead : d.liveHandler? (.under factory.scope object session eventType) = none) :
    d.supply object session eventType =
      .ok (.under factory.scope object session eventType, .built factory) := by
  unfold supply
  simp only [hf, hdead]

theorem keyFor_of_factory (hf : d.factory = some factory) :
    d.keyFor object session eventType = .under factory.scope object session eventType := by
  unfold keyFor scope
  rw [hf]

theorem supply_ok {supply : Supply} (hs : d.supply object session eventType = .ok (key, supply)) :
    key = d.keyFor object session eventType ∧
      ((∃ h, supply = .shared h ∧ d.liveHandler? key = some h) ∨
        ∃ factory, supply = .built factory ∧ d.factory = some factory ∧
          d.liveHandler? key = none) := by
  cases hf : d.factory with
  | none =>
    unfold Dispatcher.supply at hs
    rw [hf] at hs
    cases hs
  | some factory =>
    rw [keyFor_of_factory hf]
    cases hlive : d.liveHandler? (.under factory.scope object session eventType) with
    | none =>
      rw [supply_of_dead hf hlive] at hs
      cases hs
      exact ⟨rfl, Or.inr ⟨factory, rfl, rfl, hlive⟩⟩
    | some h =>
      rw [supply_of_live hf hlive] at hs
      cases hs
      exact ⟨rfl, Or.inl ⟨h, rfl, hlive⟩⟩

theorem object_of_supply {supply : Supply}
    (hs : d.supply object session eventType = .ok (key, supply)) : key.object = object := by
  rw [(supply_ok hs).1]
  rfl

theorem supply_shared (hs : d.supply object session eventType = .ok (key, .shared h)) :
    key = d.keyFor object session eventType ∧ d.liveHandler? key = some h := by
  obtain ⟨hkey, ⟨_, heq, hlive⟩ | ⟨_, heq, -⟩⟩ := supply_ok hs <;> cases heq
  exact ⟨hkey, hlive⟩

theorem supply_built (hs : d.supply object session eventType = .ok (key, .built factory)) :
    key = d.keyFor object session eventType ∧ d.factory = some factory ∧
      d.liveHandler? key = none := by
  obtain ⟨hkey, ⟨_, heq, -⟩ | ⟨_, heq, hf, hdead⟩⟩ := supply_ok hs <;> cases heq
  exact ⟨hkey, hf, hdead⟩

end Supply

/-- How many handlers are live. -/
def handlerCount (d : Dispatcher) : Nat := (d.handlers.toList.filter fun p => d.isLive p.2).length

/-- Makes a handler known under its key and its source. -/
def install (d : Dispatcher) (h : Handler) : Dispatcher :=
  { d with
    handlers := d.handlers.insert h.key h
    sources := d.sources.insert h.key.source ((d.sources[h.key.source]?.getD ∅).insert h.key) }

@[simp] theorem subscriptions_install (d : Dispatcher) (h : Handler) :
    (d.install h).subscriptions = d.subscriptions := rfl

/-- Forgets the handler of a key if it is dead. -/
def pruneKey (d : Dispatcher) (key : HandlerKey) : Dispatcher :=
  match d.handlers[key]? with
  | none => d
  | some h =>
    if d.isLive h then d
    else
      { d with
        handlers := d.handlers.erase key
        sources := match d.sources[key.source]? with
          | none => d.sources
          | some keys =>
            if (keys.erase key).isEmpty then d.sources.erase key.source
            else d.sources.insert key.source (keys.erase key) }

def prune (d : Dispatcher) (keys : List HandlerKey) : Dispatcher := keys.foldl pruneKey d

@[simp] theorem subscriptions_pruneKey (d : Dispatcher) (key : HandlerKey) :
    (d.pruneKey key).subscriptions = d.subscriptions := by
  simp only [pruneKey]; split
  · rfl
  · split <;> rfl

@[simp] theorem subscriptions_prune (d : Dispatcher) (keys : List HandlerKey) :
    (d.prune keys).subscriptions = d.subscriptions := by
  induction keys generalizing d with
  | nil => rfl
  | cons k ks ih => exact (ih (d.pruneKey k)).trans (subscriptions_pruneKey d k)

/-! ## Holders outside -/

/-- Somebody outside takes hold of a handler. -/
def hold (d : Dispatcher) (h : Handler) : Dispatcher := { d with held := h :: d.held }

/-- One holder outside lets go of a handler. -/
def letGo (d : Dispatcher) (h : Handler) : Dispatcher := { d with held := d.held.erase h }

/-! ## Subscriptions -/

def subscriptionCount (d : Dispatcher) : Nat := d.subscriptions.size

/-- Adds a subscription; its handler becomes known unless its key has a live one. -/
def add (d : Dispatcher) (s : Subscription) : Dispatcher :=
  let d := if (d.liveHandler? s.handler.key).isSome then d else d.install s.handler
  { d with subscriptions := d.subscriptions.insert s.id s }

theorem subscriptions_add (d : Dispatcher) (s : Subscription) :
    (d.add s).subscriptions = d.subscriptions.insert s.id s := by
  simp only [add]; split <;> rfl

/-- Subscribes under a key: to its live handler, or to a new one for the receiver. -/
def attach (d : Dispatcher) (id : SubscriptionId) (session : SessionId) (key : HandlerKey)
    (receiver : Receiver) : Dispatcher :=
  let subscription := fun handler : Handler =>
    { id, object := key.object, eventType := key.eventType, session, handler : Subscription }
  match d.liveHandler? key with
  | some h => d.add (subscription h)
  | none =>
    { d with nextSerial := d.nextSerial + 1 }.add (subscription ⟨d.nextSerial, key, receiver⟩)

/-- The receiver that a subscription needs where nobody can be called back: that of the handler it
shares, or of the one that the factory builds on its own. Also the key, and whether a handler was
built. -/
def receiverFor (d : Dispatcher) (object : ObjectId) (session : SessionId) (eventType : String)
    (params : Value) : Except Failure (HandlerKey × Receiver × Bool) :=
  match d.supply object session eventType with
  | .error e => .error e
  | .ok (key, .shared h) => .ok (key, h.receiver, false)
  | .ok (key, .built factory) =>
    match (factory.plan object session eventType params).alone with
    | .error e => .error e
    | .ok receiver => .ok (key, receiver, true)

theorem object_of_receiverFor {d : Dispatcher} {object : ObjectId} {session : SessionId}
    {eventType : String} {params : Value} {key : HandlerKey} {receiver : Receiver} {built : Bool}
    (h : d.receiverFor object session eventType params = .ok (key, receiver, built)) :
    key.object = object := by
  unfold receiverFor at h
  split at h
  · cases h
  · next hs =>
    cases h
    exact object_of_supply hs
  · next hs =>
    split at h <;> cases h
    exact object_of_supply hs

/-- Subscribes with a handler that somebody holds, under an id of the caller's choice. -/
def share (d : Dispatcher) (object : ObjectId) (session : SessionId) (id : SubscriptionId)
    (h : Handler) : Except Failure Dispatcher :=
  if h.key.object ≠ object then
    .error (.invalidParams (.handlerElsewhere h.key.object object))
  else if d.subscriptions.contains id then .error (.invalidParams (.alreadySubscribed id))
  else .ok (d.add { id, object, eventType := h.key.eventType, session, handler := h })

/-- Removes the subscriptions that satisfy `p`, and then the handlers that die of it. -/
def removeWhere (d : Dispatcher) (p : Subscription → Bool) : Nat × Dispatcher :=
  let doomed := (d.subscriptions.toList.filter fun e => p e.2).map (·.2)
  let kept := { d with subscriptions := d.subscriptions.filter fun _ s => !p s }
  (doomed.length, kept.prune (doomed.map (·.handler.key)))

theorem subscriptions_removeWhere (d : Dispatcher) (p : Subscription → Bool) :
    (d.removeWhere p).2.subscriptions = d.subscriptions.filter fun _ s => !p s := by
  simp [removeWhere]

/-- Removes one subscription of an object and a session. -/
def unsubscribe (d : Dispatcher) (object : ObjectId) (session : SessionId)
    (id : SubscriptionId) : Except Failure Dispatcher :=
  match d.subscriptions[id]? with
  | none => .error (.subscriptionNotFound id)
  | some s =>
    if s.object = object ∧ s.session = session then
      .ok (d.removeWhere fun s => s.id = id).2
    else .error (.subscriptionNotFound id)

/-- Removes the subscriptions of a session, and says how many there were. -/
def dropSession (d : Dispatcher) (session : SessionId) : Nat × Dispatcher :=
  d.removeWhere fun s => s.session = session

/-- Removes the subscriptions on an object, and says how many there were. -/
def dropObject (d : Dispatcher) (object : ObjectId) : Nat × Dispatcher :=
  d.removeWhere fun s => s.object = object

/-- The subscriptions on an object, by id. -/
def subscriptionsOn (d : Dispatcher) (object : ObjectId) : List Subscription :=
  (d.subscriptions.toList.map (·.2)).filter fun s => s.object = object

/-! ## Events -/

/-- The live handlers of a source. -/
def targets (d : Dispatcher) (source : EventSource) : List Handler :=
  match d.sources[source]? with
  | none => []
  | some keys => keys.toList.filterMap d.liveHandler?

/-- The deliveries of an event: one to each live handler of its source. -/
def dispatch (d : Dispatcher) (e : Event) : List Delivery :=
  (d.targets e.source).map fun h => ⟨h, e⟩

end Dispatcher

end MediaPlane
