import MediaPlane.Failure

/-
  Handlers deliver events to clients. A handler is shared by every subscription of one key: an
  object, an event type and, unless the transport broadcasts, a session. A factory says how the
  transport builds a handler; while it does so it may call back into the control plane, in any
  session and for any object, which a build plan spells out.
-/

namespace MediaPlane

/-- Whether handlers are per session or shared by all sessions. -/
inductive HandlerScope where
  | session
  | broadcast
deriving DecidableEq, Repr

/-- What subscriptions share a handler by; a broadcast handler has no session. -/
structure HandlerKey where
  object : ObjectId
  eventType : String
  session : Option SessionId
deriving DecidableEq, Repr

/-- Where events come from: an object and an event type. -/
structure EventSource where
  object : ObjectId
  eventType : String
deriving DecidableEq, Repr

namespace EventSource

def sortKey (s : EventSource) : ObjectId × String := (s.object, s.eventType)

instance : Ord EventSource := ⟨compareBy comparePair sortKey⟩

instance : Std.TransOrd EventSource :=
  inferInstanceAs (Std.TransCmp (compareBy comparePair sortKey))

instance : Std.LawfulEqOrd EventSource :=
  lawfulEqCmp_compareBy fun {a b} h => by cases a; cases b; simpa [sortKey] using h

end EventSource

namespace HandlerKey

/-- The source whose events a handler of this key gets. -/
def source (k : HandlerKey) : EventSource := ⟨k.object, k.eventType⟩

/-- The key of a subscription under a scope. -/
def under (scope : HandlerScope) (object : ObjectId) (session : SessionId) (eventType : String) :
    HandlerKey where
  object := object
  eventType := eventType
  session := match scope with
    | .session => some session
    | .broadcast => none

def sortKey (k : HandlerKey) : EventSource × Option SessionId := (k.source, k.session)

instance : Ord HandlerKey := ⟨compareBy comparePair sortKey⟩

instance : Std.TransOrd HandlerKey :=
  inferInstanceAs (Std.TransCmp (compareBy comparePair sortKey))

instance : Std.LawfulEqOrd HandlerKey :=
  lawfulEqCmp_compareBy fun {a b} h => by
    cases a; cases b
    simp only [sortKey, source, Prod.mk.injEq, EventSource.mk.injEq] at h
    simp [h]

end HandlerKey

/-- Who gets what a handler delivers; a silent handler keeps no record. -/
inductive Receiver where
  | named (name : String)
  | silent
deriving DecidableEq, Repr

/-- A handler, told apart from others by a serial number. -/
structure Handler where
  serial : Nat
  key : HandlerKey
  receiver : Receiver
deriving DecidableEq, Repr

/-- What a transport does while it builds a handler for a subscription. It may look at the control
plane and call back into it, and what it does next may depend on what it gets: a plan has a branch
for every answer. -/
inductive BuildPlan where
  /-- The handler is built. -/
  | done (receiver : Receiver)
  /-- No handler is built, for a reason. -/
  | refuse (reason : Failure)
  /-- First the transport takes a snapshot of all objects and their holders. -/
  | lookFirst (rest : Value → BuildPlan)
  /-- First a session subscribes to an event type of an object, its handler being built by `inner`
  if need be. -/
  | subscribeFirst (session : SessionId) (object : ObjectId) (eventType : String)
      (inner : BuildPlan) (rest : Except Failure Value → BuildPlan)
  /-- First a session is closed, by force or not; the answer says how many objects went with it. -/
  | closeFirst (session : SessionId) (forced : Bool) (rest : Except Failure Nat → BuildPlan)

namespace BuildPlan

/-- Whether building needs the control plane. -/
def callsBack : BuildPlan → Bool
  | done _ | refuse _ => false
  | lookFirst _ | subscribeFirst .. | closeFirst .. => true

/-- What comes of a plan with no objects and no sessions to call back for: it sees an empty
snapshot, and its calls fail. -/
def alone : BuildPlan → Except Failure Receiver
  | done receiver => .ok receiver
  | refuse reason => .error reason
  | lookFirst rest => (rest (.arr [])).alone
  | subscribeFirst _ object _ _ rest => (rest (.error (.objectNotFound object))).alone
  | closeFirst session _ rest => (rest (.error (.invalidSession session))).alone

end BuildPlan

/-- How a transport builds handlers: their scope, and the plan for each subscription. -/
structure HandlerFactory where
  scope : HandlerScope
  plan : ObjectId → SessionId → String → Value → BuildPlan

namespace HandlerFactory

/-- Builds silent handlers, one per session. -/
def silent : HandlerFactory where
  scope := .session
  plan := fun _ _ _ _ => .done .silent

/-- Builds handlers named for their session, steered by members of the transport parameters:
`$fail` refuses with its text, `$reenter` subscribes again with null parameters, and `$close` closes
the session that it names by force. What its calls come to does not matter to it. -/
def steered (scope : HandlerScope) : HandlerFactory where
  scope := scope
  plan := fun object session eventType params =>
    match (params.get? "$fail").bind Value.str? with
    | some reason => .refuse (.invalidParams (.refused reason))
    | none =>
      let built : BuildPlan := .done (.named session.text)
      let closed := match (params.get? "$close").bind Value.str? with
        | some s => .closeFirst ⟨s⟩ true fun _ => built
        | none => built
      if (params.get? "$reenter").isSome then
        .subscribeFirst session object eventType built fun _ => closed
      else closed

end HandlerFactory

end MediaPlane
