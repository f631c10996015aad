import MediaPlane.ControlPlane.State

/-
  What the control plane tells about itself: counts, and a snapshot of every object with its
  children and holders.
-/

namespace MediaPlane

/-- How many objects, sessions, subscriptions and live handlers there are. -/
structure Status where
  objects : Nat
  sessions : Nat
  subscriptions : Nat
  handlers : Nat
deriving DecidableEq, Repr

namespace Status

def toValue (s : Status) : Value :=
  .object [("objects", .nat s.objects), ("sessions", .nat s.sessions),
    ("subscriptions", .nat s.subscriptions), ("handlers", .nat s.handlers)]

end Status

namespace ControlPlane

def status (cp : ControlPlane) : Status where
  objects := cp.registry.size
  sessions := cp.sessions.size
  subscriptions := cp.dispatcher.subscriptionCount
  handlers := cp.dispatcher.handlerCount

/-- One session's hold on an object, as a snapshot shows it. -/
def holderValue (h : SessionId × Strength) : Value :=
  .object [("sessionId", .str h.1.text), ("strength", .str h.2.name)]

/-- One object, as a snapshot shows it. -/
def objectValue (cp : ControlPlane) (o : MediaObject) : Value :=
  .object [("id", .str o.id.text), ("type", .str o.type.qualifiedName),
    ("parent", Value.orNull (o.parent.map (.str ·.text))),
    ("children", .arr ((cp.registry.childrenOf o.id).map (.str ·.text))),
    ("holders", .arr ((cp.sessions.holdersOf o.id).map holderValue))]

/-- Every object, in order of ids. -/
def snapshot (cp : ControlPlane) : Value := .arr (cp.registry.all.map cp.objectValue)

end ControlPlane

end MediaPlane
