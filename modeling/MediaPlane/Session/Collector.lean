import MediaPlane.Object.Registry
import MediaPlane.Session.Table

/-
  Who holds what, and what nobody holds any more. The registry and the session table change together
  here: objects without a reference and without children are unlinked, deepest first, and closing a
  session drops its references. A forced close also takes out the trees of objects that the session
  owned alone. Elements are not released here; the removed objects are handed to the caller.
-/

namespace MediaPlane

/-- The live objects together with the sessions that hold them. -/
structure Holdings where
  registry : Registry := {}
  sessions : SessionTable := {}

/-- How a session is closed. -/
inductive CloseKind where
  /-- Its references are dropped. -/
  | soft
  /-- Also destroys what it owned and others merely touched. -/
  | forced
  /-- As soft, but skipped unless it has been idle for longer than `ttl`. -/
  | idle (now ttl : Nat)
deriving DecidableEq, Repr

/-- The objects that a close removed. -/
structure Closure where
  /-- Destroyed because the session owned them. -/
  forced : List MediaObject := []
  /-- Collected because nobody holds them any more. -/
  collected : List MediaObject := []

namespace Closure

def count (c : Closure) : Nat := c.forced.length + c.collected.length

end Closure

namespace Holdings

def empty : Holdings := {}

/-- Unlinks a tree and forgets its objects in every session. -/
def remove (h : Holdings) (id : ObjectId) : List MediaObject × Holdings :=
  let (removed, registry) := h.registry.remove id
  (removed, { registry, sessions := removed.foldl (fun t o => t.purge o.id) h.sessions })

/-! ## Collection -/

/-- The depths of the candidates and of everything above them. -/
def depths (r : Registry) (candidates : List ObjectId) : Std.ExtTreeMap ObjectId Nat :=
  candidates.foldl
    (fun m c =>
      let above := r.ancestors c
      let m := above.zipIdx.foldl (fun m a => m.insert a.1 (above.length - (a.2 + 1))) m
      m.insert c above.length)
    ∅

/-- Deeper before shallower. -/
def deeperFirst (a b : ObjectId × Nat) : Bool := decide (b.2 ≤ a.2)

/-- What is to be looked at: the candidates and all above them, deepest first, equals by id. -/
def collectionOrder (r : Registry) (candidates : List ObjectId) : List ObjectId :=
  ((depths r candidates).toList.mergeSort deeperFirst).map (·.1)

/-- Whether an object is live, held by nobody and without children. -/
def isGarbage (h : Holdings) (id : ObjectId) : Bool :=
  h.registry.contains id && !h.sessions.hasReferences id && !h.registry.hasChildren id

/-- Looks at objects one after the other and removes those that are garbage by then. -/
def collectInOrder (h : Holdings) : List ObjectId → List MediaObject × Holdings
  | [] => ([], h)
  | id :: ids =>
    if h.isGarbage id then
      let (removed, next) := h.remove id
      let (more, rest) := collectInOrder next ids
      (removed ++ more, rest)
    else collectInOrder h ids

/-- Removes what nobody holds among the candidates and above them, children before parents. -/
def collect (h : Holdings) (candidates : List ObjectId) : List MediaObject × Holdings :=
  h.collectInOrder (collectionOrder h.registry candidates)

/-! ## Closing a session -/

/-- Whether somebody strongly holds an object or one below it. -/
def isClaimed (h : Holdings) (id : ObjectId) : Bool :=
  h.sessions.hasStrongReference id ||
    (h.registry.descendants id).any h.sessions.hasStrongReference

/-- Destroys the trees of owned objects that nobody else claims; also gives the parents of their
roots, to be looked at again. -/
def destroyOwned (h : Holdings) : List ObjectId → List MediaObject × List ObjectId × Holdings
  | [] => ([], [], h)
  | id :: ids =>
    if h.registry.contains id && !h.isClaimed id then
      let parent := h.registry.parentOf id
      let (removed, next) := h.remove id
      let (more, parents, rest) := destroyOwned next ids
      (removed ++ more, parent.toList ++ parents, rest)
    else destroyOwned h ids

/-- The strongly held ones among references, nearer to the root first. -/
def owned (r : Registry) (references : List (ObjectId × Strength)) : List ObjectId :=
  ((references.filter fun p => p.2 = .strong).map (·.1)).mergeSort
    fun a b => decide ((r.ancestors a).length ≤ (r.ancestors b).length)

/-- Whether a close goes ahead: always, but for an idle close of a session that is not idle. -/
def closes (kind : CloseKind) (s : Session) : Bool :=
  match kind with
  | .idle now ttl => s.isIdle now ttl
  | _ => true

/-- Closes a session. No closure is given when an idle close is skipped; an unknown session is a
failure. -/
def close (h : Holdings) (s : SessionId) (kind : CloseKind) :
    Except Failure (Option (Closure × Holdings)) :=
  match h.sessions.find? s, h.sessions.removeSession? s with
  | some e, some (references, sessions) =>
    if closes kind e then
      let h : Holdings := { h with sessions }
      let (forced, parents, h) := match kind with
        | .forced => h.destroyOwned (owned h.registry references)
        | _ => ([], [], h)
      let (collected, h) := h.collect (parents ++ references.map (·.1))
      .ok (some ({ forced, collected }, h))
    else .ok none
  | _, _ => .error (.invalidSession s)

end Holdings

end MediaPlane
