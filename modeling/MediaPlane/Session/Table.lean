import MediaPlane.Identity

/-
  The session table: every live session, the objects it references and how strongly, and the reverse
  index from an object to the sessions that hold it. A reference is strong when the session made or
  claimed the object, and touched when it merely addressed it; a later touch never weakens it.
  Each change is pinned down by what it does to `find?`; `reference?_touch` and
  `reference?_dropReference` say that a touch raises one reference and a drop removes one, and that
  neither changes another.
-/

namespace MediaPlane

/-- How strongly a session holds an object. -/
inductive Strength where
  | touched
  | strong
deriving DecidableEq, Repr, Inhabited

namespace Strength

def name : Strength → String
  | touched => "touched"
  | strong => "strong"

/-- The stronger of two. -/
def max : Strength → Strength → Strength
  | touched, s => s
  | strong, _ => strong

@[simp] theorem max_touched (s : Strength) : max touched s = s := rfl

@[simp] theorem max_strong (s : Strength) : max strong s = strong := rfl

@[simp] theorem max_self (s : Strength) : max s s = s := by cases s <;> rfl

end Strength

/-- The objects that a session holds. -/
abbrev References := Std.ExtTreeMap ObjectId Strength

/-- The sessions that hold an object. -/
abbrev Holders := Std.ExtTreeMap SessionId Strength

/-- One session: when it was last active, how many requests run in it, and what it references. -/
structure Session where
  lastActivity : Nat
  inFlight : Nat := 0
  references : References := ∅

namespace Session

/-- Quiet for longer than `ttl`, with no request running. -/
def isIdle (s : Session) (now ttl : Nat) : Bool :=
  s.inFlight = 0 && ttl < now - s.lastActivity

end Session

/-- The live sessions and the reverse index of their references. -/
structure SessionTable where
  sessions : Std.ExtTreeMap SessionId Session := ∅
  holders : Std.ExtTreeMap ObjectId Holders := ∅

namespace SessionTable

def empty : SessionTable := {}

/-! ## Looking up -/

def find? (t : SessionTable) (s : SessionId) : Option Session := t.sessions[s]?

def contains (t : SessionTable) (s : SessionId) : Bool := t.sessions.contains s

theorem contains_eq (t : SessionTable) (s : SessionId) : t.contains s = (t.find? s).isSome :=
  Std.ExtTreeMap.contains_eq_isSome_getElem?

def size (t : SessionTable) : Nat := t.sessions.size

def ids (t : SessionTable) : List SessionId := t.sessions.keys

/-- What a session references, by object id. -/
def referencesOf (t : SessionTable) (s : SessionId) : List (ObjectId × Strength) :=
  match t.find? s with
  | some e => e.references.toList
  | none => []

/-- How strongly a session holds an object, if at all. -/
def reference? (t : SessionTable) (s : SessionId) (o : ObjectId) : Option Strength :=
  (t.find? s).bind fun e => e.references[o]?

/-- Who holds an object, by session id. -/
def holdersOf (t : SessionTable) (o : ObjectId) : List (SessionId × Strength) :=
  match t.holders[o]? with
  | some h => h.toList
  | none => []

def hasReferences (t : SessionTable) (o : ObjectId) : Bool :=
  match t.holders[o]? with
  | some h => !h.isEmpty
  | none => false

def hasStrongReference (t : SessionTable) (o : ObjectId) : Bool :=
  (t.holdersOf o).any fun h => h.2 = .strong

/-- The sessions that are idle, by id. -/
def idle (t : SessionTable) (now ttl : Nat) : List SessionId :=
  (t.sessions.toList.filter fun p => p.2.isIdle now ttl).map (·.1)

/-! ## Sessions come and go -/

/-- Creates the session unless it exists; whether it was created. -/
def ensure (t : SessionTable) (s : SessionId) (now : Nat) : Bool × SessionTable :=
  if t.contains s then (false, t)
  else (true, { t with sessions := t.sessions.insert s { lastActivity := now } })

@[simp] theorem ensure_fst (t : SessionTable) (s : SessionId) (now : Nat) :
    (t.ensure s now).1 = !t.contains s := by
  simp only [ensure]; split <;> simp_all

theorem find?_ensure (t : SessionTable) (s k : SessionId) (now : Nat) :
    (t.ensure s now).2.find? k =
      if s = k then some ((t.find? s).getD { lastActivity := now }) else t.find? k := by
  simp only [ensure, contains_eq]
  cases h : t.find? s with
  | some e =>
    by_cases hk : s = k
    · subst hk; simp [h]
    · simp [hk]
  | none => simp only [find?] at h ⊢; simp [getElem?_insert_lawful]

@[simp] theorem holders_ensure (t : SessionTable) (s : SessionId) (now : Nat) :
    (t.ensure s now).2.holders = t.holders := by
  simp only [ensure]; split <;> rfl

/-- Changes an existing session. -/
def update (t : SessionTable) (s : SessionId) (f : Session → Session) : SessionTable :=
  match t.find? s with
  | some e => { t with sessions := t.sessions.insert s (f e) }
  | none => t

theorem find?_update (t : SessionTable) (s k : SessionId) (f : Session → Session) :
    (t.update s f).find? k = if s = k then (t.find? s).map f else t.find? k := by
  simp only [update]
  cases h : t.find? s with
  | none =>
    by_cases hk : s = k
    · subst hk; simp [h]
    · simp [hk]
  | some e => simp [find?, getElem?_insert_lawful]

@[simp] theorem holders_update (t : SessionTable) (s : SessionId) (f : Session → Session) :
    (t.update s f).holders = t.holders := by
  simp only [update]; split <;> rfl

/-- Restarts the idle time of an existing session. -/
def recordActivity (t : SessionTable) (s : SessionId) (now : Nat) : SessionTable :=
  t.update s fun e => { e with lastActivity := now }

/-- A request starts in the session, which is created if needed; whether it was. -/
def enter (t : SessionTable) (s : SessionId) (now : Nat) : Bool × SessionTable :=
  let (created, t) := t.ensure s now
  (created, t.update s fun e => { e with inFlight := e.inFlight + 1, lastActivity := now })

/-- A request in the session ends. -/
def leave (t : SessionTable) (s : SessionId) (now : Nat) : SessionTable :=
  t.update s fun e => { e with inFlight := e.inFlight - 1, lastActivity := now }

/-! ## References -/

/-- Takes a session out of an object's holders; an emptied set goes too. -/
def dropHolder (holders : Std.ExtTreeMap ObjectId Holders) (o : ObjectId) (s : SessionId) :
    Std.ExtTreeMap ObjectId Holders :=
  match holders[o]? with
  | none => holders
  | some h => if (h.erase s).isEmpty then holders.erase o else holders.insert o (h.erase s)

/-- Records a reference or strengthens it; the session is created if needed. -/
def touch (t : SessionTable) (s : SessionId) (o : ObjectId) (strength : Strength) (now : Nat) :
    SessionTable :=
  let t := (t.ensure s now).2
  match t.find? s with
  | none => t
  | some e =>
    let new := (e.references[o]?.getD strength).max strength
    { sessions := t.sessions.insert s { e with references := e.references.insert o new }
      holders := t.holders.insert o ((t.holders[o]?.getD ∅).insert s new) }

theorem find?_touch (t : SessionTable) (s k : SessionId) (o : ObjectId) (strength : Strength)
    (now : Nat) :
    (t.touch s o strength now).find? k =
      if s = k then
        let e := (t.find? s).getD { lastActivity := now }
        some { e with
          references := e.references.insert o ((e.references[o]?.getD strength).max strength) }
      else t.find? k := by
  have h : (t.ensure s now).2.find? s = some ((t.find? s).getD { lastActivity := now }) := by
    simp [find?_ensure]
  simp only [touch, h]
  simp only [find?, getElem?_insert_lawful]
  by_cases hk : s = k
  · simp [hk]
  · have := find?_ensure t s k now
    simp only [find?, hk] at this ⊢
    simpa using this

/-- A touch raises one reference and changes no other. -/
theorem reference?_touch (t : SessionTable) (s k : SessionId) (o x : ObjectId)
    (strength : Strength) (now : Nat) :
    (t.touch s o strength now).reference? k x =
      if s = k ∧ o = x then some (((t.reference? s o).getD strength).max strength)
      else t.reference? k x := by
  simp only [reference?, find?_touch]
  by_cases hk : s = k
  · subst hk
    by_cases hx : o = x
    · subst hx
      cases h : t.find? s <;> simp
    · cases h : t.find? s <;> simp [getElem?_insert_lawful, hx]
  · simp [hk]

/-- Drops a session's reference to an object, whatever its strength. -/
def dropReference (t : SessionTable) (s : SessionId) (o : ObjectId) : SessionTable :=
  match t.find? s with
  | none => t
  | some e =>
    if e.references.contains o then
      { sessions := t.sessions.insert s { e with references := e.references.erase o }
        holders := dropHolder t.holders o s }
    else t

theorem find?_dropReference (t : SessionTable) (s k : SessionId) (o : ObjectId) :
    (t.dropReference s o).find? k =
      if s = k then (t.find? s).map fun e => { e with references := e.references.erase o }
      else t.find? k := by
  unfold dropReference
  cases h : t.find? s with
  | none =>
    by_cases hk : s = k
    · subst hk; simp [h]
    · simp [hk]
  | some e =>
    dsimp only
    split
    · simp [find?, getElem?_insert_lawful]
    · next ho =>
      by_cases hk : s = k
      · subst hk
        have ho : o ∉ e.references := fun hm => ho (Std.ExtTreeMap.contains_iff_mem.mpr hm)
        simp [h, erase_of_not_mem ho]
      · simp [hk]

/-- Dropping a reference removes it and changes no other. -/
theorem reference?_dropReference (t : SessionTable) (s k : SessionId) (o x : ObjectId) :
    (t.dropReference s o).reference? k x =
      if s = k ∧ o = x then none else t.reference? k x := by
  simp only [reference?, find?_dropReference]
  by_cases hk : s = k
  · subst hk
    cases h : t.find? s <;> simp [getElem?_erase_lawful]
  · simp [hk]

/-- Removes a session with all its references, and tells what they were. -/
def removeSession? (t : SessionTable) (s : SessionId) :
    Option (List (ObjectId × Strength) × SessionTable) :=
  (t.find? s).map fun e =>
    let references := e.references.toList
    (references,
      { sessions := t.sessions.erase s
        holders := references.foldl (fun h r => dropHolder h r.1 s) t.holders })

theorem removeSession?_eq_none_iff (t : SessionTable) (s : SessionId) :
    t.removeSession? s = none ↔ t.contains s = false := by
  simp [removeSession?, contains_eq]

/-- Removes sessions one after the other. -/
def removeSessions (t : SessionTable) (ss : List SessionId) : SessionTable :=
  ss.foldl (fun t s => ((t.removeSession? s).map (·.2)).getD t) t

/-- Forgets an object in every session. -/
def purge (t : SessionTable) (o : ObjectId) : SessionTable :=
  match t.holders[o]? with
  | none => t
  | some h =>
    { sessions := h.keys.foldl
        (fun sessions s =>
          match sessions[s]? with
          | some e => sessions.insert s { e with references := e.references.erase o }
          | none => sessions)
        t.sessions
      holders := t.holders.erase o }

end SessionTable

end MediaPlane
