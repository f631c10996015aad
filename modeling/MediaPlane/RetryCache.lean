import MediaPlane.Request.Message

/-
  The retry cache. A request that names an id and a session is known by both. While it runs, a
  repetition waits for it; once it has completed, its response is replayed for a bounded time. A
  request that is given up leaves no entry, and those who wait for it learn that no response comes.
  `begin_complete`: within the retention a completed response is what a repetition finds.
-/

namespace MediaPlane

/-- What retries of a request have in common. -/
structure RetryKey where
  session : SessionId
  id : RequestId
deriving DecidableEq, Repr

namespace RetryKey

def sortKey (k : RetryKey) : SessionId × RequestId := (k.session, k.id)

instance : Ord RetryKey := ⟨compareBy comparePair sortKey⟩

instance : Std.TransOrd RetryKey := inferInstanceAs (Std.TransCmp (compareBy comparePair sortKey))

instance : Std.LawfulEqOrd RetryKey :=
  lawfulEqCmp_compareBy fun {a b} h => by cases a; cases b; simpa [sortKey] using h

end RetryKey

/-- The right to complete an execution; executions are told apart by their tickets. -/
structure Guard where
  key : RetryKey
  ticket : Nat
deriving DecidableEq, Repr

/-- What is known of a request. -/
inductive RetryEntry where
  | inFlight (ticket : Nat)
  | completed (response : Response) (time : Nat)
deriving Repr

/-- What a request finds when it arrives. -/
inductive Arrival where
  /-- Nothing: it is to be executed. -/
  | fresh (guard : Guard)
  /-- A response to replay. -/
  | replay (response : Response)
  /-- An execution to wait for. -/
  | pending (ticket : Nat)
deriving Repr

structure RetryCache where
  /-- How long a response is replayed, in milliseconds. -/
  retention : Nat
  entries : Std.ExtTreeMap RetryKey RetryEntry := ∅
  nextTicket : Nat := 0
  /-- How executions ended: with a response, or given up. -/
  ended : Std.ExtTreeMap Nat (Option Response) := ∅

namespace RetryCache

def size (c : RetryCache) : Nat := c.entries.size

/-- Whether a response completed at a time is too old to be replayed. -/
def expired (c : RetryCache) (completed now : Nat) : Bool := c.retention < now - completed

/-- Marks a request as in flight. -/
def start (c : RetryCache) (key : RetryKey) : Guard × RetryCache :=
  (⟨key, c.nextTicket⟩,
    { c with
      entries := c.entries.insert key (.inFlight c.nextTicket)
      nextTicket := c.nextTicket + 1 })

/-- A request arrives. -/
def begin (c : RetryCache) (key : RetryKey) (now : Nat) : Arrival × RetryCache :=
  let fresh := let (guard, c) := c.start key; (Arrival.fresh guard, c)
  match c.entries[key]? with
  | some (.completed response completed) =>
    if c.expired completed now then fresh else (.replay response, c)
  | some (.inFlight ticket) => (.pending ticket, c)
  | none => fresh

/-- An execution completes with a response. -/
def complete (c : RetryCache) (guard : Guard) (response : Response) (now : Nat) : RetryCache :=
  { c with
    entries := c.entries.insert guard.key (.completed response now)
    ended := c.ended.insert guard.ticket (some response) }

/-- An execution is given up. -/
def abandon (c : RetryCache) (guard : Guard) : RetryCache :=
  { c with
    entries := c.entries.erase guard.key
    ended := c.ended.insert guard.ticket none }

/-- Whether an entry stays when expired ones are dropped. -/
def keeps (c : RetryCache) (now : Nat) : RetryEntry → Bool
  | .inFlight _ => true
  | .completed _ completed => !c.expired completed now

/-- Drops the responses that are too old to be replayed, and says how many there were. -/
def evict (c : RetryCache) (now : Nat) : Nat × RetryCache :=
  let kept := c.entries.filter fun _ e => c.keeps now e
  (c.entries.size - kept.size, { c with entries := kept })

/-- How an execution ended, once it has. -/
def outcome? (c : RetryCache) (ticket : Nat) : Option (Option Response) := c.ended[ticket]?

theorem outcome?_complete (c : RetryCache) (guard : Guard) (r : Response) (now ticket : Nat) :
    (c.complete guard r now).outcome? ticket =
      if guard.ticket = ticket then some (some r) else c.outcome? ticket := by
  simp [complete, outcome?, getElem?_insert_lawful]

theorem outcome?_abandon (c : RetryCache) (guard : Guard) (ticket : Nat) :
    (c.abandon guard).outcome? ticket =
      if guard.ticket = ticket then some none else c.outcome? ticket := by
  simp [abandon, outcome?, getElem?_insert_lawful]

/-- Within the retention a completed response is replayed. -/
theorem begin_complete (c : RetryCache) (guard : Guard) (r : Response) (t now : Nat)
    (h : now - t ≤ c.retention) :
    ((c.complete guard r t).begin guard.key now).1 = .replay r := by
  simp [complete, begin, expired, Nat.not_lt.mpr h]

end RetryCache

end MediaPlane
