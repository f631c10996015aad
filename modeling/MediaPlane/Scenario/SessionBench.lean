import MediaPlane.Scenario.Setup

/-
  Scenarios of the session table and the collector, over a registry that stays empty.
-/

namespace MediaPlane.Scenario

/-- A session table under test, with a clock. -/
structure SessionBench where
  holdings : Holdings := {}
  now : Nat := 0

namespace SessionBench

def idsValue (ids : List SessionId) : Value := .arr (ids.map (.str ·.text))

/-- Everything that a registry answers about an object. -/
def lookups (r : Registry) (id : ObjectId) (kind : ObjectKind) : Value :=
  let idValue := fun o : MediaObject => Value.str o.id.text
  .object [("contains", .bool (r.contains id)),
    ("get", outcomeValue idValue (r.get id)),
    ("kind", outcomeValue idValue (r.getOfKind id kind)),
    ("parent", outcomeValue (fun o => Value.orNull (o.parent.map (.str ·.text))) (r.get id)),
    ("root", outcomeValue (fun root => .str root.text) (r.rootOf id)),
    ("ancestors", .arr ((r.ancestors id).map (.str ·.text))),
    ("children", .arr ((r.childrenOf id).map (.str ·.text))),
    ("roots", .arr (r.roots.map (.str ·.text))),
    ("size", .nat r.size)]

/-- How to close a session. -/
def closeKind (b : SessionBench) (v : Value) : CloseKind :=
  match v.textAt "kind" with
  | "forced" => .forced
  | "idle" => .idle b.now (v.natAt "ttl_ms")
  | _ => .soft

def close (b : SessionBench) (v : Value) : Value × SessionBench :=
  match b.holdings.close ⟨v.textAt "session"⟩ (b.closeKind v) with
  | .error e => (failureValue e, b)
  | .ok none => (.null, b)
  | .ok (some (closure, holdings)) =>
    (.arr [.nat closure.count, .bool (closure.count = 0)], { b with holdings })

/-- Runs one step. -/
def perform (b : SessionBench) (v : Value) : Value × SessionBench :=
  let object : ObjectId := ⟨v.textAt "object"⟩
  let session : SessionId := ⟨v.textAt "session"⟩
  let t := b.holdings.sessions
  let withSessions := fun sessions => { b with holdings := { b.holdings with sessions } }
  match v.textAt "do" with
  | "touch" =>
    let strength : Strength :=
      if v.textAt "strength" = Strength.strong.name then .strong else .touched
    (.null, withSessions (t.touch session object strength b.now))
  | "keep_alive" => (.bool (t.contains session), withSessions (t.recordActivity session b.now))
  | "contains" => (.bool (t.contains session), b)
  | "holders" =>
    (.arr ((t.holdersOf object).map fun h => .arr [.str h.1.text, .str h.2.name]), b)
  | "refs" =>
    (.arr ((t.referencesOf session).map fun r => .arr [.str r.1.text, .str r.2.name]), b)
  | "idle" => (idsValue (t.idle b.now (v.natAt "ttl_ms")), b)
  | "ids" => (idsValue t.ids, b)
  | "advance" => (.null, { b with now := b.now + v.natAt "ms" })
  | "close" => b.close v
  | "collect" =>
    let (removed, holdings) := b.holdings.collect ((v.textsAt "objects").map ObjectId.mk)
    (.nat removed.length, { b with holdings })
  | "registry" =>
    let kind := (ObjectKind.ofName? (v.textAt "kind")).getD .endpoint
    (lookups b.holdings.registry object kind, b)
  | _ => (.null, b)

def runSteps (b : SessionBench) : List Value → List Value
  | [] => []
  | step :: steps =>
    let (result, next) := b.perform step
    .object [("r", result), ("count", .nat next.holdings.sessions.size)] :: runSteps next steps

end SessionBench

/-- Runs a scenario of the session table alone. -/
def runSessions (scenario : Value) : Value :=
  .object [("steps", .arr (({} : SessionBench).runSteps (scenario.itemsAt "steps")))]

end MediaPlane.Scenario
