import MediaPlane.Scenario.Setup

/-
  Scenarios of the retry cache alone. The rights to complete an execution are held by name, and so
  are the places of those who wait. A right that is replaced by another of its name is given up.
-/

namespace MediaPlane.Scenario

/-- A retry cache under test, with a clock. -/
structure RetryBench where
  cache : RetryCache
  now : Nat := 0
  guards : List (String × Guard) := []
  /-- The executions that are waited for, by ticket. -/
  waiters : List (String × Nat) := []

namespace RetryBench

/-- Gives up the right of a name, if there is one. -/
def drop (b : RetryBench) (name : String) : RetryBench :=
  match b.guards.lookup name with
  | none => b
  | some g =>
    { b with cache := b.cache.abandon g, guards := b.guards.filter (·.1 ≠ name) }

/-- A request arrives. -/
def arrive (b : RetryBench) (name : String) (key : RetryKey) : Value × RetryBench :=
  match b.cache.begin key b.now with
  | (.fresh g, cache) =>
    let b := { b with cache }.drop name
    (.str "fresh", { b with guards := (name, g) :: b.guards })
  | (.replay response, cache) => (.object [("replay", response.toValue)], { b with cache })
  | (.pending ticket, cache) =>
    (.str "pending", { b with cache, waiters := (name, ticket) :: b.waiters })

/-- An execution completes. -/
def complete (b : RetryBench) (name : String) (response : Value) : Value × RetryBench :=
  match b.guards.lookup name with
  | none => (.str "no such guard", b)
  | some g =>
    match Response.ofValue response with
    | .error f => (decodeFaultValue f, b)
    | .ok r =>
      (.bool true,
        { b with cache := b.cache.complete g r b.now, guards := b.guards.filter (·.1 ≠ name) })

/-- Runs one step. -/
def perform (b : RetryBench) (v : Value) : Value × RetryBench :=
  let name := v.textAt "name"
  match v.textAt "do" with
  | "begin" =>
    match RequestId.ofValue? (v.memberAt "id") with
    | none => (decodeFaultValue (.noVariant "RequestId"), b)
    | some id => b.arrive name { session := ⟨v.textAt "session"⟩, id }
  | "complete" => b.complete name (v.memberAt "response")
  | "drop" => (.bool (b.guards.lookup name).isSome, b.drop name)
  | "wait" =>
    match b.waiters.lookup name with
    | none => (.str "no such waiter", b)
    | some ticket =>
      match b.cache.outcome? ticket with
      | none => (.str "waiting", b)
      | some r => (.object [("done", Value.orNull (r.map Response.toValue))], b)
  | "advance" => (.null, { b with now := b.now + v.natAt "ms" })
  | "evict" =>
    let (n, cache) := b.cache.evict b.now
    (.nat n, { b with cache })
  | _ => (.null, b)

def runSteps (b : RetryBench) : List Value → List Value
  | [] => []
  | step :: steps =>
    let (result, next) := b.perform step
    let n := next.cache.size
    .object [("r", result), ("len", .nat n), ("empty", .bool (n = 0))] :: runSteps next steps

end RetryBench

/-- Runs a scenario of the retry cache alone. -/
def runRetries (scenario : Value) : Value :=
  let b : RetryBench := { cache := { retention := milliseconds scenario "retention_ms" 0 } }
  .object [("steps", .arr (b.runSteps (scenario.itemsAt "steps")))]

end MediaPlane.Scenario
