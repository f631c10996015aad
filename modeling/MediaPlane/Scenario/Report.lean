import MediaPlane.Scenario.Activity

/-
  Running a scenario and reporting on it. For every step the report shows its result, the counts
  after it, and what the world outside saw during it: released elements, delivered events, built
  handlers. At the end it shows a snapshot.
-/

namespace MediaPlane.Scenario

/-- Runs one step to its end. -/
def runStep (w : World) (step : Value) : Value × World :=
  let step := w.bindings.substitute step
  let (a, w) := Activity.start w step
  Activity.complete Activity.patience w (.binding (step.memberAt "bind") a)

/-! ## Reporting -/

/-- A delivery, and who got it; silent handlers keep no record. -/
def deliveryRecord? (d : Delivery) : Option (String × Value) :=
  match d.handler.receiver with
  | .silent => none
  | .named name =>
    some (name, .object [("by", .str name), ("object", .str d.event.object.text),
      ("type", .str d.event.eventType), ("data", d.event.data)])

/-- The records of deliveries, by receiver, each one's in order of time. -/
def deliveryRecords (deliveries : List Delivery) : List Value :=
  ((deliveries.filterMap deliveryRecord?).mergeSort fun a b => decide (a.1 ≤ b.1)).map (·.2)

/-- A list that is left out when it is empty. -/
def unlessEmpty (items : List Value) : Option Value :=
  if items.isEmpty then none else some (.arr items)

/-- A number that is left out when it is zero. -/
def unlessZero (n : Nat) : Option Value := if n = 0 then none else some (.nat n)

/-- What a step did, from the states before and after it. -/
def stepReport (plain : Bool) (before after : ControlPlane) (result : Value) : Value :=
  let s := after.status
  let released := after.journal.released.drop before.journal.released.length
  let deliveries := after.journal.deliveries.drop before.journal.deliveries.length
  .objectOf [("r", some result),
    ("st", some (.arr [.nat s.objects, .nat s.sessions, .nat s.subscriptions, .nat s.handlers])),
    ("rel", if plain then none else unlessEmpty (released.map (.str ·.text))),
    ("ev", unlessEmpty (deliveryRecords deliveries)),
    ("built", unlessZero (after.journal.built - before.journal.built))]

/-- Runs steps one after the other. -/
def runSteps (plain : Bool) (w : World) : List Value → List Value × World
  | [] => ([], w)
  | step :: steps =>
    let (result, next) := runStep w step
    let report := stepReport plain w.plane next.plane result
    let (reports, last) := runSteps plain next steps
    (report :: reports, last)

/-- Sets a control plane up, runs the steps, and reports. -/
def run (scenario : Value) : Value :=
  let w : World := { plane := controlPlane scenario }
  let (reports, last) := runSteps (isPlain scenario) w (scenario.itemsAt "steps")
  .object [("steps", .arr reports), ("end", last.plane.snapshot)]

end MediaPlane.Scenario
