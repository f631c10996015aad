import MediaPlane.Scenario.World

/-
  Activities: steps under way on a virtual clock, which goes on in rounds. In a round activities
  side by side run in the order in which they are listed, each as far as it can; then the routines
  have their turn. Timers go off between rounds only, so a step that moves the clock does not hurry
  those that wait already. An activity with a deadline is given up when the deadline has come and
  it is not done.
-/

namespace MediaPlane.Scenario

/-- How a response is shown. -/
inductive Shape where
  | response (req : Value)
  | http

namespace Shape

def present (s : Shape) (r : Response) : Value :=
  match s with
  | response req => hideTimes req r.toValue
  | http => (Http.Reply.ok r.toValue).toValue

end Shape

/-- A step under way. -/
inductive Activity where
  | done (result : Value)
  /-- Done in the next round. -/
  | yielded (result : Value)
  | call (pending : Pending) (shape : Shape)
  /-- Has to move the clock. -/
  | advance (ms : Nat)
  /-- Ends its routines at a time. -/
  | tasks (owner stop : Nat)
  /-- A step that has not started; its delay counts from when it is first reached. -/
  | idle (start : Option Nat) (step : Value)
  | bounded (deadline : Nat) (a : Activity)
  /-- Binds names when it is done. -/
  | binding (pointers : Value) (a : Activity)
  | group (items : List Activity)

namespace Activity

/-- More rounds, and more steps in one, than any scenario takes. -/
def patience : Nat := 1 <<< 60

def result? : Activity → Option Value
  | done v => some v
  | _ => none

/-- The results of activities that are all done. -/
def results? (items : List Activity) : Option (List Value) := items.mapM result?

/-! ## Giving up -/

mutual

/-- Gives an activity up. Calls that wait leave what they entered; routines go on. -/
def cancel (cp : ControlPlane) : Activity → ControlPlane
  | done _ | yielded _ | advance _ | tasks .. | idle .. => cp
  | call p _ => cp.cancel p
  | bounded _ a => cancel cp a
  | binding _ a => cancel cp a
  | group items => cancelAll cp items

def cancelAll (cp : ControlPlane) : List Activity → ControlPlane
  | [] => cp
  | a :: rest => cancelAll (cancel cp a) rest

end

/-! ## What comes next -/

/-- The earlier of two times that may be missing. -/
def earlier (a b : Option Nat) : Option Nat :=
  match a, b with
  | some x, some y => some (min x y)
  | none, b => b
  | a, none => a

mutual

/-- When the clock alone lets an activity go on. -/
def due? : Activity → Option Nat
  | done _ | yielded _ | advance _ => none
  | call p _ => p.due?
  | tasks _ stop => some stop
  | idle start _ => start
  | bounded deadline a => earlier (some deadline) (due? a)
  | binding _ a => due? a
  | group items => dueAll items

def dueAll : List Activity → Option Nat
  | [] => none
  | a :: rest => earlier (due? a) (dueAll rest)

end

/-! ## Going on -/

/-- What a started item is wrapped in: its deadline, and the names that it binds. -/
def wrap (now : Nat) (item : Value) (a : Activity) : Activity :=
  let limited := match (item.get? "timeout").bind Value.nat? with
    | some ms => bounded (now + ms) a
    | none => a
  binding (item.memberAt "bind") limited

/-- An activity that has been polled: whether it got further, what it is now, and the world. -/
abbrev Polled := Bool × Activity × World

/-- Once an activity is done, its names are bound. -/
def finishBinding (pointers : Value) : Polled → Polled
  | (moved, done v, w) => (moved, done v, { w with bindings := w.bindings.bindAll pointers v })
  | (moved, a, w) => (moved, binding pointers a, w)

/-- An activity that is not done by its deadline is given up. -/
def finishBounded (tick deadline : Nat) : Polled → Polled
  | (moved, done v, w) => (moved, done v, w)
  | (moved, a, w) =>
    if deadline ≤ tick then
      (true, done (.str "aborted"), w.mapPlane fun cp => a.cancel cp)
    else (moved, bounded deadline a, w)

/-- A group is done when all in it are. -/
def finishGroup (r : Bool × List Activity × World) : Polled :=
  match results? r.2.1 with
  | some vs => (true, done (.arr vs), r.2.2)
  | none => (r.1, group r.2.1, r.2.2)

/-- A call got so far. -/
def ofProgress (w : World) (shape : Shape) (r : Progress × ControlPlane) : Activity × World :=
  let w := { w with plane := r.2 }
  match r.1 with
  | .finished response => (done (shape.present response), w)
  | .suspended p => (call p shape, w)

/-- Starts a step whose variables are replaced; a concurrent step becomes a group of idle items. -/
def start (w : World) (step : Value) : Activity × World :=
  match Step.ofValue step with
  | .request req =>
    match Request.ofValue req with
    | .error f => (done (decodeFaultValue f), w)
    | .ok r => ofProgress w (.response req) (w.plane.begin r)
  | .http service message =>
    match Http.route w.plane w.ready service message with
    | .reply r => (done r.toValue, w)
    | .call r => ofProgress w .http (w.plane.begin r)
  | .concurrent items => (group (items.map (idle none)), w)
  | .advance ms => (advance ms, w)
  | .tasks sweepEvery evictEvery duration =>
    let (owner, w) := w.startRoutines sweepEvery evictEvery
    (tasks owner (w.plane.now + duration), w)
  | s =>
    let (v, w) := w.perform s
    (done v, w)

/-- When an item starts that is reached now. Without a delay it does not wait for a timer. -/
def startTime (tick now : Nat) (item : Value) : Nat :=
  let delay := item.natAt "delay"
  if delay = 0 then tick else now + delay

mutual

/-- Lets an activity go as far as it can in a round. Timers have gone off up to `tick`, the time at
which the round began. What it starts is polled in turn while there is fuel. -/
def poll (tick : Nat) : Nat → World → Activity → Polled
  | 0, w, a => (false, a, w)
  | fuel + 1, w, a =>
    match a with
    | done v => (false, done v, w)
    | yielded v => (true, done v, w)
    | call p shape =>
      match w.plane.resume? tick p with
      | none => (false, call p shape, w)
      | some r =>
        let (a, w) := ofProgress w shape r
        let (_, a, w) := poll tick fuel w a
        (true, a, w)
    | advance ms => (true, yielded .null, w.mapPlane (·.advance ms))
    | tasks owner stop =>
      if tick < stop then (false, tasks owner stop, w)
      else (true, yielded .null, w.endRoutines owner)
    | idle none item =>
      poll tick fuel w (idle (some (startTime tick w.plane.now item)) item)
    | idle (some time) item =>
      if tick < time then (false, idle (some time) item, w)
      else
        let item := w.bindings.substitute item
        let (a, w') := start w item
        let (_, a, w') := poll tick fuel w' (wrap w.plane.now item a)
        (true, a, w')
    | bounded deadline a => finishBounded tick deadline (poll tick fuel w a)
    | binding pointers a => finishBinding pointers (poll tick fuel w a)
    | group items => finishGroup (pollAll tick fuel w items)

/-- Polls activities in order. -/
def pollAll (tick : Nat) : Nat → World → List Activity → Bool × List Activity × World
  | 0, w, items => (false, items, w)
  | _ + 1, w, [] => (false, [], w)
  | fuel + 1, w, a :: rest =>
    let (moved, a, w) := poll tick fuel w a
    let (others, rest, w) := pollAll tick fuel w rest
    (moved || others, a :: rest, w)

end

/-! ## Rounds -/

/-- When the clock alone lets something in a world go on, of which `a` is in the foreground. -/
def nextTime? (w : World) (a : Activity) : Option Nat :=
  w.routines.foldl (fun t r => earlier t r.next) a.due?

/-- Runs an activity to its end. The clock moves on only when nothing else gets further. -/
def complete : Nat → World → Activity → Value × World
  | 0, w, _ => (.null, w)
  | fuel + 1, w, a =>
    let tick := w.plane.now
    match poll tick patience w a with
    | (_, done v, w) => (v, w)
    | (moved, a, w) =>
      let w := w.turnRoutines tick
      if moved then complete fuel w a
      else
        match nextTime? w a with
        | none => (.null, w)
        | some t => complete fuel (w.mapPlane fun cp => { cp with now := max cp.now t }) a

end Activity

end MediaPlane.Scenario
