import MediaPlane.ControlPlane.Operation

/-
  Calls: requests on their way to a response. A call runs until it is finished or has to wait; while
  it waits, other calls run. It goes on once what it waits for is there, or it is given up, and then
  leaves its session and the retry cache. A call that repeats one in flight waits for that one's
  response. A transaction runs its entries in order; it waits where one of its entries waits.
-/

namespace MediaPlane

/-- A transaction that is under way: its current method, what is left, and what is done. -/
structure Batch where
  method : String
  rest : List Value
  slots : Slots
  results : List Value

/-- How far a transaction got. -/
inductive BatchOutcome where
  | completed (results : List Value)
  | waiting (w : Wait) (batch : Batch)

/-- What has to be known of a call to answer it. -/
structure Caller where
  id : Option RequestId
  /-- The session that the request named. -/
  named : Option SessionId
  /-- The session that the request runs in. -/
  session : SessionId
  /-- The method under which the request is counted. -/
  label : String
  guard : Option Guard

/-- A call that waits. -/
inductive Pending where
  /-- For the response of the call that it repeats. -/
  | duplicate (key : RetryKey) (ticket : Nat)
  /-- For its own operation, or for that of its transaction's current entry. -/
  | running (caller : Caller) (wait : Wait) (batch : Option Batch)

/-- When a waiting call goes on by the clock alone. -/
def Pending.due? : Pending → Option Nat
  | duplicate .. => none
  | running _ wait _ => some wait.ready

/-- How far a call got. -/
inductive Progress where
  | finished (response : Response)
  | suspended (pending : Pending)

/-- The label of requests whose method is not known. -/
def unknownLabel : String := "unknown"

/-- The label under which a method is counted. -/
def methodLabel (method : String) : String :=
  match Method.ofName? method with
  | some m => m.name
  | none => unknownLabel

namespace Caller

/-- The session that the response names. A ping without a session does not get one. -/
def echoed (c : Caller) : Option SessionId :=
  if c.named.isNone && c.label == Method.ping.name then none else some c.session

end Caller

/-- How a transaction's entry appears in its result. -/
def entryResult : Except Failure Value → Value
  | .ok result => .object [("result", result)]
  | .error failure => .object [("error", failure.body.toValue)]

namespace Slots

/-- The object that an entry made, if it made one. -/
def made (result : Except Failure Value) : Option ObjectId :=
  match result with
  | .ok v => ((v.get? "value").bind Value.str?).map ObjectId.mk
  | .error _ => none

/-- A create takes a slot, whatever came of it. -/
def record (slots : Slots) (method : String) (result : Except Failure Value) : Slots :=
  if method = Method.create.name then slots ++ [made result] else slots

end Slots

namespace ControlPlane

/-! ## Transactions -/

/-- The operation of a transaction's entry, its forward references replaced. -/
def entryOperation (slots : Slots) (method : String) (params : Value) :
    Except Failure Operation :=
  if Operation.allowedInTransaction method then
    match slots.substitute params with
    | .error e => .error e
    | .ok params => Operation.ofParts method params
  else .error (.invalidParams (.notInTransaction method))

/-- Runs one entry of a transaction. -/
def executeEntry (cp : ControlPlane) (session : SessionId) (slots : Slots) (method : String)
    (params : Value) : Outcome × ControlPlane :=
  match entryOperation slots method params with
  | .error e => (.settled (.error e), cp)
  | .ok op => cp.execute session op

/-- Runs the entries that are left. -/
def runEntries (cp : ControlPlane) (session : SessionId) (slots : Slots) (results : List Value) :
    List Value → BatchOutcome × ControlPlane
  | [] => (.completed results, cp)
  | entry :: rest =>
    match Operation.splitEntry entry with
    | .error e => runEntries cp session slots (results ++ [entryResult (.error e)]) rest
    | .ok (method, params) =>
      match cp.executeEntry session slots method params with
      | (.waiting w, cp) => (.waiting w { method, rest, slots, results }, cp)
      | (.settled result, cp) =>
        runEntries cp session (slots.record method result) (results ++ [entryResult result]) rest

/-! ## Responses -/

/-- Answers a call: counts it, and lets its repetitions have the response. -/
def respond (cp : ControlPlane) (caller : Caller) (result : Except Failure Value) :
    Progress × ControlPlane :=
  let response := Response.ofOutcome caller.id caller.echoed result
  let cp := cp.countRequest caller.label result
  (.finished response,
    match caller.guard with
    | none => cp
    | some guard => { cp with cache := cp.cache.complete guard response cp.now })

/-- An operation in a session got so far. -/
def proceed (cp : ControlPlane) (caller : Caller) : Outcome → Progress × ControlPlane
  | .settled result => (cp.leave caller.session).respond caller result
  | .waiting w => (.suspended (.running caller w none), cp)

/-- A transaction in a session got so far. -/
def proceedBatch (cp : ControlPlane) (caller : Caller) : BatchOutcome → Progress × ControlPlane
  | .completed results =>
    (cp.leave caller.session).respond caller (.ok (valueResult (.arr results)))
  | .waiting w batch => (.suspended (.running caller w (some batch)), cp)

/-! ## The stages of a call -/

/-- Starts an operation for a caller. Only what addresses objects enters the session. -/
def perform (cp : ControlPlane) (caller : Caller) (op : Operation) : Progress × ControlPlane :=
  match op with
  | .ping => cp.respond caller (.ok (valueResult (.str "pong")))
  | .keepAlive =>
    match cp.keepAlive caller.session with
    | .error e => cp.respond caller (.error e)
    | .ok cp => cp.respond caller (.ok emptyResult)
  | .connect => (cp.connect caller.session).respond caller (.ok (sessionResult caller.session))
  | .closeSession forced =>
    match cp.closeSession caller.session forced with
    | .error e => cp.respond caller (.error e)
    | .ok (_, cp) => cp.respond caller (.ok emptyResult)
  | .transaction entries =>
    let (outcome, cp) := (cp.enter caller.session).runEntries caller.session [] [] entries
    cp.proceedBatch caller outcome
  | op =>
    let (outcome, cp) := (cp.enter caller.session).execute caller.session op
    cp.proceed caller outcome

/-- The session of a request: the one it names, or a new name. -/
def sessionFor (cp : ControlPlane) : Option SessionId → SessionId × ControlPlane
  | some s => (s, cp)
  | none =>
    let (text, cp) := cp.drawName
    (⟨text⟩, cp)

/-- Executes a request that no earlier execution answers. -/
def start (cp : ControlPlane) (r : Request) (guard : Option Guard) : Progress × ControlPlane :=
  let (session, cp) := cp.sessionFor r.session
  let caller : Caller :=
    { id := r.id, named := r.session, session, label := methodLabel r.method, guard }
  match r.operation with
  | .error e => cp.respond caller (.error e)
  | .ok op => cp.perform caller op

/-- A request arrives. One that names an id and a session may repeat an earlier one. -/
def begin (cp : ControlPlane) (r : Request) : Progress × ControlPlane :=
  match r.id, r.session with
  | some id, some session =>
    let key : RetryKey := { session, id }
    let replayed := { cp with metrics := cp.metrics.countReplay }
    match cp.cache.begin key cp.now with
    | (.fresh guard, cache) => { cp with cache }.start r (some guard)
    | (.replay response, _) => (.finished response, replayed)
    | (.pending ticket, _) => (.suspended (.duplicate key ticket), replayed)
  | _, _ => cp.start r none

/-- The response to a repetition whose first call was given up. -/
def abandonedResponse (key : RetryKey) : Response :=
  .ofOutcome (some key.id) (some key.session) (.error (.internal .abandoned))

/-- Goes on with a call, if what it waits for is there. Timers have gone off up to the time `tick`,
which may lie behind the clock. -/
def resume? (cp : ControlPlane) (tick : Nat) (p : Pending) : Option (Progress × ControlPlane) :=
  match p with
  | .duplicate key ticket =>
    (cp.cache.outcome? ticket).map fun response =>
      (.finished (response.getD (abandonedResponse key)), cp)
  | .running caller wait batch =>
    if tick < wait.ready then none
    else
      let (result, cp) := cp.finishWait caller.session wait
      match batch with
      | none => some (cp.proceed caller (.settled result))
      | some b =>
        let (outcome, cp) := cp.runEntries caller.session (b.slots.record b.method result)
          (b.results ++ [entryResult result]) b.rest
        some (cp.proceedBatch caller outcome)

/-- Gives a waiting call up. -/
def cancel (cp : ControlPlane) (p : Pending) : ControlPlane :=
  match p with
  | .duplicate .. => cp
  | .running caller _ _ =>
    let cp := cp.leave caller.session
    match caller.guard with
    | none => cp
    | some guard => { cp with cache := cp.cache.abandon guard }

/-- Runs a request that does not have to wait; none if it does. -/
def process? (cp : ControlPlane) (r : Request) : Option (Response × ControlPlane) :=
  match cp.begin r with
  | (.finished response, cp) => some (response, cp)
  | (.suspended _, _) => none

end ControlPlane

end MediaPlane
