import MediaPlane.Http.Router
import MediaPlane.Scenario.Setup
import MediaPlane.Value.Writer

/-
  The steps of a scenario as they are written, and the variables in them. A text that is a dollar
  sign and a bound name stands for the bound value; other texts stand for themselves. A step can
  bind names to parts of its result.
-/

namespace MediaPlane.Scenario

/-- What a step does. -/
inductive Step where
  | request (req : Value)
  /-- Runs steps side by side. -/
  | concurrent (items : List Value)
  | advance (ms : Nat)
  | keepAlive (session : SessionId)
  | connect (session : SessionId)
  | close (session : SessionId) (forced : Bool)
  | sweep
  | evict
  | setFactory (name : String)
  | emit (object : ObjectId) (eventType : String) (data : Value)
  | connectHandler (object : ObjectId) (session : SessionId) (eventType receiver : String)
  | lookupHandler (object : ObjectId) (session : SessionId) (eventType : String)
      (save : Option String)
  | registerHandler (object : ObjectId) (session : SessionId) (subscription : SubscriptionId)
      (ref : String)
  | dropRef (ref : String)
  | failConstructs (refuse : Bool)
  | mock
  | snapshot
  | reference (session : SessionId) (object : ObjectId)
  | contains (object : ObjectId) (session : SessionId)
  | counts
  | shutdown
  /-- Runs the sweep and the eviction at intervals, for a time. -/
  | tasks (sweepEvery evictEvery duration : Nat)
  | health (ready : Option Bool)
  | http (service : Http.Service) (message : Http.Message)
  | metrics
  | unknown
deriving Repr

namespace Step

def httpMessage (v : Value) : Http.Message where
  method := ((v.get? "method").bind Value.str?).getD "POST"
  target := ((v.get? "uri").bind Value.str?).getD "/rpc"
  contentType := match v.get? "type" with
    | none => some "application/json"
    | some t => t.str?
  body := match v.get? "json" with
    | some json => json.write
    | none => v.textAt "raw"

def ofValue (v : Value) : Step :=
  let object : ObjectId := ⟨v.textAt "object"⟩
  let session : SessionId := ⟨v.textAt "session"⟩
  match v.textAt "do" with
  | "request" => request (v.memberAt "req")
  | "concurrent" => concurrent (v.itemsAt "items")
  | "advance" => advance (v.natAt "ms")
  | "keep_alive" => keepAlive session
  | "connect" => connect session
  | "close" => close session (v.flagAt "release")
  | "sweep" => sweep
  | "evict" => evict
  | "set_factory" => setFactory (v.textAt "factory")
  | "emit" => emit object (v.textAt "type") (v.memberAt "data")
  | "connect_handler" => connectHandler object session (v.textAt "type") (v.textAt "handler")
  | "lookup_handler" =>
    lookupHandler object session (v.textAt "type") ((v.get? "save").bind Value.str?)
  | "register_handler" =>
    registerHandler object session ⟨v.textAt "subscription"⟩ (v.textAt "ref")
  | "drop_ref" => dropRef (v.textAt "ref")
  | "fail_constructs" => failConstructs (v.flagAt "fail")
  | "mock" => mock
  | "snapshot" => snapshot
  | "reference" => reference session object
  | "contains" => contains object session
  | "counts" => counts
  | "shutdown" => shutdown
  | "tasks" => tasks (v.natAt "sweep_ms") (v.natAt "evict_ms") (v.natAt "run_ms")
  | "health" => health ((v.get? "ready").bind Value.bool?)
  | "http" =>
    http (if v.textAt "app" = "health" then .health else .requests) (httpMessage v)
  | "metrics" => metrics
  | _ => unknown

end Step

/-! ## Variables -/

/-- The bound names, the latest first. -/
abbrev Bindings := List (String × Value)

namespace Bindings

/-- What a text stands for. -/
def expand (b : Bindings) (s : String) : Value :=
  match s.toList with
  | '$' :: name => (List.lookup (String.ofList name) b).getD (.str s)
  | _ => .str s

/-- Replaces the variables in a step that starts. The items of a concurrent step are left for when
they start themselves. -/
def substitute (b : Bindings) (step : Value) : Value :=
  match step with
  | .obj ms =>
    let nested := Value.textAt (.obj ms) "do" = "concurrent"
    .obj (ms.map fun m =>
      if nested && m.1 = "items" then m else (m.1, m.2.mapStrings b.expand))
  | v => v.mapStrings b.expand

/-- Binds names to the parts of a result that pointers lead to. -/
def bindAll (b : Bindings) (pointers : Value) (result : Value) : Bindings :=
  (pointers.obj?.getD []).foldl
    (fun b p =>
      match p.2.str?.bind result.pointer? with
      | some v => (p.1, v) :: b
      | none => b)
    b

end Bindings

/-! ## Results that show a time -/

/-- Whether a request asks for a creation time. -/
def asksTime (req : Value) : Bool :=
  req.textAt "method" = Method.invoke.name &&
    (req.memberAt "params").textAt "operation" = "getCreationTime"

/-- A whole number in place of a member is replaced by a mark. -/
def hideNumber (v : Value) : Value :=
  match v with
  | .obj ms =>
    match Members.get? ms "value" with
    | some (.int _) => .obj (Members.insert "value" (.str "<time>") ms)
    | _ => v
  | _ => v

/-- Changes a member that is there. -/
def updateMember (v : Value) (key : String) (f : Value → Value) : Value :=
  match v with
  | .obj ms =>
    match Members.get? ms key with
    | some w => .obj (Members.insert key (f w) ms)
    | none => v
  | _ => v

/-- Hides the creation times that a response shows. -/
def hideTimes (req : Value) (response : Value) : Value :=
  if asksTime req then updateMember response "result" hideNumber
  else if req.textAt "method" = Method.transaction.name then
    let entries := (req.memberAt "params").itemsAt "operations"
    let hide := fun items => items.zipIdx.map fun (item, i) =>
      if (entries[i]?).any asksTime then updateMember item "result" hideNumber else item
    updateMember response "result" fun result =>
      updateMember result "value" fun value =>
        match value with
        | .arr items => .arr (hide items)
        | v => v
  else response

end MediaPlane.Scenario
