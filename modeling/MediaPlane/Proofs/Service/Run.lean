import Mathlib.Algebra.GroupWithZero.Nat
import Mathlib.Data.List.Induction
import MediaPlane.Proofs.ControlPlane.Lasting

/-
  Runs of a control plane from its settings on. Requests arrive as calls; a call that waits can go
  on or be given up at any time, and between any two such steps whoever embeds the control plane can
  give it commands. So a run is a list of inputs in any order, and what is said of every list of
  inputs is said of every interleaving. A call remembers what it found in the retry cache when it
  arrived, and how it ended.
-/

namespace MediaPlane

/-- What a control plane is set up with. -/
structure Settings where
  admission : AdmissionControl
  sessionTtl : Nat
  catalog : Catalog
  names : NameSource
  /-- How long a response is replayed. -/
  retention : Nat

/-- A control plane with nothing in it. -/
def Settings.plane (c : Settings) : ControlPlane where
  admission := c.admission
  sessionTtl := c.sessionTtl
  catalog := c.catalog
  names := c.names
  cache := { retention := c.retention }

/-! ## Commands -/

/-- What whoever embeds a control plane can ask of it besides requests. -/
inductive Command where
  | keepAlive (session : SessionId)
  | connect (session : SessionId)
  | close (session : SessionId) (forced : Bool)
  | sweep
  | evict
  | emit (object : ObjectId) (eventType : String) (data : Value)
  | connectHandler (object : ObjectId) (session : SessionId) (eventType : String)
      (receiver : Receiver)
  /-- Takes hold of the live handler that a subscription would share. -/
  | takeHandler (object : ObjectId) (session : SessionId) (eventType : String)
  | dropHandler (handler : Handler)
  /-- Subscribes with a handler that is held. -/
  | shareHandler (object : ObjectId) (session : SessionId) (id : SubscriptionId)
      (handler : Handler)
  | installFactory (factory : HandlerFactory)
  /-- The mock engine refuses to build from now on, or builds again. -/
  | refuse (refuses : Bool)
  /-- From now on the probe reports otherwise. -/
  | load (probe : Probe)
  | advance (ms : Nat)
  | shutdown

namespace ControlPlane

/-- The state after a command. A command that fails may leave the state as it was. -/
def obey (cp : ControlPlane) : Command → ControlPlane
  | .keepAlive s => (cp.keepAlive s).toOption.getD cp
  | .connect s => cp.connect s
  | .close s forced => ((cp.closeSession s forced).toOption.map (·.2)).getD cp
  | .sweep => cp.sweep.2
  | .evict => cp.evict.2
  | .emit object eventType data => ((cp.emit object eventType data).toOption.map (·.2)).getD cp
  | .connectHandler object session eventType receiver =>
    (cp.connectHandler object session eventType receiver).2
  | .takeHandler object session eventType =>
    match cp.lookupHandler? object session eventType with
    | some h => { cp with dispatcher := cp.dispatcher.hold h }
    | none => cp
  | .dropHandler h => { cp with dispatcher := cp.dispatcher.letGo h }
  | .shareHandler object session id h =>
    if h ∈ cp.dispatcher.held then (cp.shareHandler object session id h).2 else cp
  | .installFactory f => cp.installFactory f
  | .refuse refuses => { cp with mock := { cp.mock with refuses } }
  | .load probe => { cp with admission := { cp.admission with probe } }
  | .advance ms => cp.advance ms
  | .shutdown => cp.shutdown

/-- What a command leaves. Some commands can fail, and then they leave the state as it was. -/
inductive Obeys (cp : ControlPlane) : Command → ControlPlane → Prop where
  | failed (c : Command) : Obeys cp c cp
  | keptAlive {s : SessionId} {next : ControlPlane} (h : cp.keepAlive s = .ok next) :
      Obeys cp (.keepAlive s) next
  | connected (s : SessionId) : Obeys cp (.connect s) (cp.connect s)
  | closed {s : SessionId} {forced : Bool} {n : Nat} {next : ControlPlane}
      (h : cp.closeSession s forced = .ok (n, next)) : Obeys cp (.close s forced) next
  | swept : Obeys cp .sweep cp.sweep.2
  | evicted : Obeys cp .evict cp.evict.2
  | emitted (object : ObjectId) (eventType : String) (data : Value) :
      Obeys cp (.emit object eventType data) (cp.raise ⟨object, eventType, data⟩).2
  | handlerConnected (object : ObjectId) (s : SessionId) (eventType : String)
      (receiver : Receiver) :
      Obeys cp (.connectHandler object s eventType receiver)
        (cp.connectHandler object s eventType receiver).2
  | handlerTaken {object : ObjectId} {s : SessionId} {eventType : String} {handler : Handler}
      (h : cp.lookupHandler? object s eventType = some handler) :
      Obeys cp (.takeHandler object s eventType)
        { cp with dispatcher := cp.dispatcher.hold handler }
  | handlerDropped (handler : Handler) :
      Obeys cp (.dropHandler handler) { cp with dispatcher := cp.dispatcher.letGo handler }
  | handlerShared (object : ObjectId) (s : SessionId) (id : SubscriptionId) {handler : Handler}
      (h : handler ∈ cp.dispatcher.held) :
      Obeys cp (.shareHandler object s id handler) (cp.shareHandler object s id handler).2
  | factoryInstalled (factory : HandlerFactory) :
      Obeys cp (.installFactory factory) (cp.installFactory factory)
  | engineSet (refuses : Bool) :
      Obeys cp (.refuse refuses) { cp with mock := { cp.mock with refuses } }
  | probeLoaded (probe : Probe) :
      Obeys cp (.load probe) { cp with admission := { cp.admission with probe } }
  | advanced (ms : Nat) : Obeys cp (.advance ms) (cp.advance ms)
  | shutDown : Obeys cp .shutdown cp.shutdown

theorem obeys (cp : ControlPlane) (c : Command) : cp.Obeys c (cp.obey c) := by
  cases c with
  | keepAlive s =>
    simp only [obey]
    cases h : cp.keepAlive s with
    | error e => exact .failed _
    | ok next => exact .keptAlive h
  | close s forced =>
    simp only [obey]
    cases h : cp.closeSession s forced with
    | error e => exact .failed _
    | ok r => exact .closed h
  | emit object eventType data =>
    simp only [obey]
    unfold emit
    split
    · exact .emitted object eventType data
    · exact .failed _
  | takeHandler object s eventType =>
    simp only [obey]
    split
    · next h => exact .handlerTaken h
    · exact .failed _
  | shareHandler object s id handler =>
    simp only [obey]
    split
    · next h => exact .handlerShared object s id h
    · exact .failed _
  | connect s => exact .connected s
  | sweep => exact .swept
  | evict => exact .evicted
  | connectHandler object s eventType receiver =>
    exact .handlerConnected object s eventType receiver
  | dropHandler handler => exact .handlerDropped handler
  | installFactory factory => exact .factoryInstalled factory
  | refuse refuses => exact .engineSet refuses
  | load probe => exact .probeLoaded probe
  | advance ms => exact .advanced ms
  | shutdown => exact .shutDown

end ControlPlane

/-! ## Calls -/

/-- Where a call stands. -/
inductive CallState where
  | waiting (pending : Pending)
  /-- It returned a response, at a time. -/
  | answered (response : Response) (time : Nat)
  /-- It was given up. -/
  | cancelled

/-- The key under which a request is known to be a repetition, if it names an id and a session. -/
def Request.key? (r : Request) : Option RetryKey :=
  match r.id, r.session with
  | some id, some session => some { session, id }
  | _, _ => none

structure Call where
  request : Request
  /-- What it found in the retry cache, if it was looked up there. -/
  found : Option Arrival
  state : CallState

namespace Call

/-- A call that waits, and what for. -/
def pending? (c : Call) : Option Pending :=
  match c.state with
  | .waiting p => some p
  | _ => none

/-- The response that a call returned. -/
def response? (c : Call) : Option Response :=
  match c.state with
  | .answered response _ => some response
  | _ => none

theorem response?_eq_some {c : Call} {response : Response} :
    c.response? = some response ↔ ∃ t, c.state = .answered response t := by
  unfold response?
  cases c.state with
  | answered given t => simp
  | waiting p => simp
  | cancelled => simp

end Call

/-- Where a call stands after it got so far. -/
def Progress.state (p : Progress) (now : Nat) : CallState :=
  match p with
  | finished response => .answered response now
  | suspended pending => .waiting pending

/-! ## Runs -/

/-- A control plane and all calls that were ever made, in the order of their arrival. -/
structure Service where
  plane : ControlPlane
  calls : List Call := []

/-- What can happen next. -/
inductive Input where
  | arrive (request : Request)
  /-- The call of a number goes on; timers have gone off up to a time. -/
  | resume (call : Nat) (tick : Nat)
  /-- The call of a number is given up. -/
  | cancel (call : Nat)
  | command (c : Command)

namespace Service

/-- What the call of a number waits for. -/
def pending? (v : Service) (i : Nat) : Option Pending := v.calls[i]?.bind Call.pending?

/-- What an arriving request finds in the retry cache. -/
def finds (v : Service) (r : Request) : Option Arrival :=
  r.key?.map fun key => (v.plane.cache.begin key v.plane.now).1

/-- A call ends up in a state. -/
def setState (v : Service) (i : Nat) (state : CallState) : List Call :=
  v.calls.modify i fun c => { c with state }

def arrive (v : Service) (r : Request) : Service :=
  let (progress, plane) := v.plane.begin r
  let state := progress.state plane.now
  { plane, calls := v.calls ++ [{ request := r, found := v.finds r, state }] }

/-- A call goes on if it waits and what it waits for is there. -/
def resume (v : Service) (i tick : Nat) : Service :=
  match (v.pending? i).bind (v.plane.resume? tick) with
  | none => v
  | some (progress, plane) => { plane, calls := v.setState i (progress.state plane.now) }

/-- A call that waits is given up. -/
def cancel (v : Service) (i : Nat) : Service :=
  match v.pending? i with
  | none => v
  | some p => { plane := v.plane.cancel p, calls := v.setState i .cancelled }

def step (v : Service) : Input → Service
  | .arrive r => v.arrive r
  | .resume i tick => v.resume i tick
  | .cancel i => v.cancel i
  | .command c => { v with plane := v.plane.obey c }

end Service

/-- What comes of a list of inputs, in their order. -/
def Settings.run (c : Settings) (inputs : List Input) : Service :=
  inputs.foldl Service.step { plane := c.plane }

theorem Settings.run_succ (c : Settings) (inputs : List Input) (i : Input) :
    c.run (inputs ++ [i]) = (c.run inputs).step i := by
  unfold Settings.run
  rw [List.foldl_append]
  rfl

/-- What holds at the start and after every step holds of every run. -/
theorem Settings.run_inv (c : Settings) {P : Service → Prop} (hstart : P { plane := c.plane })
    (hstep : ∀ v i, P v → P (v.step i)) (inputs : List Input) : P (c.run inputs) := by
  induction inputs using List.reverseRecOn with
  | nil => exact hstart
  | append_singleton inputs i ih =>
    rw [c.run_succ]
    exact hstep _ i ih

/-! ## Calls by their states -/

namespace Service

variable {v : Service} {i : Nat} {p : Pending}

theorem pending?_eq_some :
    v.pending? i = some p ↔ ∃ c, v.calls[i]? = some c ∧ c.state = .waiting p := by
  unfold pending?
  rw [Option.bind_eq_some_iff]
  refine exists_congr fun c => and_congr_right fun _ => ?_
  unfold Call.pending?
  cases c.state with
  | waiting q =>
    simp only [Option.some.injEq, CallState.waiting.injEq]
  | answered response t =>
    constructor <;> intro h <;> cases h
  | cancelled =>
    constructor <;> intro h <;> cases h

/-- A number that each call has by its state, over all calls. -/
def total (f : CallState → Nat) (v : Service) : Nat := (v.calls.map fun c => f c.state).sum

theorem total_arrive (f : CallState → Nat) (v : Service) (r : Request) :
    (v.arrive r).total f = v.total f + f ((v.plane.begin r).1.state (v.plane.begin r).2.now) := by
  show ((v.calls ++ [_]).map fun c : Call => f c.state).sum = _
  rw [List.map_append, List.sum_append, List.map_singleton, List.sum_singleton]
  rfl

theorem sum_modify (f : CallState → Nat) {calls : List Call} {i : Nat} {c : Call}
    (h : calls[i]? = some c) (state : CallState) :
    ((calls.modify i fun c => { c with state }).map fun c => f c.state).sum + f c.state =
      (calls.map fun c => f c.state).sum + f state := by
  induction calls generalizing i with
  | nil => cases h
  | cons d calls ih =>
    rw [List.map_cons, List.sum_cons]
    cases i with
    | zero =>
      cases h
      rw [List.modify_zero_cons, List.map_cons, List.sum_cons]
      simp only
      omega
    | succ i =>
      have hrest := ih h
      rw [List.modify_succ_cons, List.map_cons, List.sum_cons]
      omega

/-- One call moves on, and the others stay where they are. -/
theorem total_setState (f : CallState → Nat) (h : v.pending? i = some p) (plane : ControlPlane)
    (state : CallState) :
    total f { plane, calls := v.setState i state } + f (.waiting p) = v.total f + f state := by
  obtain ⟨c, hc, hstate⟩ := pending?_eq_some.mp h
  rw [← hstate]
  exact sum_modify f hc state

/-- One call moves on, and whatever the others have stays as it is. -/
theorem perm_flatMap_modify {α : Type} (g : Call → List α) {calls : List Call} {i : Nat} {c : Call}
    (h : calls[i]? = some c) (f : Call → Call) :
    ∃ others, (calls.flatMap g).Perm (g c ++ others) ∧
      ((calls.modify i f).flatMap g).Perm (g (f c) ++ others) := by
  induction calls generalizing i with
  | nil => cases h
  | cons d calls ih =>
    cases i with
    | zero =>
      cases h
      exact ⟨_, List.Perm.refl _, List.Perm.refl _⟩
    | succ i =>
      obtain ⟨others, hbefore, hafter⟩ := ih h
      refine ⟨g d ++ others, ?_, ?_⟩
      · exact (hbefore.append_left (g d)).trans (List.perm_append_comm_assoc _ _ _)
      · exact (hafter.append_left (g d)).trans (List.perm_append_comm_assoc _ _ _)

end Service

/-! ## What stays the same -/

/-- It changes the retry cache, the factory, the probe or the clock. -/
def Command.sets : Command → Bool
  | evict | installFactory _ | load _ | advance _ => true
  | _ => false

/-- All other commands leave these as they are. -/
theorem ControlPlane.steady_obey (cp : ControlPlane) {c : Command} (hc : c.sets = false) :
    Steady cp (cp.obey c) := by
  have hobeys := cp.obeys c
  generalize cp.obey c = next at hobeys ⊢
  cases hobeys with
  | failed => exact Steady.refl cp
  | keptAlive h => exact Change.steady (P := Leeway.full) (.keepAlive h)
  | connected s => exact Change.steady (s := s) (P := Leeway.full) .connect
  | closed h => exact steady_closeSession h
  | swept => exact steady_sweep cp
  | emitted => exact Change.steady (s := default) (P := Leeway.full) (.raise _)
  | handlerConnected object s eventType receiver =>
    exact (changes_connectHandler (P := Leeway.full) cp object s eventType receiver).steady
  | handlerShared object s id h => exact steady_shareHandler cp object s id _
  | shutDown => exact steady_shutdown cp
  | handlerTaken | handlerDropped | engineSet => exact { Steady.refl cp with }
  | evicted | factoryInstalled | probeLoaded | advanced => cases hc

/-! ## What lasts -/

namespace ControlPlane.Lasting

variable {Q : ControlPlane → Prop} {cp : ControlPlane}

theorem obey (hQ : Lasting Q) (hq : Q cp) (c : Command) : Q (cp.obey c) := by
  have hobeys := cp.obeys c
  generalize cp.obey c = next at hobeys ⊢
  cases hobeys with
  | failed => exact hq
  | keptAlive h => exact hQ.change (Change.keepAlive (P := Leeway.full) h) hq
  | connected s => exact hQ.change (Change.connect (s := s) (P := Leeway.full)) hq
  | @closed s _ _ _ h => exact hQ.change (Change.close (s := s) (P := Leeway.full) trivial h) hq
  | swept => exact hQ.sweep hq
  | evicted => exact hQ.cache hq _
  | emitted => exact hQ.raise hq _
  | handlerConnected object s eventType receiver =>
    exact hQ.changes (changes_connectHandler (P := Leeway.full) cp object s eventType receiver) hq
  | handlerTaken hlive =>
    refine hQ.handlers _ _ (fun k hk => ?_) hq
    rcases List.mem_cons.mp hk with rfl | hk
    · exact Or.inr ⟨_, hlive⟩
    · exact Or.inl hk
  | handlerDropped => exact hQ.handlers _ _ (fun _ hk => Or.inl (List.mem_of_mem_erase hk)) hq
  | handlerShared object s id hheld => exact hQ.shareHandler object s id _ hheld hq
  | factoryInstalled => exact hQ.handlers _ _ (fun _ hk => Or.inl hk) hq
  | engineSet => exact hQ.mock hq _
  | probeLoaded => exact hQ.set _ _ _ hq
  | advanced => exact hQ.set _ _ _ hq
  | shutDown => exact hQ.shutdown hq

theorem step (hQ : Lasting Q) {v : Service} (hq : Q v.plane) (i : Input) : Q (v.step i).plane := by
  cases i with
  | arrive r => exact hQ.begin hq r
  | resume i tick =>
    show Q (v.resume i tick).plane
    unfold Service.resume
    split
    · exact hq
    · next heq =>
      obtain ⟨p, -, hp⟩ := Option.bind_eq_some_iff.mp heq
      exact hQ.resume? hq hp
  | cancel i =>
    show Q (v.cancel i).plane
    unfold Service.cancel
    split
    · exact hq
    · exact hQ.cancel hq _
  | command c => exact hQ.obey hq c

/-- What holds at the start and lasts holds in every run. -/
theorem run (hQ : Lasting Q) {c : Settings} (hq : Q c.plane) (inputs : List Input) :
    Q (c.run inputs).plane :=
  c.run_inv (P := fun v => Q v.plane) hq (fun _ i hv => hQ.step hv i) inputs

end ControlPlane.Lasting

/-! ## A small run -/

namespace Sample

/-- Three names in the form of random identifiers, and then ever longer ones. -/
def names : NameSource where
  name
    | 1 => "5f0c6a4e-93b1-4d0a-8a52-3c1e7d90b6a1"
    | 2 => "c2b7d9e0-14f8-4b63-9e07-6d5a2f81c3b4"
    | 3 => "e8417f3b-60c5-4a9d-b1f2-95d3ce07a268"
    | k => String.ofList (List.replicate (200 + k) 'f')

theorem length_name {k : Nat} (h : k = 0 ∨ 3 < k) : (names.name k).length = 200 + k := by
  have hname : names.name k = String.ofList (List.replicate (200 + k) 'f') := by
    match k with
    | 0 => rfl
    | k + 4 => rfl
  rw [hname, String.length_ofList, List.length_replicate]

theorem name_injective : Function.Injective names.name := by
  have hshort : ∀ k ∈ [1, 2, 3], (names.name k).length = 36 := by decide
  have hdiffer : ([1, 2, 3].map names.name).Nodup := by decide
  have hcases : ∀ k, k ∈ [1, 2, 3] ∨ (k = 0 ∨ 3 < k) := by
    intro k
    simp only [List.mem_cons, List.not_mem_nil]
    omega
  intro j k h
  have hlength := congrArg String.length h
  rcases hcases j with hj | hj <;> rcases hcases k with hk | hk
  · exact List.inj_on_of_nodup_map hdiffer hj hk h
  · rw [hshort j hj, length_name hk] at hlength
    omega
  · rw [length_name hj, hshort k hk] at hlength
    omega
  · rw [length_name hj, length_name hk] at hlength
    omega

/-- Mock elements, and no limit. -/
def settings : Settings where
  admission := ⟨.fixed .nan, .ofNat 1⟩
  sessionTtl := 60000
  catalog := Catalog.empty.registerAll .mock true ObjectType.loopbackTypes
  names := names
  retention := 60000

def owner : SessionId := ⟨"owner"⟩

def guest : SessionId := ⟨"guest"⟩

def pipeline : ObjectId := .root (names.name 1) "kurento.MediaPipeline"

/-- The owner makes a pipeline, and the guest hears what it plays. -/
def inputs : List Input :=
  [.arrive (.inSession owner (.create "MediaPipeline" .null)),
    .command (.connectHandler pipeline guest "Played" .silent),
    .command (.installFactory .silent)]

end Sample

end MediaPlane
