import MediaPlane.Proofs.ControlPlane.Footing
import MediaPlane.Proofs.Event.Delivery
import MediaPlane.Proofs.Service.Run

/-
  The dispatcher of a run. A control plane asks of its dispatcher what anybody may ask of one: each
  of its steps drives the dispatcher by inputs of an exchange (`Drives`). A subscription that needs
  a handler begins a build, and ends it after the calls that the transport makes on the way; builds
  that were under way before stay so. Hence the dispatcher of every run is that of an exchange with
  no build under way (`Settings.exchange_run`), and events are delivered in a run as they are in an
  exchange (`Settings.deliversOnce_run`).
-/

namespace MediaPlane

/-! ## Driving a dispatcher -/

namespace Exchange

/-- Inputs lead from one dispatcher to the other, and every build that was under way still is. -/
def Drives (d next : Dispatcher) : Prop :=
  ∀ building, ∃ inputs : List EventInput, inputs.foldl step ⟨d, building⟩ = ⟨next, building⟩

namespace Drives

variable {d mid next : Dispatcher} {object : ObjectId} {session : SessionId} {eventType : String}
  {key : HandlerKey} {h : Handler}

theorem refl (d : Dispatcher) : Drives d d := fun _ => ⟨[], rfl⟩

theorem of_eq (h : next = d) : Drives d next := h ▸ refl d

theorem trans (h : Drives d mid) (h' : Drives mid next) : Drives d next := by
  intro building
  obtain ⟨inputs, heq⟩ := h building
  obtain ⟨more, heq'⟩ := h' building
  refine ⟨inputs ++ more, ?_⟩
  rw [List.foldl_append, heq, heq']

theorem one {i : EventInput} (h : ∀ building, step ⟨d, building⟩ i = ⟨next, building⟩) :
    Drives d next := fun building => ⟨[i], h building⟩

theorem install (d : Dispatcher) (f : HandlerFactory) : Drives d { d with factory := some f } :=
  one (i := .install f) fun _ => rfl

theorem dropSession (d : Dispatcher) (session : SessionId) :
    Drives d (d.dropSession session).2 := one (i := .dropSession session) fun _ => rfl

theorem dropObject (d : Dispatcher) (object : ObjectId) : Drives d (d.dropObject object).2 :=
  one (i := .dropObject object) fun _ => rfl

theorem connect (d : Dispatcher) (object : ObjectId) (session : SessionId) (eventType : String)
    (id : SubscriptionId) (receiver : Receiver) :
    Drives d (d.attach id session (d.keyFor object session eventType) receiver) :=
  one (i := .connect object session eventType id receiver) fun _ => rfl

theorem take (h' : d.lookup? object session eventType = some h) : Drives d (d.hold h) := by
  refine one (i := .take object session eventType) fun building => ?_
  unfold step
  simp only [h']

theorem letGo (d : Dispatcher) (h : Handler) : Drives d (d.letGo h) :=
  one (i := .letGo h) fun _ => rfl

theorem share {id : SubscriptionId} (hheld : h ∈ d.held)
    (hok : d.share object session id h = .ok next) : Drives d next := by
  refine one (i := .share object session id h) fun building => ?_
  unfold step
  simp only [hheld, if_true, hok]
  rfl

theorem unsubscribe {id : SubscriptionId} (hok : d.unsubscribe object session id = .ok next) :
    Drives d next := by
  refine one (i := .unsubscribe object session id) fun building => ?_
  unfold step
  simp only [hok]
  rfl

/-- A subscription to a live handler. -/
theorem shared (hs : d.supply object session eventType = .ok (key, .shared h))
    (id : SubscriptionId) : Drives d (d.attach id session key h.receiver) := by
  refine one (i := .subscribe object session eventType id) fun building => ?_
  unfold step
  simp only [hs]

/-- A subscription whose handler is built, with whatever comes between beginning and end. -/
theorem built {factory : HandlerFactory}
    (hs : d.supply object session eventType = .ok (key, .built factory)) (hd : Drives d mid)
    (id : SubscriptionId) (receiver : Receiver) :
    Drives d (mid.attach id session key receiver) := by
  intro building
  -- the build that begins is the last one, also when it ends
  obtain ⟨inputs, heq⟩ := hd (building ++ [⟨key, session⟩])
  refine ⟨.subscribe object session eventType id ::
    (inputs ++ [.built building.length id receiver]), ?_⟩
  have hbegun : step ⟨d, building⟩ (.subscribe object session eventType id) =
      ⟨d, building ++ [⟨key, session⟩]⟩ := by
    unfold step
    simp only [hs]
  have hended : step ⟨mid, building ++ [⟨key, session⟩]⟩ (.built building.length id receiver) =
      ⟨mid.attach id session key receiver, building⟩ := by
    unfold step
    simp only [List.getElem?_concat_length, List.eraseIdx_append_of_length_le (Nat.le_refl _),
      Nat.sub_self, List.eraseIdx_cons_zero, List.append_nil]
  rw [List.foldl_cons, hbegun, List.foldl_append, heq, List.foldl_cons, List.foldl_nil, hended]

end Drives

end Exchange

/-! ## Steps of a control plane -/

namespace ControlPlane

open Exchange (Drives)

variable {cp mid next : ControlPlane} {s : SessionId} {d : Dispatcher}

theorem drives_dismantle (cp : ControlPlane) (o : MediaObject) :
    Drives cp.dispatcher (cp.dismantle o).dispatcher := .dropObject cp.dispatcher o.id

theorem drives_teardown (cp : ControlPlane) (reason : RemovalReason) (gone : List MediaObject) :
    Drives cp.dispatcher (cp.teardown reason gone).dispatcher := by
  have hall : Drives cp.dispatcher (gone.foldl dismantle cp).dispatcher := by
    induction gone generalizing cp with
    | nil => exact .refl cp.dispatcher
    | cons o gone ih => exact (drives_dismantle cp o).trans (ih (cp.dismantle o))
  unfold teardown
  split
  · exact .refl cp.dispatcher
  · exact hall

theorem drives_dropSubscriptions (cp : ControlPlane) (s : SessionId) :
    Drives cp.dispatcher (cp.dropSubscriptions s).dispatcher := .dropSession cp.dispatcher s

theorem drives_confirmed (cp : ControlPlane) (x : ObjectId) :
    Drives cp.dispatcher (cp.confirmed x).dispatcher := by
  have hlook : Drives cp.dispatcher (cp.ensureLive x).2.dispatcher := by
    unfold ensureLive
    split
    · exact .refl cp.dispatcher
    · exact .dropObject cp.dispatcher x
  rcases confirmed_cases cp x with heq | heq <;> rw [heq]
  · exact hlook
  · exact hlook

theorem drives_dropReferences (cp : ControlPlane) (s : SessionId) (ids : List ObjectId)
    (reason : RemovalReason) :
    Drives cp.dispatcher (cp.dropReferences s ids reason).dispatcher :=
  drives_teardown { cp with holdings := ((cp.holdings.dropped s ids).collect ids).2 } reason _

theorem drives_closedBy (cp : ControlPlane) (s : SessionId) (closure : Closure)
    (holdings : Holdings) :
    Drives cp.dispatcher (cp.closedBy s closure holdings).dispatcher :=
  ((drives_dropSubscriptions { cp with holdings } s).trans
    (drives_teardown _ .forced closure.forced)).trans
    (drives_teardown _ .unreferenced closure.collected)

theorem drives_closeSession {forced : Bool} {n : Nat}
    (h : cp.closeSession s forced = .ok (n, next)) : Drives cp.dispatcher next.dispatcher := by
  obtain ⟨closure, holdings, -, -, rfl⟩ := closeSession_ok h
  exact drives_closedBy cp s closure holdings

theorem drives_expireAll (cp : ControlPlane) (ss : List SessionId) :
    Drives cp.dispatcher (cp.expireAll ss).2.dispatcher := by
  induction ss generalizing cp with
  | nil => exact .refl cp.dispatcher
  | cons s ss ih =>
    unfold expireAll
    split
    · exact ih cp
    · next heq =>
      obtain ⟨closure, holdings, -, rfl⟩ := expire?_eq_some heq
      exact (drives_closedBy cp s closure holdings).trans (ih _)

theorem drives_sweep (cp : ControlPlane) : Drives cp.dispatcher cp.sweep.2.dispatcher := by
  rcases cp.sweep_cases with heq | heq <;> rw [heq]
  · exact .refl cp.dispatcher
  · exact drives_expireAll cp _

theorem drives_dropAll (cp : ControlPlane) (ss : List SessionId) :
    Drives cp.dispatcher (ss.foldl dropSubscriptions cp).dispatcher := by
  induction ss generalizing cp with
  | nil => exact .refl cp.dispatcher
  | cons s ss ih => exact (drives_dropSubscriptions cp s).trans (ih (cp.dropSubscriptions s))

theorem drives_shutdown (cp : ControlPlane) : Drives cp.dispatcher cp.shutdown.dispatcher := by
  have hall := drives_dropAll
    { cp with
      holdings :=
        { registry := cp.registry.drain.2,
          sessions := cp.sessions.removeSessions cp.sessions.ids } } cp.sessions.ids
  exact hall.trans (drives_teardown _ .shutdown cp.registry.drain.1)

/-! ## Subscribing -/

theorem dispatcher_enter (cp : ControlPlane) (s : SessionId) :
    (cp.enter s).dispatcher = cp.dispatcher := by
  obtain ⟨metrics, heq⟩ := enter_eq cp s
  rw [heq]
  rfl

theorem dispatcher_touch {x : ObjectId} {o : MediaObject} (h : cp.touch s x = .ok (o, next)) :
    next.dispatcher = cp.dispatcher := by
  obtain ⟨-, rfl⟩ := touch_ok h
  rfl

/-- Where a subscription is attached, it is added. -/
theorem drives_subscribeUnder {key : HandlerKey} {receiver : Receiver}
    (h : ∀ id, Drives d (cp.dispatcher.attach id s key receiver)) :
    Drives d (cp.subscribeUnder s key receiver).2.dispatcher := by
  rw [subscribeUnder_snd]
  exact (h ⟨cp.drawName.1⟩).trans (drives_confirmed (cp.attached s key receiver) key.object)

/-- A subscription drives the dispatcher if the build of its handler does. -/
theorem drives_subscribeWith (cp : ControlPlane) (s : SessionId) (object : ObjectId)
    (eventType : String)
    {build : HandlerFactory → ControlPlane → Except Failure Receiver × ControlPlane}
    (hbuild : ∀ f mid, Drives mid.dispatcher (build f mid).2.dispatcher) :
    Drives cp.dispatcher (cp.subscribeWith s object eventType build).2.dispatcher := by
  have hcases := cp.subscribesWith s object eventType build
  generalize cp.subscribeWith s object eventType build = r at hcases ⊢
  cases hcases with
  | missed => exact .refl cp.dispatcher
  | unheard ht => exact .of_eq (dispatcher_touch ht)
  | shared ht hs =>
    refine drives_subscribeUnder fun id => ?_
    exact dispatcher_touch ht ▸ Drives.shared hs id
  | @refused o mid _ _ f _ ht hs hb =>
    have hdrives := hbuild f mid
    rw [hb, dispatcher_touch ht] at hdrives
    exact hdrives
  | @built o mid _ _ f receiver ht hs hb =>
    have hdrives := hbuild f mid
    rw [hb] at hdrives
    refine drives_subscribeUnder fun id => ?_
    exact dispatcher_touch ht ▸ Drives.built hs hdrives id receiver

/-- The calls of a transport are requests like any others. -/
theorem drives_buildHandler (plan : BuildPlan) (cp : ControlPlane) :
    Drives cp.dispatcher (buildHandler plan cp).2.dispatcher := by
  induction plan generalizing cp with
  | done receiver => cases receiver <;> exact .refl cp.dispatcher
  | refuse reason => exact .refl cp.dispatcher
  | lookFirst rest ih => exact ih cp.snapshot cp
  | subscribeFirst u object eventType inner rest ih ih' =>
    have hasked : Drives (cp.enter u).dispatcher
        ((cp.enter u).subscribeWith u object eventType fun _ =>
          buildHandler inner).2.dispatcher :=
      drives_subscribeWith (cp.enter u) u object eventType fun _ mid => ih mid
    rw [dispatcher_enter] at hasked
    unfold buildHandler
    generalize (cp.enter u).subscribeWith u object eventType (fun _ => buildHandler inner) = r
      at hasked ⊢
    exact hasked.trans
      (ih' r.1 ((r.2.leave u).countRequest Method.subscribe.name r.1))
  | closeFirst u forced rest ih =>
    unfold buildHandler
    split
    · exact ih _ cp
    · next heq => exact (drives_closeSession heq).trans (ih _ _)

theorem drives_connectHandler (cp : ControlPlane) (object : ObjectId) (s : SessionId)
    (eventType : String) (receiver : Receiver) :
    Drives cp.dispatcher (cp.connectHandler object s eventType receiver).2.dispatcher := by
  have hconnects := cp.connects object s eventType receiver
  generalize (cp.connectHandler object s eventType receiver).2 = next at hconnects ⊢
  cases hconnects with
  | missed => exact .refl cp.dispatcher
  | connected => exact .connect cp.dispatcher object s eventType _ receiver

theorem drives_shareHandler {h : Handler} (hheld : h ∈ cp.dispatcher.held) (object : ObjectId)
    (s : SessionId) (id : SubscriptionId) :
    Drives cp.dispatcher (cp.shareHandler object s id h).2.dispatcher := by
  have hshares := cp.shares object s id h
  generalize (cp.shareHandler object s id h).2 = next at hshares ⊢
  cases hshares with
  | missed | touched => exact .refl cp.dispatcher
  | shared _ hd => exact .share hheld hd

theorem drives_unsubscribe (cp : ControlPlane) (s : SessionId) (object : ObjectId)
    (id : SubscriptionId) :
    Drives cp.dispatcher (cp.unsubscribe s object id).2.dispatcher := by
  unfold ControlPlane.unsubscribe
  split
  · exact .refl cp.dispatcher
  · next ht =>
    split
    · exact .of_eq (dispatcher_touch ht)
    · next hd => exact dispatcher_touch ht ▸ Drives.unsubscribe hd

/-! ## Operations -/

theorem dispatcher_create (cp : ControlPlane) (s : SessionId) (typeName : String)
    (params : Value) : (cp.create s typeName params).2.dispatcher = cp.dispatcher := by
  have hcreates := cp.creates s typeName params
  generalize (cp.create s typeName params).2 = next at hcreates ⊢
  generalize (cp.create s typeName params).1 = outcome at hcreates
  cases hcreates with
  | refused | failed | unbuilt => rfl
  | built _ hb => exact (dispatcher_register _ s _).trans hb.dispatcher_eq
  | begun _ hb => exact hb.dispatcher_eq

theorem dispatcher_invoke (cp : ControlPlane) (s : SessionId) (object : ObjectId)
    (operation : String) (params : Value) :
    (cp.invoke s object operation params).2.dispatcher = cp.dispatcher := by
  unfold invoke
  split
  · rfl
  · next o mid ht =>
    rw [← dispatcher_touch ht]
    split
    · rfl
    · next heq =>
      rcases builtin?_ok heq with rfl | ⟨f, rfl, -⟩ <;> rfl
    · have hd := dispatcher_invokeElement mid o operation params
      split <;>
      · next heq =>
        rw [heq] at hd
        exact hd

theorem drives_settle (result : Value) {r : Except Failure ControlPlane}
    (h : ∀ next, r = .ok next → Drives cp.dispatcher next.dispatcher) :
    Drives cp.dispatcher (cp.settle result r).2.dispatcher := by
  cases r with
  | error e => exact .refl cp.dispatcher
  | ok next => exact h next rfl

/-- Every operation drives the dispatcher. -/
theorem drives_execute (cp : ControlPlane) (s : SessionId) (op : Operation) :
    Drives cp.dispatcher (cp.execute s op).2.dispatcher := by
  unfold execute
  cases op with
  | create typeName params => exact .of_eq (dispatcher_create cp s typeName params)
  | invoke object operation params => exact .of_eq (dispatcher_invoke cp s object operation params)
  | ref object =>
    refine drives_settle _ fun next h => ?_
    unfold claim at h
    split at h <;> cases h
    exact .refl cp.dispatcher
  | unref object =>
    refine drives_settle _ fun next h => ?_
    unfold unref at h
    split at h <;> cases h
    exact drives_dropReferences cp s _ _
  | release object =>
    refine drives_settle _ fun next h => ?_
    unfold release at h
    split at h <;> cases h
    exact drives_dropReferences cp s _ _
  | describe object =>
    simp only
    split
    · exact .refl cp.dispatcher
    · next ht => exact .of_eq (dispatcher_touch ht)
  | subscribe object eventType params =>
    exact drives_subscribeWith cp s object eventType fun f mid => drives_buildHandler _ mid
  | unsubscribe object id => exact drives_unsubscribe cp s object id
  | transaction | closeSession | keepAlive | connect | ping => exact .refl cp.dispatcher

/-! ## Runs -/

/-- Its dispatcher is that of an exchange with no build under way. -/
def Exchanged (cp : ControlPlane) : Prop :=
  ∃ inputs, Exchange.run inputs = ⟨cp.dispatcher, []⟩

theorem Exchanged.drives (h : cp.Exchanged) (hd : Drives cp.dispatcher next.dispatcher) :
    next.Exchanged := by
  obtain ⟨inputs, heq⟩ := h
  obtain ⟨more, heq'⟩ := hd []
  refine ⟨inputs ++ more, ?_⟩
  unfold Exchange.run at heq ⊢
  rw [List.foldl_append, heq, heq']

theorem Exchanged.of_eq (h : cp.Exchanged) (hd : next.dispatcher = cp.dispatcher) :
    next.Exchanged := h.drives (.of_eq hd)

theorem enduring_exchanged : Enduring Exchanged where
  execute := fun s op h => h.drives (drives_execute _ s op)
  register := fun s c h => h.of_eq (dispatcher_register _ s c)
  enter := fun s h => h.of_eq (dispatcher_enter _ s)
  leave := fun _ h => h
  connect := by
    intro cp s h
    obtain ⟨metrics, heq⟩ := connect_eq cp s
    rw [heq]
    exact h
  keepAlive := by
    intro cp next s hok h
    rw [keepAlive_ok hok]
    exact h
  close := fun hok h => h.drives (drives_closeSession hok)
  draw := fun h => h
  record := fun _ _ h => h

theorem Exchanged.obey (h : cp.Exchanged) (c : Command) : (cp.obey c).Exchanged := by
  have hobeys := cp.obeys c
  generalize cp.obey c = next at hobeys ⊢
  cases hobeys with
  | failed | evicted | emitted | engineSet | probeLoaded | advanced => exact h
  | keptAlive hok => exact enduring_exchanged.keepAlive hok h
  | connected s => exact enduring_exchanged.connect s h
  | closed hok => exact h.drives (drives_closeSession hok)
  | swept => exact h.drives (drives_sweep cp)
  | handlerConnected object s eventType receiver =>
    exact h.drives (drives_connectHandler cp object s eventType receiver)
  | handlerTaken hlook => exact h.drives (.take hlook)
  | handlerDropped handler => exact h.drives (.letGo cp.dispatcher handler)
  | handlerShared object s id hheld => exact h.drives (drives_shareHandler hheld object s id)
  | factoryInstalled factory => exact h.drives (.install cp.dispatcher factory)
  | shutDown => exact h.drives (drives_shutdown cp)

theorem Exchanged.step {v : Service} (h : v.plane.Exchanged) (i : Input) :
    (v.step i).plane.Exchanged := by
  cases i with
  | arrive r => exact enduring_exchanged.begin h r
  | resume i tick =>
    show (v.resume i tick).plane.Exchanged
    unfold Service.resume
    split
    · exact h
    · next heq =>
      obtain ⟨p, -, hp⟩ := Option.bind_eq_some_iff.mp heq
      exact enduring_exchanged.resume? h hp
  | cancel i =>
    show (v.cancel i).plane.Exchanged
    unfold Service.cancel
    split
    · exact h
    · exact enduring_exchanged.cancel h _
  | command c => exact h.obey c

end ControlPlane

/-- Whatever happens in a run, its dispatcher is that of an exchange where every build has ended. -/
theorem Settings.exchange_run (c : Settings) (inputs : List Input) :
    ∃ events, Exchange.run events = ⟨(c.run inputs).plane.dispatcher, []⟩ :=
  c.run_inv (P := fun v => v.plane.Exchanged) ⟨[], rfl⟩ (fun _ i h => h.step i) inputs

/-- So an event reaches each handler of its source that somebody has once, in every run. -/
theorem Settings.deliversOnce_run (c : Settings) (inputs : List Input) (e : Event) :
    (c.run inputs).plane.dispatcher.DeliversOnce e := by
  obtain ⟨events, heq⟩ := c.exchange_run inputs
  have hsound := Exchange.sound_run events
  rw [heq] at hsound
  exact hsound.deliversOnce e

end MediaPlane
