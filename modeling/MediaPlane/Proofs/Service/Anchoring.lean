import MediaPlane.Proofs.ControlPlane.Anchoring
import MediaPlane.Proofs.Service.Reachability

/-
  No subscription outlives its object (`subscriptions_anchored`). In every run, between any two
  steps, every subscription is on a live object. And whoever subscribes to an object that is gone by
  the end, because the transport closed sessions while it built the handler, leaves no subscription
  on it, and gets told that there is no such object, or else why the transport refused to build the
  handler. This is said at every point inside a step, so also of the entries of a transaction and
  of the subscriptions that a transport makes on its own. Who gets another answer is told by
  `subscription_misinformed`.
-/

namespace MediaPlane

/-- The control plane on the way through a step of a request in session `s`: some changes after the
request was looked up in the retry cache, or after what it waited for is there. -/
def Service.Amid (v : Service) (s : SessionId) (mid : ControlPlane) : Prop :=
  (∃ cache, ControlPlane.Changes s Leeway.full { v.plane with cache } mid) ∨
    ∃ w, ControlPlane.Changes s Leeway.full (v.plane.finishWait s w).2 mid

theorem Service.amid_plane (v : Service) (s : SessionId) : v.Amid s v.plane :=
  Or.inl ⟨v.plane.cache, .refl⟩

theorem ControlPlane.Lasting.amid {Q : ControlPlane → Prop} (hQ : Lasting Q) {v : Service}
    (hq : Q v.plane) {s : SessionId} {mid : ControlPlane} (h : v.Amid s mid) : Q mid := by
  rcases h with ⟨cache, hc⟩ | ⟨w, hc⟩
  · exact hQ.changes hc (hQ.cache hq cache)
  · exact hQ.changes hc (hQ.finishWait hq s w)

namespace ControlPlane

variable {cp next : ControlPlane} {s : SessionId} {x : ObjectId} {e : Failure}

/-! ## A look at an object that is gone -/

/-- The caller is told that there is no such object, and no subscription on it is left. -/
def Missed {α : Type} (x : ObjectId) (r : Except Failure α × ControlPlane) : Prop :=
  r.1 = .error (.objectNotFound x) ∧ r.2.Unheard x

theorem missed_ensureLive (hx : cp.registry.contains x = false) : Missed x (cp.ensureLive x) := by
  refine ⟨?_, ?_⟩
  · unfold ensureLive
    rw [hx]
    rfl
  · intro id sub hsub hobject
    exact ((sheds_ensureLive cp x id sub).mp hsub).2 ⟨hx, hobject⟩

theorem subscribeUnder_of_gone {key : HandlerKey} {receiver : Receiver}
    (hgone : (cp.subscribeUnder s key receiver).2.registry.contains key.object = false) :
    (cp.subscribeUnder s key receiver).1 = .error (.objectNotFound key.object) := by
  have hx : (cp.attached s key receiver).registry.contains key.object = false := by
    unfold registry at hgone
    rw [holdings_subscribeUnder] at hgone
    exact hgone
  have hlook := (missed_ensureLive hx).1
  unfold subscribeUnder
  simp only
  split
  · next heq =>
    have he := (congrArg Prod.fst heq).symm.trans hlook
    cases he
    rfl
  · next heq =>
    have hok := (congrArg Prod.fst heq).symm.trans hlook
    cases hok

/-! ## Building handlers -/

/-- The transport is asked to build a handler, and after all that it does on the way it refuses. -/
def Refuses (cp : ControlPlane) (s : SessionId) (x : ObjectId) (eventType : String)
    (plan : HandlerFactory → BuildPlan) (e : Failure) : Prop :=
  ∃ o mid key f next, cp.touch s x = .ok (o, mid) ∧
    mid.dispatcher.supply x s eventType = .ok (key, .built f) ∧
    buildHandler (plan f) mid = (.error e, next)

/-- Subscribing to what is gone by the end fails: there is no such object, unless the transport has
already refused to build a handler. -/
theorem subscribeWith_of_gone {eventType : String} {plan : HandlerFactory → BuildPlan}
    (hgone : (cp.subscribeWith s x eventType fun f =>
      buildHandler (plan f)).2.registry.contains x = false) :
    (cp.subscribeWith s x eventType fun f => buildHandler (plan f)).1 =
        .error (.objectNotFound x) ∨
      ∃ e, cp.Refuses s x eventType plan e ∧
        (cp.subscribeWith s x eventType fun f => buildHandler (plan f)).1 = .error e := by
  have hcases := cp.subscribesWith s x eventType fun f => buildHandler (plan f)
  generalize cp.subscribeWith s x eventType (fun f => buildHandler (plan f)) = r at hgone hcases ⊢
  cases hcases with
  | missed ht =>
    rw [touch_error ht]
    exact Or.inl rfl
  | unheard ht =>
    rw [contains_of_touch ht] at hgone
    cases hgone
  | shared ht hs =>
    rw [← Dispatcher.object_of_supply hs] at hgone ⊢
    exact Or.inl (subscribeUnder_of_gone hgone)
  | refused ht hs hb => exact Or.inr ⟨_, ⟨_, _, _, _, _, ht, hs, hb⟩, rfl⟩
  | built ht hs hb =>
    rw [← Dispatcher.object_of_supply hs] at hgone ⊢
    exact Or.inl (subscribeUnder_of_gone hgone)

/-! ## Handlers that the caller brings -/

/-- Nothing is called back here, so the objects stay as they are. -/
theorem registry_connectHandler (cp : ControlPlane) (x : ObjectId) (s : SessionId)
    (eventType : String) (receiver : Receiver) :
    (cp.connectHandler x s eventType receiver).2.registry = cp.registry := by
  have hconnects := connects cp x s eventType receiver
  generalize (cp.connectHandler x s eventType receiver).2 = next at hconnects ⊢
  cases hconnects <;> rfl

theorem registry_shareHandler (cp : ControlPlane) (x : ObjectId) (s : SessionId)
    (id : SubscriptionId) (handler : Handler) :
    (cp.shareHandler x s id handler).2.registry = cp.registry := by
  have hshares := shares cp x s id handler
  generalize (cp.shareHandler x s id handler).2 = next at hshares ⊢
  cases hshares <;> rfl

/-! ## Every point of every run -/

/-- What comes of subscribing to an object that is gone by the end. -/
structure AnswersGone (cp : ControlPlane) : Prop where
  /-- By request, and by a transport that is called back: no subscription on the object is left, and
  the caller is told that there is no such object, unless the transport has refused to build a
  handler. -/
  subscribe : ∀ (s : SessionId) (x : ObjectId) (eventType : String)
    (plan : HandlerFactory → BuildPlan),
    let r := cp.subscribeWith s x eventType fun f => buildHandler (plan f)
    r.2.registry.contains x = false →
      r.2.Unheard x ∧ (r.1 = .error (.objectNotFound x) ∨
        ∃ e, cp.Refuses s x eventType plan e ∧ r.1 = .error e)
  connectHandler : ∀ (s : SessionId) (x : ObjectId) (eventType : String) (receiver : Receiver),
    (cp.connectHandler x s eventType receiver).2.registry.contains x = false →
      Missed x (cp.connectHandler x s eventType receiver)
  shareHandler : ∀ (s : SessionId) (x : ObjectId) (id : SubscriptionId) (handler : Handler),
    (cp.shareHandler x s id handler).2.registry.contains x = false →
      Missed x (cp.shareHandler x s id handler)
  /-- The look at the object with which all of them end, in whatever state it finds the rest. -/
  look : ∀ x, cp.registry.contains x = false → Missed x (cp.ensureLive x)

theorem answersGone (hs : cp.holdings.Settled) (ha : cp.Anchored) : cp.AnswersGone where
  subscribe := by
    intro s x eventType plan r hgone
    have hr : Changes s Leeway.full cp r.2 :=
      (moves_subscribeWith (Or.inl trivial) x eventType fun f cp' _ =>
        moves_buildHandler s (plan f).within_full cp').changes
    have hlast := lasting_anchored.changes hr ⟨hs, ha⟩
    exact ⟨hlast.2.unheard hgone, subscribeWith_of_gone hgone⟩
  connectHandler := by
    intro s x eventType receiver hgone
    have hr := changes_connectHandler (P := Leeway.full) cp x s eventType receiver
    have hlast := lasting_anchored.changes hr ⟨hs, ha⟩
    refine ⟨?_, hlast.2.unheard hgone⟩
    rw [registry_connectHandler] at hgone
    unfold ControlPlane.connectHandler
    rw [touch_of_gone hgone]
  shareHandler := by
    intro s x id handler hgone
    refine ⟨?_, (anchored_shareHandler ha x s id handler).unheard hgone⟩
    rw [registry_shareHandler] at hgone
    unfold ControlPlane.shareHandler
    rw [touch_of_gone hgone]
  look := fun _ hx => missed_ensureLive hx

/-- A request to subscribe, with a transport that does not refuse. -/
theorem AnswersGone.missed_subscribe (h : cp.AnswersGone) {eventType : String} {params : Value}
    (hbuilt : ∀ f mid, cp.dispatcher.factory = some f →
      ∃ receiver, (buildHandler (f.plan x s eventType params) mid).1 = .ok receiver)
    (hgone : (cp.subscribe s x eventType params).2.registry.contains x = false) :
    Missed x (cp.subscribe s x eventType params) := by
  obtain ⟨hnone, hanswer⟩ := h.subscribe s x eventType (fun f => f.plan x s eventType params) hgone
  refine ⟨hanswer.resolve_right ?_, hnone⟩
  rintro ⟨e, ⟨o, mid, key, f, last, ht, hs, hrefused⟩, -⟩
  have hf : cp.dispatcher.factory = some f :=
    (factory_touch ht).symm.trans (Dispatcher.supply_built hs).2.1
  obtain ⟨receiver, hok⟩ := hbuilt f mid hf
  rw [hrefused] at hok
  cases hok

end ControlPlane

theorem Settings.anchored_run (c : Settings) (inputs : List Input) :
    (c.run inputs).plane.Anchored := by
  refine (ControlPlane.lasting_anchored.run ⟨Holdings.settled_empty, ?_⟩ inputs).2
  intro id sub hsub
  cases (Std.ExtTreeMap.getElem?_empty (a := id)).symm.trans hsub

/-- In every run, between any two steps, every subscription is on a live object; and at every point
of every step, who subscribes to an object that is gone by the end leaves no subscription behind,
and is told so unless the transport refused to build the handler. -/
theorem subscriptions_anchored (c : Settings) (inputs : List Input) :
    (∀ id sub, (c.run inputs).plane.subscription? id = some sub →
        (c.run inputs).plane.registry.contains sub.object = true) ∧
      ∀ s mid, (c.run inputs).Amid s mid → mid.AnswersGone := by
  have hs := c.settled_run inputs
  have ha := c.anchored_run inputs
  refine ⟨ha, fun s mid hmid => ?_⟩
  have hq := ControlPlane.lasting_anchored.amid ⟨hs, ha⟩ hmid
  exact ControlPlane.answersGone hq.1 hq.2

/-- The owner makes a pipeline, under a transport that closes the sessions it is told to close. -/
def Sample.steeredInputs : List Input :=
  [.arrive (.inSession owner (.create "MediaPipeline" .null)),
    .command (.installFactory (.steered .session))]

/-- The guest subscribes, and the transport closes the pipeline's only owner meanwhile. -/
theorem subscriptions_anchored_closing :
    let cp := (Sample.settings.run Sample.steeredInputs).plane
    let r := cp.subscribe Sample.guest Sample.pipeline "Played"
      (.object [("$close", .str "owner")])
    (Sample.settings.run Sample.steeredInputs).Amid Sample.guest cp ∧
      cp.registry.contains Sample.pipeline = true ∧
      r.2.registry.contains Sample.pipeline = false ∧
      ControlPlane.Missed Sample.pipeline r := by
  intro cp r
  have hamid := (Sample.settings.run Sample.steeredInputs).amid_plane Sample.guest
  have hlive : cp.registry.contains Sample.pipeline = true := by decide +kernel
  have hgone : r.2.registry.contains Sample.pipeline = false := by decide +kernel
  have hbuilt : ∀ f mid, cp.dispatcher.factory = some f → ∃ receiver,
      (ControlPlane.buildHandler (f.plan Sample.pipeline Sample.guest "Played"
        (.object [("$close", .str "owner")])) mid).1 = .ok receiver := by
    intro f mid hf
    have hsteered : cp.dispatcher.factory = some (.steered .session) :=
      congrArg (·.plane.dispatcher.factory)
        (Sample.settings.run_succ
          [.arrive (.inSession Sample.owner (.create "MediaPipeline" .null))] _)
    cases hf.symm.trans hsteered
    show ∃ receiver, (ControlPlane.buildHandler (.closeFirst Sample.owner true fun _ =>
      .done (.named Sample.guest.text)) mid).1 = .ok receiver
    unfold ControlPlane.buildHandler
    split <;> exact ⟨_, rfl⟩
  have hanswers :=
    (subscriptions_anchored Sample.settings Sample.steeredInputs).2 Sample.guest _ hamid
  exact ⟨hamid, hlive, hgone, hanswers.missed_subscribe hbuilt hgone⟩

namespace Sample

/-- Closes the owner by force, and then refuses. -/
def spiteful : HandlerFactory where
  scope := .session
  plan := fun _ _ _ _ => .closeFirst owner true fun _ => .refuse (.invalidParams (.refused "gone"))

/-- The owner makes a pipeline, under a transport that does not like him. -/
def spitefulInputs : List Input :=
  [.arrive (.inSession owner (.create "MediaPipeline" .null)),
    .command (.installFactory spiteful)]

def subscription : Operation := .subscribe pipeline "Played" .null

/-- The guest invokes a pipeline of its own, and subscribes to the owner's under the id of the
invocation while that is in flight. The owner is closed before the answer is there. -/
def confusedInputs : List Input :=
  [.arrive (.inSession owner (.create "MediaPipeline" .null)),
    .command (.installFactory .silent),
    .arrive (.inSession guest (.create "MediaPipeline" .null)),
    .arrive { Request.inSession guest (.invoke (.root (names.name 2) "kurento.MediaPipeline")
      "sleep" (.object [("ms", .nat 10)])) with id := some (.number 1) },
    .arrive { Request.inSession guest subscription with id := some (.number 1) },
    .command (.close owner true), .command (.advance 10), .resume 2 10, .resume 3 10]

end Sample

/-- The pipeline that the guest subscribes to goes meanwhile, and the guest is told something else.
A transport that closes the owner and then refuses has its own word, and a request that is taken for
a repetition gets the response to the first one. -/
theorem subscription_misinformed :
    (let v := Sample.settings.run Sample.spitefulInputs
      let next := v.step (.arrive (.inSession Sample.guest Sample.subscription))
      v.plane.registry.contains Sample.pipeline = true ∧
        next.plane.registry.contains Sample.pipeline = false ∧
        ((next.calls[1]?.bind Call.response?).bind (·.error)).map (·.code) =
          some FailureCode.invalidParams.number) ∧
      let v := Sample.settings.run (Sample.confusedInputs.take 4)
      let next := Sample.settings.run Sample.confusedInputs
      v.plane.registry.contains Sample.pipeline = true ∧
        next.plane.registry.contains Sample.pipeline = false ∧
        (next.calls[3]?.bind Call.response?).map (·.error.isNone) = some true := by
  decide +kernel

end MediaPlane
