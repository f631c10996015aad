import MediaPlane.Proofs.ControlPlane.Sparing

/-
  Subscriptions go with their objects. A subscription is added without a look at the registry, and
  an object is taken out of the registry before its subscriptions are. That the two meet is said
  here of every change (`lasting_anchored`): what takes objects out drops their subscriptions
  afterwards, and what adds a subscription looks afterwards whether its object is still there, and
  drops every subscription on it if not.
-/

namespace MediaPlane

namespace ControlPlane

open Registry (Cut)

variable {cp mid next : ControlPlane} {s u : SessionId} {P : Leeway} {x : ObjectId}
  {gone : List MediaObject} {p : Subscription → Prop}

/-- Every subscription is on a live object. -/
def Anchored (cp : ControlPlane) : Prop :=
  ∀ id sub, cp.subscription? id = some sub → cp.registry.contains sub.object = true

/-- No subscription is on the object. -/
def Unheard (cp : ControlPlane) (x : ObjectId) : Prop :=
  ∀ id sub, cp.subscription? id = some sub → sub.object ≠ x

theorem Anchored.unheard (ha : cp.Anchored) (hx : cp.registry.contains x = false) :
    cp.Unheard x := by
  rintro id sub hsub rfl
  rw [ha id sub hsub] at hx
  cases hx

/-! ## What takes objects out -/

theorem Sheds.anchored (hd : Sheds cp p next) (ha : cp.Anchored)
    (hlive : ∀ sub, cp.registry.contains sub.object = true →
      next.registry.contains sub.object = true ∨ p sub) : next.Anchored := by
  intro id sub hsub
  obtain ⟨hold, hkept⟩ := (hd id sub).mp hsub
  exact (hlive sub (ha id sub hold)).resolve_right hkept

/-- What is live stays so, and subscriptions only go. -/
theorem Sheds.anchored_of_live (hd : Sheds cp p next) (ha : cp.Anchored)
    (hlive : ∀ x, cp.registry.contains x = true → next.registry.contains x = true) :
    next.Anchored := hd.anchored ha fun sub hx => Or.inl (hlive sub.object hx)

theorem anchored_of_cut (ha : cp.Anchored) (hc : Cut cp.registry gone next.registry)
    (hd : Sheds cp p next) (hp : ∀ sub, sub.object ∈ gone.map (·.id) → p sub) :
    next.Anchored := by
  refine hd.anchored ha fun sub hx => ?_
  by_cases hgone : sub.object ∈ gone.map (·.id)
  · exact Or.inr (hp sub hgone)
  · exact Or.inl (hc.contains_iff.mpr ⟨hx, hgone⟩)

theorem anchored_dropReferences (hs : cp.holdings.Settled) (ha : cp.Anchored) (s : SessionId)
    (ids : List ObjectId) (reason : RemovalReason) :
    (cp.dropReferences s ids reason).Anchored :=
  anchored_of_cut ha (cut_dropReferences hs s ids reason) (sheds_dropReferences cp s ids reason)
    fun _ hgone => hgone

theorem anchored_closedBy (hs : cp.holdings.Settled) (ha : cp.Anchored) {kind : CloseKind}
    {closure : Closure} {holdings : Holdings}
    (hc : cp.holdings.close u kind = .ok (some (closure, holdings))) :
    (cp.closedBy u closure holdings).Anchored :=
  anchored_of_cut ha (cut_closedBy hs hc) (sheds_closedBy cp u closure holdings)
    fun _ hgone => Or.inr hgone

theorem anchored_expire? (hs : cp.holdings.Settled) (ha : cp.Anchored)
    (h : cp.expire? s = some next) : next.Anchored := by
  obtain ⟨closure, holdings, hc, rfl⟩ := expire?_eq_some h
  exact anchored_closedBy hs ha hc

theorem anchored_shutdown (hs : cp.holdings.Settled) (ha : cp.Anchored) :
    cp.shutdown.Anchored :=
  (sheds_shutdown cp).anchored ha fun _ hx => Or.inr (Or.inr (hs.forest.mem_drain.mpr hx))

/-! ## What adds subscriptions -/

/-- Where only subscriptions on one object may be astray, a look at that object settles it. -/
theorem anchored_ensureLive
    (h : ∀ id sub, cp.subscription? id = some sub →
      cp.registry.contains sub.object = true ∨ sub.object = x) : (cp.ensureLive x).2.Anchored := by
  intro id sub hsub
  obtain ⟨hold, hkept⟩ := (sheds_ensureLive cp x id sub).mp hsub
  unfold registry
  rw [holdings_ensureLive]
  rcases h id sub hold with hlive | rfl
  · exact hlive
  · by_contra hdead
    exact hkept ⟨eq_false_of_ne_true hdead, rfl⟩

theorem anchored_confirmed
    (h : ∀ id sub, cp.subscription? id = some sub →
      cp.registry.contains sub.object = true ∨ sub.object = x) : (cp.confirmed x).Anchored := by
  have hlive := anchored_ensureLive h
  rcases confirmed_cases cp x with heq | heq <;> rw [heq]
  · exact hlive
  · exact hlive

/-- A new subscription is on its object, and all others were there before. -/
theorem astray_of_insert (ha : cp.Anchored) {sub : Subscription} {id : SubscriptionId}
    (hr : next.registry = cp.registry) (hx : sub.object = x)
    (h : next.dispatcher.subscriptions = cp.dispatcher.subscriptions.insert id sub)
    (k : SubscriptionId) (sub' : Subscription) (hsub : next.subscription? k = some sub') :
    next.registry.contains sub'.object = true ∨ sub'.object = x := by
  unfold subscription? at hsub
  rw [h, getElem?_insert_lawful] at hsub
  split at hsub
  · cases hsub
    exact Or.inr hx
  · rw [hr]
    exact Or.inl (ha k sub' hsub)

theorem anchored_subscribeUnder (ha : cp.Anchored) (s : SessionId) (key : HandlerKey)
    (receiver : Receiver) : (cp.subscribeUnder s key receiver).2.Anchored := by
  rw [subscribeUnder_snd]
  obtain ⟨h, -, hsubs, -⟩ :=
    cp.drawName.2.dispatcher.attach_eq ⟨cp.drawName.1⟩ s key receiver
  have hr : (cp.attached s key receiver).registry = cp.registry := rfl
  exact anchored_confirmed (astray_of_insert ha hr rfl hsubs)

theorem anchored_shareHandler (ha : cp.Anchored) (object : ObjectId) (s : SessionId)
    (id : SubscriptionId) (handler : Handler) :
    (cp.shareHandler object s id handler).2.Anchored := by
  have hshares := shares cp object s id handler
  generalize (cp.shareHandler object s id handler).2 = next at hshares ⊢
  cases hshares with
  | missed | touched => exact ha
  | @shared dispatcher hlive hd =>
    intro k sub hsub
    have hinsert : dispatcher.subscriptions[k]? = some sub := hsub
    rw [(Dispatcher.share_ok hd).1, getElem?_insert_lawful] at hinsert
    split at hinsert
    · cases hinsert
      exact hlive
    · exact ha k sub hinsert

/-! ## Every change -/

theorem contains_register (cp : ControlPlane) (s : SessionId) (c : Construction)
    (hx : cp.registry.contains x = true) : (cp.register s c).2.registry.contains x = true := by
  unfold registry
  rcases register_cases cp s c with heq | ⟨r, hput, heq⟩ <;> rw [heq]
  · exact hx
  · exact (Registry.contains_put hput x).mpr (Or.inr hx)

theorem anchored_register (ha : cp.Anchored) (s : SessionId) (c : Construction) :
    (cp.register s c).2.Anchored := by
  have hsame := sheds_of_eq (congrArg Dispatcher.subscriptions (dispatcher_register cp s c))
  exact hsame.anchored_of_live ha fun x => contains_register cp s c

theorem Begins.anchored {c : Construction} (hb : cp.Begins c next) (ha : cp.Anchored) :
    next.Anchored := by
  obtain ⟨mock, rfl⟩ := hb.eq
  exact ha

theorem Change.anchored (h : Change s P cp next) (hs : cp.holdings.Settled) (ha : cp.Anchored) :
    next.Anchored := by
  cases h with
  | metrics | mock | draw | leave | touch | raise => exact ha
  | built receiver => cases receiver <;> exact ha
  | enter =>
    obtain ⟨metrics, heq⟩ := enter_eq cp s
    rw [heq]
    exact ha
  | keepAlive h =>
    rw [keepAlive_ok h]
    exact ha
  | connect =>
    obtain ⟨metrics, heq⟩ := connect_eq cp s
    rw [heq]
    exact ha
  | annotate x f =>
    have hsame : Sheds cp (fun _ => False) (cp.annotate x f) := sheds_of_eq rfl
    exact hsame.anchored_of_live ha fun y hy =>
      (Registry.contains_update cp.registry x y f).trans hy
  | create hb => exact anchored_register (hb.anchored ha) s _
  | dropReferences ids reason => exact anchored_dropReferences hs ha s ids reason
  | subscribe key receiver => exact anchored_subscribeUnder ha s key receiver
  | unsubscribe h =>
    obtain ⟨-, rfl⟩ := Dispatcher.unsubscribe_ok h
    exact (sheds_removeWhere cp _).anchored_of_live ha fun _ hx => hx
  | close _ h =>
    obtain ⟨closure, holdings, hc, -, rfl⟩ := closeSession_ok h
    exact anchored_closedBy hs ha hc

/-- Subscriptions stay on live objects. Which objects a change takes out is only known of settled
holdings, so the two last together. -/
theorem lasting_anchored : Lasting fun cp => cp.holdings.Settled ∧ cp.Anchored where
  change := fun h hq => ⟨h.holdings_settled hq.1, h.anchored hq.1 hq.2⟩
  begins := fun hb hq => ⟨lasting_settled.begins hb hq.1, hb.anchored hq.2⟩
  register := fun s c hq => ⟨settled_register hq.1 s c, anchored_register hq.2 s c⟩
  expire := fun h hq => ⟨settled_expire? hq.1 h, anchored_expire? hq.1 hq.2 h⟩
  shareHandler := fun object s id handler _ hq =>
    ⟨settled_shareHandler hq.1 object s id handler, anchored_shareHandler hq.2 object s id handler⟩
  shutdown := fun hq => ⟨settled_shutdown hq.1, anchored_shutdown hq.1 hq.2⟩
  set := fun _ _ _ hq => hq
  handlers := fun _ _ _ hq => hq

end ControlPlane

end MediaPlane
