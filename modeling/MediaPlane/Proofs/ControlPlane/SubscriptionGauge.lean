import MediaPlane.Proofs.ControlPlane.Anchoring
import MediaPlane.Proofs.ControlPlane.Performance

/-
  The gauge of subscriptions. Whatever adds or drops subscriptions sets the gauge afterwards, with
  one exception: a subscription whose object went while its handler was built is dropped again, and
  the gauge is not set. It stays right all the same (`Move.gauged`), since the other subscriptions
  on that object had gone before, and so what is dropped is just what was added. But this needs the
  new subscription not to take the place of another one, that is, its name to be new (`Apart`).
-/

namespace MediaPlane

namespace ControlPlane

variable {cp mid next : ControlPlane} {s u : SessionId} {P : Leeway} {tacit : Prop}
  {ps : List Performance} {n : Nat} {p : Subscription → Prop}

/-! ## New names -/

/-- Names are told apart, and no subscription bears one that is still to be drawn. -/
structure Apart (cp : ControlPlane) : Prop where
  injective : Function.Injective cp.names.name
  not_ahead : ∀ id sub, cp.subscription? id = some sub → ¬ cp.names.Ahead id.text

theorem Sheds.apart (hd : Sheds cp p next) (ho : cp.names.Onward next.names) (ha : cp.Apart) :
    next.Apart where
  injective := by
    rw [ho.name_eq]
    exact ha.injective
  not_ahead := fun id sub hsub hahead =>
    ha.not_ahead id sub ((hd id sub).mp hsub).1 (ho.ahead hahead)

/-- A drawn name is not drawn again. -/
theorem apart_attached (ha : cp.Apart) (s : SessionId) (key : HandlerKey) (receiver : Receiver) :
    (cp.attached s key receiver).Apart where
  injective := ha.injective
  not_ahead := by
    rintro id sub hsub ⟨k, hk, hname⟩
    have hlater : cp.names.drawn + 1 < k := hk
    obtain ⟨new, -, hnew⟩ := subscription?_attached cp s key receiver
    rw [hnew] at hsub
    split at hsub
    · next hid =>
      have htext : cp.names.name (cp.names.drawn + 1) = id.text := congrArg SubscriptionId.text hid
      have hsame : k = cp.names.drawn + 1 := ha.injective (hname.trans htext.symm)
      omega
    · exact ha.not_ahead id sub hsub ⟨k, by omega, hname⟩

theorem Change.apart (h : Change s P cp next) (ha : cp.Apart) : next.Apart := by
  have ho := h.steady.onward
  rcases h.sheds with ⟨p, hd⟩ | ⟨key, receiver, rfl⟩
  · exact hd.apart ho ha
  · rw [subscribeUnder_snd]
    exact (sheds_confirmed _ key.object).apart (steady_confirmed _ _).onward
      (apart_attached ha s key receiver)

theorem Changes.apart (h : Changes s P cp next) (ha : cp.Apart) : next.Apart := by
  induction h with
  | refl => exact ha
  | tail _ hc ih | aside _ _ hc ih => exact hc.apart ih

theorem apart_of_dispatcher_eq (ha : cp.Apart) (hd : next.dispatcher = cp.dispatcher)
    (ho : cp.names.Onward next.names) : next.Apart :=
  (sheds_of_eq (congrArg Dispatcher.subscriptions hd)).apart ho ha

theorem Stretch.apart {w : Option Wait} (h : Stretch s P cp w next) (ha : cp.Apart) :
    next.Apart := by
  cases h with
  | settled hc | answer hc => exact hc.apart ha
  | construction hc hb =>
    exact apart_of_dispatcher_eq (hc.apart ha) hb.dispatcher_eq hb.steady.onward

/-! ## The gauge -/

/-- The gauge of subscriptions, once set, says how many there are. -/
def Gauged (cp : ControlPlane) : Prop :=
  ∀ n, cp.metrics.subscriptionsActive = some n → n = cp.dispatcher.subscriptionCount

theorem gauged_of_set
    (h : cp.metrics.subscriptionsActive = some cp.dispatcher.subscriptionCount) : cp.Gauged := by
  intro n hn
  rw [h] at hn
  exact (Option.some.inj hn).symm

theorem Gauged.of_eq (hg : cp.Gauged)
    (hgauge : next.metrics.subscriptionsActive = cp.metrics.subscriptionsActive)
    (hsubs : next.dispatcher.subscriptions = cp.dispatcher.subscriptions) : next.Gauged := by
  unfold Gauged Dispatcher.subscriptionCount
  rw [hgauge, hsubs]
  exact hg

theorem Gauged.enter (hg : cp.Gauged) (s : SessionId) : (cp.enter s).Gauged := by
  unfold ControlPlane.enter
  simp only
  split <;> exact hg.of_eq rfl rfl

theorem Gauged.connect (hg : cp.Gauged) (s : SessionId) : (cp.connect s).Gauged := by
  unfold ControlPlane.connect
  simp only
  split <;> exact hg.of_eq rfl rfl

theorem Gauged.register (hg : cp.Gauged) (s : SessionId) (c : Construction) :
    (cp.register s c).2.Gauged := by
  unfold ControlPlane.register
  split <;> exact hg.of_eq rfl rfl

theorem Gauged.teardown (hg : cp.Gauged) (reason : RemovalReason) (gone : List MediaObject) :
    (cp.teardown reason gone).Gauged := by
  unfold ControlPlane.teardown
  split
  · exact hg
  · exact gauged_of_set rfl

theorem gauged_closeSession {forced : Bool} (h : cp.closeSession u forced = .ok (n, next)) :
    next.Gauged := by
  obtain ⟨closure, holdings, -, -, rfl⟩ := closeSession_ok h
  exact gauged_of_set rfl

/-- Where subscriptions are on live objects, what is added for an object that has gone is all that
its loss takes. -/
theorem subscriptions_of_gone (ha : cp.Apart) (hlive : cp.Anchored) (s : SessionId)
    {key : HandlerKey} (receiver : Receiver) (hgone : cp.registry.contains key.object = false) :
    ((cp.attached s key receiver).confirmed key.object).dispatcher.subscriptions =
      cp.dispatcher.subscriptions := by
  obtain ⟨h, -, hsubs, -⟩ :=
    cp.drawName.2.dispatcher.attach_eq ⟨cp.drawName.1⟩ s key receiver
  have hattached : ∀ id, (cp.attached s key receiver).subscription? id =
      if (⟨cp.drawName.1⟩ : SubscriptionId) = id then
        some ⟨⟨cp.drawName.1⟩, key.object, key.eventType, s, h⟩ else cp.subscription? id := by
    intro id
    unfold subscription? attached
    rw [hsubs, getElem?_insert_lawful]
    rfl
  refine Std.ExtTreeMap.ext_getElem? fun id => Option.ext fun sub => ?_
  show subscription? _ id = some sub ↔ cp.subscription? id = some sub
  rw [sheds_confirmed (cp.attached s key receiver) key.object id sub, hattached]
  have hdead : (cp.attached s key receiver).registry.contains key.object = false := hgone
  simp only [hdead, true_and]
  split
  · next hid =>
    subst hid
    constructor
    · rintro ⟨hsub, hkept⟩
      cases hsub
      exact absurd rfl hkept
    · intro hsub
      exact absurd (NameSource.ahead_draw cp.names) (ha.not_ahead _ sub hsub)
  · refine ⟨And.left, fun hsub => ⟨hsub, fun hobject => ?_⟩⟩
    have hthere := hlive id sub hsub
    rw [hobject, hgone] at hthere
    cases hthere

theorem gauged_subscribeUnder (hg : cp.Gauged) (ha : cp.Apart) (hlive : cp.Anchored)
    (s : SessionId) (key : HandlerKey) (receiver : Receiver) :
    (cp.subscribeUnder s key receiver).2.Gauged := by
  rw [subscribeUnder_snd]
  cases hobject : cp.registry.contains key.object with
  | true =>
    rw [confirmed_of_live]
    · exact gauged_of_set rfl
    · exact hobject
  | false =>
    -- The gauge is not set here, but nothing is left of the new subscription either.
    have hsubs := subscriptions_of_gone ha hlive s receiver hobject
    have herror : (cp.attached s key receiver).ensureLive key.object = (.error _, _) :=
      if_neg (Bool.eq_false_iff.mp hobject)
    refine hg.of_eq ?_ hsubs
    rw [confirmed_of_error herror]
    rfl

theorem Move.gauged (h : Move s P tacit cp next) (hg : cp.Gauged) (ha : cp.Apart)
    (hlive : cp.Anchored) : next.Gauged := by
  cases h with
  | mock | touch | annotate | raise => exact hg.of_eq rfl rfl
  | built receiver => cases receiver <;> exact hg.of_eq rfl rfl
  | enter => exact hg.enter s
  | dropReferences ids reason =>
    have htables : Gauged { cp with holdings := ((cp.holdings.dropped s ids).collect ids).2 } :=
      hg.of_eq rfl rfl
    exact htables.teardown reason _
  | subscribe key receiver => exact gauged_subscribeUnder hg ha hlive s key receiver
  | unsubscribe => exact gauged_of_set rfl
  | close _ h => exact gauged_closeSession h

/-! ## What calls perform -/

/-- Where the gauge is right and stays so. -/
structure Heard (cp : ControlPlane) : Prop where
  sound : cp.holdings.Settled ∧ cp.Anchored
  apart : cp.Apart
  gauged : cp.Gauged

theorem Heard.after (hh : cp.Heard) {w : Option Wait} (h : Stretch s P cp w next)
    (hg : next.Gauged) : next.Heard :=
  ⟨lasting_anchored.stretch h hh.sound, h.apart hh.apart, hg⟩

theorem Moves.heard (h : Moves s P tacit cp n next) (hh : cp.Heard) : next.Heard := by
  induction h with
  | refl => exact hh
  | tail _ hm ih | aside _ _ hm ih =>
    exact ih.after (.settled hm.changes) (hm.gauged ih.gauged ih.apart ih.sound.2)
  | @answered u hu _ mid _ result ih =>
    have hc : Changes u P mid ((mid.leave u).countRequest Method.subscribe.name result) :=
      (Changes.one .leave).tail (.metrics _)
    exact ih.after (.settled hc) (ih.gauged.of_eq rfl rfl)

theorem Creates.gauged {outcome : Outcome} (h : Creates s cp outcome next) (hg : cp.Gauged) :
    next.Gauged := by
  have hbegun : ∀ {c mid}, cp.Begins c mid → mid.Gauged := by
    intro c mid hb
    obtain ⟨mock, rfl⟩ := hb.eq
    exact hg.of_eq rfl rfl
  cases h with
  | refused | failed | unbuilt => exact hg.of_eq rfl rfl
  | built _ hb => exact (hbegun hb).register s _
  | begun _ hb => exact hbegun hb

theorem heard_execute (hh : cp.Heard) (s : SessionId) (op : Operation) :
    (cp.execute s op).2.Heard := by
  by_cases hop : op.method = .create
  · cases op with
    | create typeName params =>
      have hcreates := creates cp s typeName params
      exact hh.after (P := Leeway.full) hcreates.stretch (hcreates.gauged hh.gauged)
    | _ => cases hop
  · exact (moves_execute cp.dispatcher.within_full (Or.inl trivial) hop).heard hh

theorem Act.heard (h : Act cp ps n next) (hh : cp.Heard) : next.Heard := by
  have hsame : ∀ {s last}, Change s Leeway.full cp last → last.Gauged → last.Heard :=
    fun hc => hh.after (.settled (.one hc))
  cases h with
  | draw => exact hsame (.draw (s := default)) (hh.gauged.of_eq rfl rfl)
  | enter s => exact hsame .enter (hh.gauged.enter s)
  | leave s => exact hsame .leave (hh.gauged.of_eq rfl rfl)
  | keepAlive h =>
    refine hsame (.keepAlive h) ?_
    rw [keepAlive_ok h]
    exact hh.gauged.of_eq rfl rfl
  | connect s => exact hsame .connect (hh.gauged.connect s)
  | @close s _ _ _ h => exact hsame (.close (s := s) trivial h) (gauged_closeSession h)
  | @perform s op _ _ h =>
    have hperform := heard_execute hh s op
    rw [h] at hperform
    exact hperform
  | cache cache =>
    exact ⟨lasting_anchored.cache hh.sound cache,
      apart_of_dispatcher_eq hh.apart rfl ⟨rfl, Nat.le_refl _⟩, hh.gauged.of_eq rfl rfl⟩
  | count | replay => exact hsame (.metrics (s := default) _) (hh.gauged.of_eq rfl rfl)

theorem Acts.heard (h : Acts cp ps n next) (hh : cp.Heard) : next.Heard := by
  induction h with
  | refl => exact hh
  | tail _ ha ih => exact ha.heard ih

/-! ## What only commands do -/

/-- A registration is all that goes on between two acts. -/
theorem Heard.register (hh : cp.Heard) (s : SessionId) (c : Construction) :
    (cp.register s c).2.Heard :=
  ⟨lasting_anchored.register s c hh.sound,
    apart_of_dispatcher_eq hh.apart (dispatcher_register cp s c) (steady_register cp s c).onward,
    hh.gauged.register s c⟩

theorem apart_expireAll (ha : cp.Apart) (ss : List SessionId) : (cp.expireAll ss).2.Apart := by
  induction ss generalizing cp with
  | nil => exact ha
  | cons s ss ih =>
    unfold expireAll
    split
    · exact ih ha
    · next next heq =>
      have ho := (steady_expire? heq).onward
      obtain ⟨closure, holdings, -, hnext⟩ := expire?_eq_some heq
      rw [hnext] at ho
      refine ih ?_
      rw [hnext]
      exact (sheds_closedBy cp s closure holdings).apart ho ha

theorem Heard.sweep (hh : cp.Heard) : cp.sweep.2.Heard := by
  have hsound := lasting_anchored.sweep hh.sound
  rcases cp.sweep_cases with heq | heq <;> rw [heq] at hsound ⊢
  · exact hh
  · have hapart := apart_expireAll hh.apart (cp.sessions.idle cp.now cp.sessionTtl)
    exact ⟨hsound, apart_of_dispatcher_eq hapart rfl ⟨rfl, Nat.le_refl _⟩, gauged_of_set rfl⟩

theorem Heard.shutdown (hh : cp.Heard) : cp.shutdown.Heard :=
  ⟨lasting_anchored.shutdown hh.sound,
    (sheds_shutdown cp).apart (steady_shutdown cp).onward hh.apart, gauged_of_set rfl⟩

/-- A shared handler is subscribed under a name that will not be drawn. -/
theorem Heard.shareHandler (hh : cp.Heard) (object : ObjectId) (s : SessionId)
    {id : SubscriptionId} {handler : Handler} (hheld : handler ∈ cp.dispatcher.held)
    (hid : ¬ cp.names.Ahead id.text) : (cp.shareHandler object s id handler).2.Heard := by
  have hsound := lasting_anchored.shareHandler object s id handler hheld hh.sound
  have hshares := shares cp object s id handler
  generalize (cp.shareHandler object s id handler).2 = next at hsound hshares
  cases hshares with
  | missed => exact hh
  | touched =>
    exact ⟨hsound, apart_of_dispatcher_eq hh.apart rfl ⟨rfl, Nat.le_refl _⟩,
      hh.gauged.of_eq rfl rfl⟩
  | @shared dispatcher _ hd =>
    refine ⟨hsound, ⟨hh.apart.injective, fun k sub hsub => ?_⟩, gauged_of_set rfl⟩
    have hinsert : dispatcher.subscriptions[k]? = some sub := hsub
    rw [(Dispatcher.share_ok hd).1, getElem?_insert_lawful] at hinsert
    split at hinsert
    · next heq =>
      rw [← heq]
      exact hid
    · exact hh.apart.not_ahead k sub hinsert

end ControlPlane

end MediaPlane
