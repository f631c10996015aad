import MediaPlane.Proofs.ControlPlane.Settled
import MediaPlane.Proofs.Event.Handlers

/-
  What becomes of subscriptions. Apart from new ones, steps only ever shed subscriptions: those of a
  session that closes, those on objects that go, and the one that is unsubscribed. `Sheds` says
  which ones go, and that all others stay as they are. Every subscription is known under its own id
  (`Keyed`), so that taking one out by its id takes out no other.
-/

namespace MediaPlane

namespace ControlPlane

variable {cp mid next : ControlPlane} {p q : Subscription → Prop} {s u : SessionId} {P : Leeway}

/-- The subscription of an id. -/
def subscription? (cp : ControlPlane) (id : SubscriptionId) : Option Subscription :=
  cp.dispatcher.subscriptions[id]?

/-! ## Shedding -/

/-- The subscriptions that satisfy `p` go, and no others come or go. -/
def Sheds (cp : ControlPlane) (p : Subscription → Prop) (next : ControlPlane) : Prop :=
  ∀ id sub, next.subscription? id = some sub ↔ cp.subscription? id = some sub ∧ ¬ p sub

theorem sheds_of_eq (h : next.dispatcher.subscriptions = cp.dispatcher.subscriptions) :
    Sheds cp (fun _ => False) next := by
  intro id sub
  unfold subscription?
  rw [h, not_false_eq_true, and_true]

theorem Sheds.trans (h : Sheds cp p mid) (h' : Sheds mid q next) :
    Sheds cp (fun sub => p sub ∨ q sub) next := by
  intro id sub
  rw [h' id sub, h id sub, and_assoc, not_or]

theorem Sheds.congr (h : Sheds cp p next) (hpq : ∀ sub, p sub ↔ q sub) : Sheds cp q next := by
  intro id sub
  rw [h id sub, hpq sub]

theorem sheds_removeWhere (cp : ControlPlane) (test : Subscription → Bool) :
    Sheds cp (fun sub => test sub = true)
      { cp with dispatcher := (cp.dispatcher.removeWhere test).2 } :=
  fun _ _ => Dispatcher.getElem?_removeWhere_eq_some

theorem sheds_dropObject (cp : ControlPlane) (x : ObjectId) :
    Sheds cp (fun sub => sub.object = x)
      { cp with dispatcher := (cp.dispatcher.dropObject x).2 } :=
  (sheds_removeWhere cp _).congr fun _ => decide_eq_true_iff

theorem sheds_dismantle (cp : ControlPlane) (o : MediaObject) :
    Sheds cp (fun sub => sub.object = o.id) (cp.dismantle o) := sheds_dropObject cp o.id

theorem sheds_dismantleAll (cp : ControlPlane) (gone : List MediaObject) :
    Sheds cp (fun sub => sub.object ∈ gone.map (·.id)) (gone.foldl dismantle cp) := by
  induction gone generalizing cp with
  | nil => exact (sheds_of_eq rfl).congr fun sub => by simp
  | cons o gone ih =>
    refine ((sheds_dismantle cp o).trans (ih (cp.dismantle o))).congr fun sub => ?_
    rw [List.map_cons, List.mem_cons]

theorem sheds_teardown (cp : ControlPlane) (reason : RemovalReason) (gone : List MediaObject) :
    Sheds cp (fun sub => sub.object ∈ gone.map (·.id)) (cp.teardown reason gone) := by
  unfold teardown
  split
  · next hempty =>
    rw [List.isEmpty_iff.mp hempty]
    exact (sheds_of_eq rfl).congr fun sub => by simp
  · exact sheds_dismantleAll cp gone

theorem sheds_dropSubscriptions (cp : ControlPlane) (s : SessionId) :
    Sheds cp (fun sub => sub.session = s) (cp.dropSubscriptions s) :=
  (sheds_removeWhere cp _).congr fun _ => decide_eq_true_iff

/-- A new subscription on an object that is gone takes the other ones on it along. -/
theorem sheds_ensureLive (cp : ControlPlane) (x : ObjectId) :
    Sheds cp (fun sub => cp.registry.contains x = false ∧ sub.object = x) (cp.ensureLive x).2 := by
  unfold ensureLive
  split
  · next hlive => exact (sheds_of_eq rfl).congr fun sub => by simp [hlive]
  · next hgone => exact (sheds_dropObject cp x).congr fun sub => by simp [hgone]

theorem sheds_confirmed (cp : ControlPlane) (x : ObjectId) :
    Sheds cp (fun sub => cp.registry.contains x = false ∧ sub.object = x) (cp.confirmed x) := by
  have h := sheds_ensureLive cp x
  rcases confirmed_cases cp x with heq | heq <;> rw [heq]
  · exact h
  · exact h

theorem sheds_dropReferences (cp : ControlPlane) (s : SessionId) (ids : List ObjectId)
    (reason : RemovalReason) :
    Sheds cp (fun sub => sub.object ∈ ((cp.holdings.dropped s ids).collect ids).1.map (·.id))
      (cp.dropReferences s ids reason) := by
  have htables : Sheds cp (fun _ => False)
      { cp with holdings := ((cp.holdings.dropped s ids).collect ids).2 } := sheds_of_eq rfl
  refine (htables.trans (sheds_teardown _ reason _)).congr fun sub => ?_
  rw [false_or]
  rfl

/-- A close takes the session's subscriptions, and those on what it destroys. -/
theorem sheds_closedBy (cp : ControlPlane) (s : SessionId) (closure : Closure)
    (holdings : Holdings) :
    Sheds cp (fun sub => sub.session = s ∨
        sub.object ∈ (closure.forced ++ closure.collected).map (·.id))
      (cp.closedBy s closure holdings) := by
  have htables : Sheds cp (fun _ => False) { cp with holdings } := sheds_of_eq rfl
  refine (((htables.trans (sheds_dropSubscriptions _ s)).trans
    (sheds_teardown _ .forced closure.forced)).trans
    (sheds_teardown _ .unreferenced closure.collected)).congr fun sub => ?_
  rw [false_or, or_assoc, List.map_append, List.mem_append]

/-- What is attached is new under the drawn name, and nothing else changes. -/
theorem subscription?_attached (cp : ControlPlane) (s : SessionId) (key : HandlerKey)
    (receiver : Receiver) :
    ∃ sub : Subscription, sub.id = ⟨cp.drawName.1⟩ ∧ ∀ id,
      (cp.attached s key receiver).subscription? id =
        if ⟨cp.drawName.1⟩ = id then some sub else cp.subscription? id := by
  obtain ⟨sub, hid, hsub⟩ :=
    cp.drawName.2.dispatcher.subscriptions_attach ⟨cp.drawName.1⟩ s key receiver
  refine ⟨sub, hid, fun id => ?_⟩
  show (cp.drawName.2.dispatcher.attach ⟨cp.drawName.1⟩ s key receiver).subscriptions[id]? = _
  rw [hsub, getElem?_insert_lawful]
  rfl

/-! ## Ids -/

/-- Every subscription is known under its own id. -/
def Keyed (cp : ControlPlane) : Prop := ∀ id sub, cp.subscription? id = some sub → sub.id = id

theorem Sheds.keyed (h : Sheds cp p next) (hk : cp.Keyed) : next.Keyed :=
  fun id sub hsub => hk id sub ((h id sub).mp hsub).1

theorem keyed_of_insert (hk : cp.Keyed) {sub : Subscription} {id : SubscriptionId}
    (hid : sub.id = id)
    (h : next.dispatcher.subscriptions = cp.dispatcher.subscriptions.insert id sub) :
    next.Keyed := by
  intro k sub' hsub
  unfold subscription? at hsub
  rw [h, getElem?_insert_lawful] at hsub
  split at hsub
  · next heq =>
    cases hsub
    exact hid.trans heq
  · exact hk k sub' hsub

theorem keyed_subscribeUnder (hk : cp.Keyed) (s : SessionId) (key : HandlerKey)
    (receiver : Receiver) : (cp.subscribeUnder s key receiver).2.Keyed := by
  rw [subscribeUnder_snd]
  obtain ⟨sub, hid, hsub⟩ :=
    cp.drawName.2.dispatcher.subscriptions_attach ⟨cp.drawName.1⟩ s key receiver
  have hattached : (cp.attached s key receiver).Keyed := keyed_of_insert hk hid hsub
  exact (sheds_confirmed _ key.object).keyed hattached

theorem dispatcher_register (cp : ControlPlane) (s : SessionId) (c : Construction) :
    (cp.register s c).2.dispatcher = cp.dispatcher := by
  unfold register
  split <;> rfl

theorem Begins.registered_eq {c : Construction} (h : cp.Begins c next) :
    next.journal.registered = cp.journal.registered := by
  obtain ⟨mock, rfl⟩ := h.eq
  rfl

theorem Begins.dispatcher_eq {c : Construction} (h : cp.Begins c next) :
    next.dispatcher = cp.dispatcher := by
  obtain ⟨mock, rfl⟩ := h.eq
  rfl

theorem keyed_of_dispatcher_eq (hk : cp.Keyed) (h : next.dispatcher = cp.dispatcher) :
    next.Keyed := (sheds_of_eq (congrArg Dispatcher.subscriptions h)).keyed hk

/-- A change sheds subscriptions, unless it adds one. -/
theorem Change.sheds (h : Change s P cp next) :
    (∃ p, Sheds cp p next) ∨ ∃ key receiver, next = (cp.subscribeUnder s key receiver).2 := by
  have hsame : ∀ {next}, next.dispatcher = cp.dispatcher → ∃ p, Sheds cp p next := fun heq =>
    ⟨_, sheds_of_eq (congrArg Dispatcher.subscriptions heq)⟩
  cases h with
  | metrics | mock | draw | leave | touch | annotate | raise => exact Or.inl (hsame rfl)
  | built receiver => cases receiver <;> exact Or.inl (hsame rfl)
  | enter =>
    obtain ⟨metrics, heq⟩ := enter_eq cp s
    rw [heq]
    exact Or.inl (hsame rfl)
  | keepAlive h =>
    rw [keepAlive_ok h]
    exact Or.inl (hsame rfl)
  | connect =>
    obtain ⟨metrics, heq⟩ := connect_eq cp s
    rw [heq]
    exact Or.inl (hsame rfl)
  | create hb => exact Or.inl (hsame ((dispatcher_register _ s _).trans hb.dispatcher_eq))
  | dropReferences ids reason => exact Or.inl ⟨_, sheds_dropReferences cp s ids reason⟩
  | subscribe key receiver => exact Or.inr ⟨key, receiver, rfl⟩
  | unsubscribe h =>
    obtain ⟨-, rfl⟩ := Dispatcher.unsubscribe_ok h
    exact Or.inl ⟨_, sheds_removeWhere cp _⟩
  | close _ h =>
    obtain ⟨closure, holdings, -, -, rfl⟩ := closeSession_ok h
    exact Or.inl ⟨_, sheds_closedBy cp _ closure holdings⟩

theorem journal_ensureLive (cp : ControlPlane) (x : ObjectId) :
    (cp.ensureLive x).2.journal = cp.journal := by
  unfold ensureLive
  split <;> rfl

theorem journal_confirmed (cp : ControlPlane) (x : ObjectId) :
    (cp.confirmed x).journal = cp.journal := by
  have h := journal_ensureLive cp x
  rcases confirmed_cases cp x with heq | heq <;> rw [heq]
  · exact h
  · exact h

theorem journal_subscribeUnder (cp : ControlPlane) (s : SessionId) (key : HandlerKey)
    (receiver : Receiver) : (cp.subscribeUnder s key receiver).2.journal = cp.journal := by
  rw [subscribeUnder_snd]
  exact journal_confirmed (cp.attached s key receiver) key.object

theorem Change.keyed (h : Change s P cp next) (hk : cp.Keyed) : next.Keyed := by
  rcases h.sheds with ⟨p, hd⟩ | ⟨key, receiver, rfl⟩
  · exact hd.keyed hk
  · exact keyed_subscribeUnder hk s key receiver

theorem keyed_expire? (hk : cp.Keyed) (h : cp.expire? s = some next) : next.Keyed := by
  obtain ⟨closure, holdings, -, rfl⟩ := expire?_eq_some h
  exact (sheds_closedBy cp s closure holdings).keyed hk

theorem keyed_shareHandler (hk : cp.Keyed) (object : ObjectId) (s : SessionId)
    (id : SubscriptionId) (handler : Handler) : (cp.shareHandler object s id handler).2.Keyed := by
  have hshares := shares cp object s id handler
  generalize (cp.shareHandler object s id handler).2 = next at hshares ⊢
  cases hshares with
  | missed | touched => exact hk
  | shared _ hd =>
    refine keyed_of_insert hk ?_ (Dispatcher.share_ok hd).1
    rfl

theorem sheds_dropAll (cp : ControlPlane) (ss : List SessionId) :
    Sheds cp (fun sub => sub.session ∈ ss) (ss.foldl dropSubscriptions cp) := by
  induction ss generalizing cp with
  | nil => exact (sheds_of_eq rfl).congr fun sub => by simp
  | cons s ss ih =>
    refine ((sheds_dropSubscriptions cp s).trans (ih (cp.dropSubscriptions s))).congr fun sub => ?_
    rw [List.mem_cons]

/-- A shutdown takes the subscriptions of all sessions, and those on all objects. -/
theorem sheds_shutdown (cp : ControlPlane) :
    Sheds cp (fun sub => sub.session ∈ cp.sessions.ids ∨
      sub.object ∈ cp.registry.drain.1.map (·.id)) cp.shutdown := by
  have htables : Sheds cp (fun _ => False)
      { cp with
        holdings :=
          { registry := cp.registry.drain.2,
            sessions := cp.sessions.removeSessions cp.sessions.ids } } := sheds_of_eq rfl
  have hall : Sheds cp _ cp.shutdown :=
    (htables.trans (sheds_dropAll _ cp.sessions.ids)).trans
      (sheds_teardown _ .shutdown cp.registry.drain.1)
  refine hall.congr fun sub => ?_
  rw [false_or]

theorem keyed_shutdown (hk : cp.Keyed) : cp.shutdown.Keyed := (sheds_shutdown cp).keyed hk

theorem lasting_keyed : Lasting Keyed where
  change := fun h hk => h.keyed hk
  begins := fun hb hk => keyed_of_dispatcher_eq hk hb.dispatcher_eq
  register := fun s c hk => keyed_of_dispatcher_eq hk (dispatcher_register _ s c)
  expire := fun h hk => keyed_expire? hk h
  shareHandler := fun object s id handler _ hk => keyed_shareHandler hk object s id handler
  shutdown := fun hk => keyed_shutdown hk
  set := fun _ _ _ hk => hk
  handlers := fun _ _ _ hk => hk

theorem keyed_empty (c : ControlPlane) (h : c.dispatcher.subscriptions = ∅) : c.Keyed := by
  intro id sub hsub
  unfold subscription? at hsub
  rw [h, Std.ExtTreeMap.getElem?_empty] at hsub
  cases hsub

end ControlPlane

end MediaPlane
