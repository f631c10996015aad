import MediaPlane.Proofs.ControlPlane.Subscriptions
import MediaPlane.Proofs.Event.Thinning

/-
  The handlers of a control plane. Whatever is asked of it, its dispatcher knows every owned handler
  under its key (`lasting_sound`): subscriptions are attached and shared as the dispatcher's own
  invariant wants it, and all else that happens to them is that some go.
-/

namespace MediaPlane

namespace ControlPlane

open Dispatcher (Thinned)

variable {cp next : ControlPlane} {s : SessionId} {P : Leeway}

/-! ## Subscriptions go -/

theorem thinned_dropSubscriptions (hd : cp.dispatcher.Sound) (s : SessionId) :
    Thinned cp.dispatcher (cp.dropSubscriptions s).dispatcher := hd.thinned_removeWhere _

theorem thinned_dropAll (hd : cp.dispatcher.Sound) (ss : List SessionId) :
    Thinned cp.dispatcher (ss.foldl dropSubscriptions cp).dispatcher := by
  induction ss generalizing cp with
  | nil => exact Thinned.refl hd
  | cons s ss ih =>
    have hone := thinned_dropSubscriptions hd s
    exact hone.trans (ih hone.sound)

theorem thinned_dismantleAll (hd : cp.dispatcher.Sound) (gone : List MediaObject) :
    Thinned cp.dispatcher (gone.foldl dismantle cp).dispatcher := by
  induction gone generalizing cp with
  | nil => exact Thinned.refl hd
  | cons o gone ih =>
    have hone : Thinned cp.dispatcher (cp.dismantle o).dispatcher := hd.thinned_removeWhere _
    exact hone.trans (ih hone.sound)

theorem thinned_teardown (hd : cp.dispatcher.Sound) (reason : RemovalReason)
    (gone : List MediaObject) : Thinned cp.dispatcher (cp.teardown reason gone).dispatcher := by
  unfold teardown
  split
  · exact Thinned.refl hd
  · exact thinned_dismantleAll hd gone

theorem thinned_closedBy (hd : cp.dispatcher.Sound) (s : SessionId) (closure : Closure)
    (holdings : Holdings) :
    Thinned cp.dispatcher (cp.closedBy s closure holdings).dispatcher := by
  have htables : Dispatcher.Sound { cp with holdings }.dispatcher := hd
  have hdropped := thinned_dropSubscriptions htables s
  have hforced := thinned_teardown hdropped.sound .forced closure.forced
  exact (hdropped.trans hforced).trans
    (thinned_teardown hforced.sound .unreferenced closure.collected)

theorem thinned_ensureLive (hd : cp.dispatcher.Sound) (x : ObjectId) :
    Thinned cp.dispatcher (cp.ensureLive x).2.dispatcher := by
  unfold ensureLive
  split
  · exact Thinned.refl hd
  · exact hd.thinned_removeWhere _

theorem thinned_confirmed (hd : cp.dispatcher.Sound) (x : ObjectId) :
    Thinned cp.dispatcher (cp.confirmed x).dispatcher := by
  have h := thinned_ensureLive hd x
  rcases confirmed_cases cp x with heq | heq <;> rw [heq]
  · exact h
  · exact h

/-! ## Every change -/

theorem sound_register (hd : cp.dispatcher.Sound) (s : SessionId) (c : Construction) :
    (cp.register s c).2.dispatcher.Sound := by
  rw [dispatcher_register]
  exact hd

theorem Change.sound (h : Change s P cp next) (hd : cp.dispatcher.Sound) :
    next.dispatcher.Sound := by
  cases h with
  | metrics | mock | draw | leave | touch | annotate | raise => exact hd
  | built receiver => cases receiver <;> exact hd
  | enter =>
    obtain ⟨metrics, heq⟩ := enter_eq cp s
    rw [heq]
    exact hd
  | keepAlive h =>
    rw [keepAlive_ok h]
    exact hd
  | connect =>
    obtain ⟨metrics, heq⟩ := connect_eq cp s
    rw [heq]
    exact hd
  | create hb =>
    refine sound_register ?_ s _
    rw [hb.dispatcher_eq]
    exact hd
  | dropReferences ids reason =>
    have htables : Dispatcher.Sound
        { cp with holdings := ((cp.holdings.dropped s ids).collect ids).2 }.dispatcher := hd
    exact (thinned_teardown htables reason _).sound
  | subscribe key receiver =>
    have hattached : (cp.attached s key receiver).dispatcher.Sound := hd.attach _ _ _ _
    rw [subscribeUnder_snd]
    exact (thinned_confirmed hattached key.object).sound
  | unsubscribe h => exact hd.unsubscribe h
  | close _ h =>
    obtain ⟨closure, holdings, -, -, rfl⟩ := closeSession_ok h
    exact (thinned_closedBy hd _ closure holdings).sound

theorem sound_shareHandler (hd : cp.dispatcher.Sound) (object : ObjectId) (s : SessionId)
    (id : SubscriptionId) {handler : Handler} (hheld : handler ∈ cp.dispatcher.held) :
    (cp.shareHandler object s id handler).2.dispatcher.Sound := by
  have hshares := shares cp object s id handler
  generalize (cp.shareHandler object s id handler).2 = next at hshares ⊢
  cases hshares with
  | missed | touched => exact hd
  | shared _ hshared => exact hd.share hheld hshared

/-- Who holds handlers that are held already, or live, holds owned ones. -/
theorem sound_held (hd : cp.dispatcher.Sound) (factory : Option HandlerFactory)
    {held : List Handler}
    (hheld : ∀ h ∈ held, h ∈ cp.dispatcher.held ∨
      ∃ key, cp.dispatcher.liveHandler? key = some h) :
    Dispatcher.Sound { cp.dispatcher with factory, held } := by
  refine hd.shrink rfl rfl (Nat.le_refl _) ?_ fun _ _ hs => hd.source_eq hs
  rintro h (hsub | hh)
  · exact Or.inl hsub
  · rcases hheld h hh with hold | ⟨key, hlive⟩
    · exact Or.inr hold
    · exact (hd.liveHandler?_eq_some.mp hlive).2

theorem lasting_sound : Lasting fun cp => cp.dispatcher.Sound where
  change := fun h hd => h.sound hd
  begins := by
    intro cp next c hb hd
    rw [hb.dispatcher_eq]
    exact hd
  register := fun s c hd => sound_register hd s c
  expire := by
    intro cp next s h hd
    obtain ⟨closure, holdings, -, rfl⟩ := expire?_eq_some h
    exact (thinned_closedBy hd s closure holdings).sound
  shareHandler := fun object s id handler hheld hd => sound_shareHandler hd object s id hheld
  shutdown := by
    intro cp hd
    have htables : Dispatcher.Sound { cp with
        holdings :=
          { registry := cp.registry.drain.2,
            sessions := cp.sessions.removeSessions cp.sessions.ids } }.dispatcher := hd
    exact (thinned_teardown (thinned_dropAll htables cp.sessions.ids).sound .shutdown
      cp.registry.drain.1).sound
  set := fun _ _ _ hd => hd
  handlers := fun factory held hheld hd => sound_held hd factory hheld

end ControlPlane

end MediaPlane
