import MediaPlane.Proofs.ControlPlane.Custody

/-
  Steps that take away. Most of what happens to a control plane leaves every object as it is or
  takes it out of the registry: sessions come and go, references are dropped, handlers are built and
  subscribe. No element is built, nothing enters the registry and no event is raised; all that the
  journal shows is which elements were released and how many handlers were built (`Wanes`). What is
  to be said of every such step is said of `Wanes` once. Among operations, only creations and
  invocations do more (`wanes_execute`).
-/

namespace MediaPlane

/-! ## Fewer objects -/

namespace Registry

variable {r s t : Registry}

/-- Every object of `s` is one of `r`, as it was there. -/
def Fewer (r s : Registry) : Prop := ∀ x o, s.find? x = some o → r.find? x = some o

theorem Fewer.refl (r : Registry) : Fewer r r := fun _ _ ho => ho

theorem Fewer.trans (h : Fewer r s) (h' : Fewer s t) : Fewer r t :=
  fun x o ho => h x o (h' x o ho)

theorem fewer_unlinkAll (r : Registry) (ids : List ObjectId) : Fewer r (r.unlinkAll ids).2 := by
  intro x o ho
  rw [find?_unlinkAll] at ho
  split at ho
  · cases ho
  · exact ho

theorem fewer_remove (r : Registry) (id : ObjectId) : Fewer r (r.remove id).2 := by
  unfold remove
  split
  · exact fewer_unlinkAll r _
  · exact Fewer.refl r

theorem fewer_removeAll (r : Registry) (ids : List ObjectId) : Fewer r (r.removeAll ids).2 := by
  induction ids generalizing r with
  | nil => exact Fewer.refl r
  | cons id ids ih => exact (fewer_remove r id).trans (ih (r.remove id).2)

end Registry

namespace Holdings

open Registry (Fewer)

variable {h next : Holdings} {s : SessionId}

theorem fewer_collectInOrder (h : Holdings) (ids : List ObjectId) :
    Fewer h.registry (h.collectInOrder ids).2.registry := by
  induction ids generalizing h with
  | nil => exact Fewer.refl h.registry
  | cons id ids ih =>
    unfold collectInOrder
    split
    · exact (Registry.fewer_remove h.registry id).trans (ih (h.remove id).2)
    · exact ih h

theorem fewer_destroyOwned (h : Holdings) (ids : List ObjectId) :
    Fewer h.registry (h.destroyOwned ids).2.2.registry := by
  induction ids generalizing h with
  | nil => exact Fewer.refl h.registry
  | cons id ids ih =>
    unfold destroyOwned
    split
    · exact (Registry.fewer_remove h.registry id).trans (ih (h.remove id).2)
    · exact ih h

theorem fewer_close {kind : CloseKind} {closure : Closure}
    (hc : h.close s kind = .ok (some (closure, next))) : Fewer h.registry next.registry := by
  obtain ⟨refs, t, -, -, -, rfl⟩ := close_ok hc
  have hdestroyed := fewer_destroyOwned { h with sessions := t }
    (destroyable kind h.registry refs)
  exact hdestroyed.trans (fewer_collectInOrder _ _)

end Holdings

namespace ControlPlane

variable {cp mid next : ControlPlane} {s : SessionId}

/-! ## Steps that take away -/

/-- Objects may go, those that stay are as they were, and no more is noted than that elements were
released and handlers built. -/
structure Wanes (cp next : ControlPlane) : Prop where
  fewer : Registry.Fewer cp.registry next.registry
  journal_eq : ∃ built released, next.journal = { cp.journal with built, released }

theorem Wanes.trans (h : Wanes cp mid) (h' : Wanes mid next) : Wanes cp next where
  fewer := h.fewer.trans h'.fewer
  journal_eq := by
    obtain ⟨built, released, hmid⟩ := h.journal_eq
    obtain ⟨built', released', hnext⟩ := h'.journal_eq
    exact ⟨built', released', by rw [hnext, hmid]⟩

theorem wanes_of_fewer {ids : List ObjectId} (hj : next.journal = cp.journal.afterRelease ids)
    (hr : Registry.Fewer cp.registry next.registry) : Wanes cp next :=
  ⟨hr, _, _, hj⟩

theorem wanes_of_eq (hj : next.journal = cp.journal) (hr : next.registry = cp.registry) :
    Wanes cp next :=
  ⟨hr ▸ Registry.Fewer.refl cp.registry, _, _, hj⟩

theorem Wanes.refl (cp : ControlPlane) : Wanes cp cp := wanes_of_eq rfl rfl

theorem wanes_enter (cp : ControlPlane) (s : SessionId) : Wanes cp (cp.enter s) := by
  obtain ⟨metrics, heq⟩ := enter_eq cp s
  rw [heq]
  exact wanes_of_eq rfl rfl

theorem wanes_connect (cp : ControlPlane) (s : SessionId) : Wanes cp (cp.connect s) := by
  obtain ⟨metrics, heq⟩ := connect_eq cp s
  rw [heq]
  exact wanes_of_eq rfl rfl

theorem wanes_keepAlive (h : cp.keepAlive s = .ok next) : Wanes cp next := by
  rw [keepAlive_ok h]
  exact wanes_of_eq rfl rfl

theorem wanes_touch {x : ObjectId} {o : MediaObject} (h : cp.touch s x = .ok (o, next)) :
    Wanes cp next := by
  obtain ⟨-, rfl⟩ := touch_ok h
  exact wanes_of_eq rfl rfl

theorem wanes_closedBy {kind : CloseKind} {closure : Closure} {holdings : Holdings}
    (h : cp.holdings.close s kind = .ok (some (closure, holdings))) :
    Wanes cp (cp.closedBy s closure holdings) := by
  refine wanes_of_fewer (journal_closedBy cp s closure holdings) ?_
  rw [registry, registry, holdings_closedBy]
  exact Holdings.fewer_close h

theorem wanes_closeSession {forced : Bool} {n : Nat}
    (h : cp.closeSession s forced = .ok (n, next)) : Wanes cp next := by
  obtain ⟨closure, holdings, hc, -, rfl⟩ := closeSession_ok h
  exact (wanes_closedBy hc).trans (wanes_of_eq rfl rfl)

theorem wanes_dropReferences (cp : ControlPlane) (s : SessionId) (ids : List ObjectId)
    (reason : RemovalReason) : Wanes cp (cp.dropReferences s ids reason) := by
  refine wanes_of_fewer (journal_teardown _ reason _) ?_
  rw [registry, registry, holdings_dropReferences]
  exact Holdings.fewer_collectInOrder (cp.holdings.dropped s ids) _

theorem wanes_subscribeUnder (cp : ControlPlane) (s : SessionId) (key : HandlerKey)
    (receiver : Receiver) : Wanes cp (cp.subscribeUnder s key receiver).2 :=
  wanes_of_eq (journal_subscribeUnder cp s key receiver)
    (congrArg Holdings.registry (holdings_subscribeUnder cp s key receiver))

theorem wanes_noteBuilt (cp : ControlPlane) (receiver : Receiver) :
    Wanes cp (cp.noteBuilt receiver) := by
  cases receiver with
  | named => exact ⟨Registry.Fewer.refl cp.registry, _, _, rfl⟩
  | silent => exact Wanes.refl cp

/-! ## Operations that take away -/

theorem wanes_subscribeWith (cp : ControlPlane) (s : SessionId) (object : ObjectId)
    (eventType : String) {build : HandlerFactory → ControlPlane →
      Except Failure Receiver × ControlPlane}
    (hb : ∀ f cp', Wanes cp' (build f cp').2) :
    Wanes cp (cp.subscribeWith s object eventType build).2 :=
  related_subscribeWith (Wanes.refl cp) Wanes.trans wanes_touch
    (fun mid key receiver => wanes_subscribeUnder mid s key receiver) fun f mid _ => hb f mid

/-- A plan builds handlers and no objects, whatever it calls back into. -/
theorem wanes_buildHandler (plan : BuildPlan) (cp : ControlPlane) :
    Wanes cp (buildHandler plan cp).2 := by
  induction plan generalizing cp with
  | done receiver => exact wanes_noteBuilt cp receiver
  | refuse reason => exact Wanes.refl cp
  | lookFirst rest ih => exact ih _ cp
  | subscribeFirst u object eventType inner rest ih ih' =>
    have hasked : Wanes (cp.enter u) ((cp.enter u).subscribeWith u object eventType
        fun _ => buildHandler inner).2 :=
      wanes_subscribeWith (cp.enter u) u object eventType fun _ cp' => ih cp'
    unfold buildHandler
    refine Wanes.trans ?_ (ih' _ _)
    exact ((wanes_enter cp u).trans hasked).trans (wanes_of_eq rfl rfl)
  | closeFirst u forced rest ih =>
    unfold buildHandler
    split
    · exact ih _ cp
    · next hc => exact (wanes_closeSession hc).trans (ih _ _)

theorem wanes_subscribe (cp : ControlPlane) (s : SessionId) (object : ObjectId)
    (eventType : String) (params : Value) :
    Wanes cp (cp.subscribe s object eventType params).2 :=
  wanes_subscribeWith cp s object eventType
    fun _ cp' => wanes_buildHandler _ cp'

theorem wanes_unsubscribe (cp : ControlPlane) (s : SessionId) (object : ObjectId)
    (id : SubscriptionId) : Wanes cp (cp.unsubscribe s object id).2 := by
  unfold unsubscribe
  split
  · exact Wanes.refl cp
  · next o mid ht =>
    have hmid : Wanes cp mid := wanes_touch ht
    split
    · exact hmid
    · exact hmid.trans (wanes_of_eq rfl rfl)

theorem wanes_settle (result : Value) {r : Except Failure ControlPlane}
    (h : ∀ next, r = .ok next → Wanes cp next) : Wanes cp (cp.settle result r).2 := by
  cases r with
  | error e => exact Wanes.refl cp
  | ok next => exact h next rfl

theorem wanes_claim {x : ObjectId} (h : cp.claim s x = .ok next) : Wanes cp next := by
  unfold claim at h
  split at h
  · cases h
    exact wanes_of_eq rfl rfl
  · cases h

theorem wanes_unref {x : ObjectId} (h : cp.unref s x = .ok next) : Wanes cp next := by
  unfold unref at h
  split at h
  · cases h
    exact wanes_dropReferences cp s _ _
  · cases h

theorem wanes_release {x : ObjectId} (h : cp.release s x = .ok next) : Wanes cp next := by
  unfold release at h
  split at h
  · cases h
    exact wanes_dropReferences cp s _ _
  · cases h

/-- Only creations and invocations do more than take away. -/
theorem wanes_execute (cp : ControlPlane) (s : SessionId) {op : Operation}
    (hc : op.method ≠ .create) (hi : op.method ≠ .invoke) : Wanes cp (cp.execute s op).2 := by
  cases op with
  | create => exact absurd rfl hc
  | invoke => exact absurd rfl hi
  | ref object => exact wanes_settle _ fun next h => wanes_claim h
  | unref object => exact wanes_settle _ fun next h => wanes_unref h
  | release object => exact wanes_settle _ fun next h => wanes_release h
  | describe object =>
    unfold execute
    simp only
    split
    · exact Wanes.refl cp
    · next heq => exact wanes_touch heq
  | subscribe object eventType params => exact wanes_subscribe cp s object eventType params
  | unsubscribe object subscription => exact wanes_unsubscribe cp s object subscription
  | transaction | closeSession | keepAlive | connect | ping => exact Wanes.refl cp

/-! ## Stages of a call -/

theorem wanes_respond (cp : ControlPlane) (caller : Caller) (result : Except Failure Value) :
    Wanes cp (cp.respond caller result).2 := by
  obtain ⟨metrics, cache, heq⟩ := respond_snd cp caller result
  rw [heq]
  exact wanes_of_eq rfl rfl

theorem wanes_cancel (cp : ControlPlane) (p : Pending) : Wanes cp (cp.cancel p) := by
  rcases cp.cancel_cases p with heq | ⟨s, cache, heq⟩ <;> rw [heq]
  · exact Wanes.refl cp
  · exact wanes_of_eq rfl rfl

end ControlPlane

end MediaPlane
