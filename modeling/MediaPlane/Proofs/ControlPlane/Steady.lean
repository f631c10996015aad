import MediaPlane.ControlPlane.Call

/-
  What no request changes: the time, the retry cache, the installed factory and the settings; and
  names are only ever drawn. Each step that operations are made of is steady in this sense.
-/

namespace MediaPlane

namespace Dispatcher

/-! ## The factory stays -/

theorem factory_pruneKey (d : Dispatcher) (key : HandlerKey) :
    (d.pruneKey key).factory = d.factory := by
  unfold pruneKey
  split
  · rfl
  · split <;> rfl

theorem factory_prune (d : Dispatcher) (keys : List HandlerKey) :
    (d.prune keys).factory = d.factory := by
  induction keys generalizing d with
  | nil => rfl
  | cons k ks ih => exact (ih (d.pruneKey k)).trans (factory_pruneKey d k)

theorem factory_removeWhere (d : Dispatcher) (p : Subscription → Bool) :
    (d.removeWhere p).2.factory = d.factory := factory_prune _ _

theorem factory_add (d : Dispatcher) (s : Subscription) : (d.add s).factory = d.factory := by
  unfold add
  split <;> rfl

theorem factory_attach (d : Dispatcher) (id : SubscriptionId) (session : SessionId)
    (key : HandlerKey) (receiver : Receiver) :
    (d.attach id session key receiver).factory = d.factory := by
  unfold attach
  split <;> exact factory_add _ _

theorem factory_share {d next : Dispatcher} {object : ObjectId} {session : SessionId}
    {id : SubscriptionId} {handler : Handler} (h : d.share object session id handler = .ok next) :
    next.factory = d.factory := by
  unfold share at h
  split at h
  · cases h
  · split at h
    · cases h
    · cases h
      exact factory_add d _

theorem factory_unsubscribe {d next : Dispatcher} {object : ObjectId} {session : SessionId}
    {id : SubscriptionId} (h : d.unsubscribe object session id = .ok next) :
    next.factory = d.factory := by
  unfold unsubscribe at h
  split at h
  · cases h
  · split at h
    · cases h
      exact factory_removeWhere d _
    · cases h

end Dispatcher

namespace ControlPlane

/-! ## What no request changes -/

/-- Time, retry cache, factory and settings are as before, and names are drawn from one source. -/
structure Steady (cp next : ControlPlane) : Prop where
  now_eq : next.now = cp.now
  cache_eq : next.cache = cp.cache
  factory_eq : next.dispatcher.factory = cp.dispatcher.factory
  admission_eq : next.admission = cp.admission
  sessionTtl_eq : next.sessionTtl = cp.sessionTtl
  catalog_eq : next.catalog = cp.catalog
  name_eq : next.names.name = cp.names.name
  drawn_le : cp.names.drawn ≤ next.names.drawn

variable {cp mid next : ControlPlane}

theorem Steady.refl (cp : ControlPlane) : Steady cp cp :=
  ⟨rfl, rfl, rfl, rfl, rfl, rfl, rfl, Nat.le_refl _⟩

theorem Steady.trans (h : Steady cp mid) (h' : Steady mid next) : Steady cp next where
  now_eq := h'.now_eq.trans h.now_eq
  cache_eq := h'.cache_eq.trans h.cache_eq
  factory_eq := h'.factory_eq.trans h.factory_eq
  admission_eq := h'.admission_eq.trans h.admission_eq
  sessionTtl_eq := h'.sessionTtl_eq.trans h.sessionTtl_eq
  catalog_eq := h'.catalog_eq.trans h.catalog_eq
  name_eq := h'.name_eq.trans h.name_eq
  drawn_le := Nat.le_trans h.drawn_le h'.drawn_le

/-! ## What a session's requests do to it -/

theorem enter_eq (cp : ControlPlane) (s : SessionId) :
    ∃ metrics, cp.enter s =
      { cp.withSessions (cp.sessions.enter s cp.now).2 with metrics } := by
  unfold enter
  simp only
  split <;> exact ⟨_, rfl⟩

theorem connect_eq (cp : ControlPlane) (s : SessionId) :
    ∃ metrics, cp.connect s =
      { cp.withSessions ((cp.sessions.ensure s cp.now).2.recordActivity s cp.now) with
        metrics } := by
  unfold connect
  simp only
  split <;> exact ⟨_, rfl⟩

theorem keepAlive_ok {s : SessionId} (h : cp.keepAlive s = .ok next) :
    next = cp.withSessions (cp.sessions.recordActivity s cp.now) := by
  unfold keepAlive at h
  split at h
  · cases h
    rfl
  · cases h

/-- A call that is given up leaves its session, and nothing else of it stays but in the cache. -/
theorem cancel_cases (cp : ControlPlane) (p : Pending) :
    cp.cancel p = cp ∨ ∃ s cache, cp.cancel p = { cp.leave s with cache } := by
  cases p with
  | duplicate key ticket => exact Or.inl rfl
  | running caller wait batch =>
    refine Or.inr ⟨caller.session, ?_⟩
    unfold cancel
    simp only
    split <;> exact ⟨_, rfl⟩

/-- Where nothing is idle, nothing changes. -/
theorem expireAll_of_none (ss : List SessionId) (h : (cp.expireAll ss).1 = 0) :
    (cp.expireAll ss).2 = cp := by
  induction ss with
  | nil => rfl
  | cons s ss ih =>
    unfold expireAll at h ⊢
    cases he : cp.expire? s with
    | none =>
      rw [he] at h
      exact ih h
    | some next =>
      rw [he] at h
      cases h

/-- A sweep that closes nothing changes nothing, and any other one sets the gauges. -/
theorem sweep_cases (cp : ControlPlane) :
    cp.sweep.2 = cp ∨
      cp.sweep.2 = (cp.expireAll
        (cp.sessions.idle cp.now cp.sessionTtl)).2.gaugeSessions.gaugeSubscriptions := by
  unfold sweep
  simp only
  split
  · next hnone => exact Or.inl (expireAll_of_none _ hnone)
  · exact Or.inr rfl

/-! ## The steps that operations are made of -/

theorem steady_drawName (cp : ControlPlane) : Steady cp cp.drawName.2 :=
  ⟨rfl, rfl, rfl, rfl, rfl, rfl, rfl, Nat.le_succ _⟩

theorem steady_dismantle (cp : ControlPlane) (o : MediaObject) : Steady cp (cp.dismantle o) :=
  ⟨rfl, rfl, Dispatcher.factory_removeWhere _ _, rfl, rfl, rfl, rfl, Nat.le_refl _⟩

theorem steady_dismantleAll (cp : ControlPlane) (removed : List MediaObject) :
    Steady cp (removed.foldl dismantle cp) := by
  induction removed generalizing cp with
  | nil => exact Steady.refl cp
  | cons o os ih => exact (steady_dismantle cp o).trans (ih (cp.dismantle o))

theorem steady_teardown (cp : ControlPlane) (reason : RemovalReason)
    (removed : List MediaObject) : Steady cp (cp.teardown reason removed) := by
  unfold teardown
  split
  · exact Steady.refl cp
  · have h := steady_dismantleAll cp removed
    exact ⟨h.now_eq, h.cache_eq, h.factory_eq, h.admission_eq, h.sessionTtl_eq, h.catalog_eq,
      h.name_eq, h.drawn_le⟩

theorem steady_holdings (cp : ControlPlane) (holdings : Holdings) :
    Steady cp { cp with holdings } :=
  ⟨rfl, rfl, rfl, rfl, rfl, rfl, rfl, Nat.le_refl _⟩

theorem steady_dropSubscriptions (cp : ControlPlane) (s : SessionId) :
    Steady cp (cp.dropSubscriptions s) :=
  ⟨rfl, rfl, Dispatcher.factory_removeWhere _ _, rfl, rfl, rfl, rfl, Nat.le_refl _⟩

theorem steady_dropReferences (cp : ControlPlane) (s : SessionId) (ids : List ObjectId)
    (reason : RemovalReason) : Steady cp (cp.dropReferences s ids reason) :=
  (steady_holdings cp _).trans (steady_teardown _ _ _)

theorem steady_closeSession {u : SessionId} {forced : Bool} {n : Nat}
    (h : cp.closeSession u forced = .ok (n, next)) : Steady cp next := by
  unfold closeSession at h
  split at h
  · cases h
  · cases h
    exact ((((steady_holdings cp _).trans (steady_dropSubscriptions _ u)).trans
      (steady_teardown _ _ _)).trans (steady_teardown _ _ _)).trans
      ⟨rfl, rfl, rfl, rfl, rfl, rfl, rfl, Nat.le_refl _⟩

theorem steady_register (cp : ControlPlane) (s : SessionId) (c : Construction) :
    Steady cp (cp.register s c).2 := by
  unfold register
  split <;> exact ⟨rfl, rfl, rfl, rfl, rfl, rfl, rfl, Nat.le_refl _⟩

theorem steady_ensureLive (cp : ControlPlane) (x : ObjectId) : Steady cp (cp.ensureLive x).2 := by
  unfold ensureLive
  split
  · exact Steady.refl cp
  · exact ⟨rfl, rfl, Dispatcher.factory_removeWhere _ _, rfl, rfl, rfl, rfl, Nat.le_refl _⟩

/-- Building an element leaves its mark on the mock engine and in the journal, and nowhere else. -/
theorem construct_ok {entry : CatalogEntry} {id : ObjectId} {params : Value} {element : Element}
    (h : cp.construct entry id params = .ok (element, next)) :
    ∃ mock, next = { cp with
      mock, journal := { cp.journal with constructed := cp.journal.constructed ++ [id] } } := by
  unfold construct at h
  simp only at h
  split at h
  · split at h
    · cases h
    · cases h
      exact ⟨_, rfl⟩
  · split at h
    · cases h
    · cases h
      exact ⟨_, rfl⟩

/-- What a subscription adds before it looks whether its object is still there. -/
def attached (cp : ControlPlane) (session : SessionId) (key : HandlerKey) (receiver : Receiver) :
    ControlPlane :=
  { cp.drawName.2 with
    dispatcher := cp.drawName.2.dispatcher.attach ⟨cp.drawName.1⟩ session key receiver }

theorem steady_attached (cp : ControlPlane) (s : SessionId) (key : HandlerKey)
    (receiver : Receiver) : Steady cp (cp.attached s key receiver) :=
  (steady_drawName cp).trans
    ⟨rfl, rfl, Dispatcher.factory_attach _ _ _ _ _, rfl, rfl, rfl, rfl, Nat.le_refl _⟩

theorem ensureLive_of_live (cp : ControlPlane) {x : ObjectId} (h : cp.registry.contains x = true) :
    cp.ensureLive x = (.ok (), cp) := if_pos h

/-- What a new subscription leaves: nothing of it if its object has gone, and else a gauge that is
up to date. -/
def confirmed (cp : ControlPlane) (x : ObjectId) : ControlPlane :=
  match cp.ensureLive x with
  | (.error _, next) => next
  | (.ok (), next) => next.gaugeSubscriptions

theorem confirmed_of_error {x : ObjectId} {e : Failure}
    (h : cp.ensureLive x = (.error e, next)) : cp.confirmed x = next := by
  unfold confirmed
  rw [h]

theorem confirmed_of_ok {x : ObjectId} (h : cp.ensureLive x = (.ok (), next)) :
    cp.confirmed x = next.gaugeSubscriptions := by
  unfold confirmed
  rw [h]

theorem confirmed_of_live {x : ObjectId} (h : cp.registry.contains x = true) :
    cp.confirmed x = cp.gaugeSubscriptions := confirmed_of_ok (cp.ensureLive_of_live h)

theorem confirmed_cases (cp : ControlPlane) (x : ObjectId) :
    cp.confirmed x = (cp.ensureLive x).2 ∨
      cp.confirmed x = (cp.ensureLive x).2.gaugeSubscriptions := by
  rcases h : cp.ensureLive x with ⟨e | _, next⟩
  · exact Or.inl (confirmed_of_error h)
  · exact Or.inr (confirmed_of_ok h)

theorem subscribeUnder_snd (cp : ControlPlane) (s : SessionId) (key : HandlerKey)
    (receiver : Receiver) :
    (cp.subscribeUnder s key receiver).2 = (cp.attached s key receiver).confirmed key.object := by
  show (match (cp.attached s key receiver).ensureLive key.object with
    | (.error e, next) => (.error e, next)
    | (.ok (), next) =>
      (.ok (valueResult (.str cp.drawName.1)), next.gaugeSubscriptions) :
      Except Failure Value × ControlPlane).2 = _
  unfold confirmed
  rcases (cp.attached s key receiver).ensureLive key.object with ⟨e | _, next⟩ <;> rfl

theorem steady_confirmed (cp : ControlPlane) (x : ObjectId) : Steady cp (cp.confirmed x) := by
  have h := steady_ensureLive cp x
  rcases confirmed_cases cp x with heq | heq <;> rw [heq]
  · exact h
  · exact h.trans ⟨rfl, rfl, rfl, rfl, rfl, rfl, rfl, Nat.le_refl _⟩

theorem steady_subscribeUnder (cp : ControlPlane) (s : SessionId) (key : HandlerKey)
    (receiver : Receiver) : Steady cp (cp.subscribeUnder s key receiver).2 := by
  rw [subscribeUnder_snd]
  exact (steady_attached cp s key receiver).trans (steady_confirmed _ _)

end ControlPlane

end MediaPlane
