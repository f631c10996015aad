import MediaPlane.Proofs.ControlPlane.Stage

/-
  Properties of the control plane that nothing takes away. Such a property is kept by each change,
  by the beginning and the end of a construction that takes time, and by the few things that only
  commands do (`Lasting`). Then it is kept by every stage of every call and by every sweep. So an
  invariant only has to be proved of the small steps.
-/

namespace MediaPlane

namespace ControlPlane

/-- A property that nothing takes away. -/
structure Lasting (Q : ControlPlane → Prop) : Prop where
  change : ∀ {cp next s P}, Change s P cp next → Q cp → Q next
  begins : ∀ {cp next c}, cp.Begins c next → Q cp → Q next
  register : ∀ {cp} s c, Q cp → Q (cp.register s c).2
  expire : ∀ {cp next s}, cp.expire? s = some next → Q cp → Q next
  shareHandler : ∀ {cp} object s id handler, handler ∈ cp.dispatcher.held → Q cp →
    Q (cp.shareHandler object s id handler).2
  shutdown : ∀ {cp}, Q cp → Q cp.shutdown
  /-- It does not depend on time, on what admission looks at or on the retry cache. -/
  set : ∀ {cp} now admission cache, Q cp → Q { cp with now, admission, cache }
  /-- Nor on the factory and on who holds handlers, as long as these are held already or live. -/
  handlers : ∀ {cp} factory held,
    (∀ h ∈ held, h ∈ cp.dispatcher.held ∨ ∃ key, cp.dispatcher.liveHandler? key = some h) →
    Q cp → Q { cp with dispatcher := { cp.dispatcher with factory, held } }

namespace Lasting

variable {Q : ControlPlane → Prop} {cp next : ControlPlane} {s : SessionId} {P : Leeway}

theorem metrics (hQ : Lasting Q) (hq : Q cp) (metrics : Metrics) : Q { cp with metrics } :=
  hQ.change (Change.metrics (s := default) (P := Leeway.full) metrics) hq

theorem mock (hQ : Lasting Q) (hq : Q cp) (mock : MockEngine) : Q { cp with mock } :=
  hQ.change (Change.mock (s := default) (P := Leeway.full) mock) hq

theorem cache (hQ : Lasting Q) (hq : Q cp) (cache : RetryCache) : Q { cp with cache } :=
  hQ.set cp.now cp.admission cache hq

theorem raise (hQ : Lasting Q) (hq : Q cp) (e : Event) : Q (cp.raise e).2 :=
  hQ.change (Change.raise (s := default) (P := Leeway.full) e) hq

/-! ## Stages of a call -/

theorem changes (hQ : Lasting Q) (h : Changes s P cp next) (hq : Q cp) : Q next := by
  induction h with
  | refl => exact hq
  | tail _ hc ih | aside _ _ hc ih => exact hQ.change hc ih

theorem stretch (hQ : Lasting Q) {w : Option Wait} (h : Stretch s P cp w next) (hq : Q cp) :
    Q next := by
  cases h with
  | settled hc | answer hc => exact hQ.changes hc hq
  | construction hc hb => exact hQ.begins hb (hQ.changes hc hq)

theorem advances (hQ : Lasting Q) {caller : Caller} {r : Progress × ControlPlane}
    (h : cp.Advances caller P r) (hq : Q cp) : Q r.2 := by
  obtain ⟨w, mid, hst, hc⟩ := h
  obtain ⟨metrics, cache, heq⟩ := hc.snd_eq
  have hmid : Q { mid with metrics } := hQ.metrics (hQ.stretch hst hq) metrics
  rw [heq]
  exact hQ.cache hmid cache

theorem start (hQ : Lasting Q) (hq : Q cp) (r : Request) (guard : Option Guard) :
    Q (cp.start r guard).2 :=
  hQ.advances (advances_start cp r guard) hq

theorem begin (hQ : Lasting Q) (hq : Q cp) (r : Request) : Q (cp.begin r).2 := by
  have hreplay : Q { cp with metrics := cp.metrics.countReplay } := hQ.metrics hq _
  unfold ControlPlane.begin
  split
  · simp only
    split
    · exact hQ.start (hQ.cache hq _) r _
    · exact hreplay
    · exact hreplay
  · exact hQ.start hq r none

theorem finishWait (hQ : Lasting Q) (hq : Q cp) (s : SessionId) (w : Wait) :
    Q (cp.finishWait s w).2 := by
  cases w with
  | construction c ready => exact hQ.register s c hq
  | answer value ready => exact hq

theorem resume? (hQ : Lasting Q) (hq : Q cp) {tick : Nat} {p : Pending}
    {r : Progress × ControlPlane} (h : cp.resume? tick p = some r) : Q r.2 := by
  cases p with
  | duplicate key ticket =>
    obtain ⟨response, -, rfl⟩ := Option.map_eq_some_iff.mp h
    exact hq
  | running caller wait batch =>
    have ha := resume?_advances cp.dispatcher.within_full h
    exact hQ.advances ha (hQ.finishWait hq caller.session wait)

theorem cancel (hQ : Lasting Q) (hq : Q cp) (p : Pending) : Q (cp.cancel p) := by
  rcases cp.cancel_cases p with heq | ⟨s, cache, heq⟩ <;> rw [heq]
  · exact hq
  · exact hQ.cache (hQ.change (.leave (s := s) (P := Leeway.full)) hq) cache

/-! ## Sweeps -/

theorem expireAll (hQ : Lasting Q) (hq : Q cp) (ss : List SessionId) : Q (cp.expireAll ss).2 := by
  induction ss generalizing cp with
  | nil => exact hq
  | cons s ss ih =>
    unfold ControlPlane.expireAll
    split
    · exact ih hq
    · next heq => exact ih (hQ.expire heq hq)

theorem sweep (hQ : Lasting Q) (hq : Q cp) : Q cp.sweep.2 := by
  rcases cp.sweep_cases with heq | heq <;> rw [heq]
  · exact hq
  · exact hQ.metrics (hQ.metrics (hQ.expireAll hq _) _) _

end Lasting

variable {cp next : ControlPlane} {s : SessionId}

/-! ## Commands are steady -/

theorem steady_expire? (h : cp.expire? s = some next) : Steady cp next := by
  unfold expire? at h
  split at h
  · next closure holdings _ =>
    cases h
    exact ((steady_holdings cp holdings).trans (steady_dropSubscriptions _ s)).trans
      (steady_teardown _ .unreferenced closure.collected)
  · cases h

theorem steady_expireAll (cp : ControlPlane) (ss : List SessionId) :
    Steady cp (cp.expireAll ss).2 := by
  induction ss generalizing cp with
  | nil => exact Steady.refl cp
  | cons s ss ih =>
    unfold expireAll
    split
    · exact ih cp
    · next heq => exact (steady_expire? heq).trans (ih _)

theorem steady_sweep (cp : ControlPlane) : Steady cp cp.sweep.2 := by
  rcases cp.sweep_cases with heq | heq <;> rw [heq]
  · exact Steady.refl cp
  · exact { steady_expireAll cp _ with }

theorem steady_shareHandler (cp : ControlPlane) (object : ObjectId) (s : SessionId)
    (id : SubscriptionId) (handler : Handler) :
    Steady cp (cp.shareHandler object s id handler).2 := by
  have hshares := shares cp object s id handler
  generalize (cp.shareHandler object s id handler).2 = next at hshares ⊢
  cases hshares with
  | missed => exact Steady.refl cp
  | touched => exact steady_holdings cp _
  | shared _ hd => exact { Steady.refl cp with factory_eq := Dispatcher.factory_share hd }

theorem steady_dropAll (cp : ControlPlane) (ss : List SessionId) :
    Steady cp (ss.foldl dropSubscriptions cp) := by
  induction ss generalizing cp with
  | nil => exact Steady.refl cp
  | cons s ss ih => exact (steady_dropSubscriptions cp s).trans (ih (cp.dropSubscriptions s))

theorem steady_shutdown (cp : ControlPlane) : Steady cp cp.shutdown := by
  have h := ((steady_holdings cp
    { registry := cp.registry.drain.2,
      sessions := cp.sessions.removeSessions cp.sessions.ids }).trans
    (steady_dropAll _ cp.sessions.ids)).trans (steady_teardown _ .shutdown cp.registry.drain.1)
  exact { h with }

end ControlPlane

end MediaPlane
