import MediaPlane.Proofs.ControlPlane.Handling
import MediaPlane.Proofs.ControlPlane.Sparing
import MediaPlane.Proofs.Session.Activity

/-
  Idle sessions closed one after the other. Each close collects what nobody holds at that moment, so
  what a single close takes out depends on who went before. `Expires` says what several of them come
  to together: the sessions are gone, the holdings are settled, and objects went, each with its
  subscriptions and its element. Settled holdings leave no choice which objects these are, and the
  subscriptions that are left determine the handlers. So the order of the sessions does not matter,
  but for the order in which elements were released (`Expires.sameOutcome`).
-/

namespace MediaPlane

/-! ## What is counted -/

def Element.isMock : Element → Bool
  | mock => true
  | loopback .. => false

/-- The mock engine once the elements of these objects were released. -/
def MockEngine.afterRelease (m : MockEngine) (gone : List MediaObject) : MockEngine :=
  { m with releases := m.releases + gone.countP (·.element.isMock) }

theorem MockEngine.afterRelease_append (m : MockEngine) (gone more : List MediaObject) :
    (m.afterRelease gone).afterRelease more = m.afterRelease (gone ++ more) := by
  unfold afterRelease
  rw [List.countP_append, ← Nat.add_assoc]

/-- The counters once `n` objects were taken out and `left` are left. -/
def Metrics.afterRemoval (m : Metrics) (reason : RemovalReason) (n left : Nat) : Metrics :=
  { m.countCollected reason n with objectsActive := if n = 0 then m.objectsActive else some left }

theorem Metrics.afterRemoval_zero (m : Metrics) (reason : RemovalReason) (left : Nat) :
    m.afterRemoval reason 0 left = m := by
  have hsame : (fun r => if r = reason then m.collected r + 0 else m.collected r) = m.collected :=
    funext fun r => ite_self _
  show { m with collected := fun r => if r = reason then m.collected r + 0 else m.collected r } = m
  rw [hsame]

/-- Where nothing more is taken out, as many are left as before. -/
theorem Metrics.afterRemoval_add (m : Metrics) (reason : RemovalReason) {n k left left' : Nat}
    (h : k = 0 → left' = left) :
    (m.afterRemoval reason n left).afterRemoval reason k left' =
      m.afterRemoval reason (n + k) left' := by
  have hcount : (fun r => if r = reason then
      (if r = reason then m.collected r + n else m.collected r) + k
        else if r = reason then m.collected r + n else m.collected r) =
      fun r => if r = reason then m.collected r + (n + k) else m.collected r := by
    funext r
    split
    · exact Nat.add_assoc _ n k
    · rfl
  have hgauge : (if k = 0 then if n = 0 then m.objectsActive else some left else some left') =
      if n + k = 0 then m.objectsActive else some left' := by
    by_cases hk : k = 0
    · rw [if_pos hk, hk, Nat.add_zero, h hk]
    · rw [if_neg hk, if_neg fun hsum => hk (Nat.add_eq_zero_iff.mp hsum).2]
  unfold afterRemoval countCollected
  simp only
  rw [hcount, hgauge]

namespace SessionTable

variable {t : SessionTable} {s : SessionId} {now ttl : Nat}

theorem mem_idle : s ∈ t.idle now ttl ↔ ∃ e, t.find? s = some e ∧ e.isIdle now ttl = true := by
  unfold idle
  simp [find?]

theorem nodup_idle (t : SessionTable) (now ttl : Nat) : (t.idle now ttl).Nodup := by
  have hkeys : (t.sessions.toList.map (·.1)).Nodup := by
    rw [Std.ExtTreeMap.map_fst_toList_eq_keys]
    exact Std.ExtTreeMap.nodup_keys
  exact hkeys.sublist (List.filter_sublist.map _)

end SessionTable

theorem Session.isIdle_iff {e : Session} {now ttl : Nat} :
    e.isIdle now ttl = true ↔ e.inFlight = 0 ∧ e.lastActivity + ttl < now := by
  unfold isIdle
  rw [Bool.and_eq_true, decide_eq_true_iff, decide_eq_true_iff, Nat.lt_sub_iff_add_lt, Nat.add_comm]

namespace ControlPlane

open Registry (Cut)
open Dispatcher (Thinned)

variable {cp mid next last : ControlPlane} {s : SessionId} {ss ts : List SessionId}
  {gone more : List MediaObject}

/-! ## What a teardown leaves behind -/

theorem dismantle_eq (cp : ControlPlane) (o : MediaObject) :
    ∃ dispatcher, cp.dismantle o =
      { cp with
        dispatcher
        mock := cp.mock.afterRelease [o]
        journal := cp.journal.afterRelease [o.id] } := by
  obtain ⟨id, type, parent, element, createdAt, name, tags⟩ := o
  cases element <;> exact ⟨_, rfl⟩

theorem dismantleAll_eq (cp : ControlPlane) (gone : List MediaObject) :
    ∃ dispatcher, gone.foldl dismantle cp =
      { cp with
        dispatcher
        mock := cp.mock.afterRelease gone
        journal := cp.journal.afterRelease (gone.map (·.id)) } := by
  induction gone generalizing cp with
  | nil =>
    refine ⟨cp.dispatcher, ?_⟩
    unfold Journal.afterRelease
    rw [List.map_nil, List.append_nil]
    rfl
  | cons o gone ih =>
    obtain ⟨d, hone⟩ := dismantle_eq cp o
    obtain ⟨dispatcher, hrest⟩ := ih (cp.dismantle o)
    refine ⟨dispatcher, ?_⟩
    rw [List.foldl_cons, hrest, hone]
    simp only [MockEngine.afterRelease_append, Journal.afterRelease_append, List.singleton_append,
      List.map_cons]

/-- Apart from the dispatcher, a teardown counts, and releases elements. -/
theorem teardown_eq (cp : ControlPlane) (reason : RemovalReason) (gone : List MediaObject) :
    ∃ dispatcher gauge, cp.teardown reason gone =
      { cp with
        dispatcher
        mock := cp.mock.afterRelease gone
        metrics :=
          { cp.metrics.afterRemoval reason gone.length cp.registry.size with
            subscriptionsActive := gauge }
        journal := cp.journal.afterRelease (gone.map (·.id)) } := by
  obtain ⟨dispatcher, hall⟩ := dismantleAll_eq cp gone
  unfold teardown
  split
  · next hempty =>
    cases List.isEmpty_iff.mp hempty
    have hnone : cp = _ := hall
    refine ⟨dispatcher, cp.metrics.subscriptionsActive, ?_⟩
    rw [List.length_nil, Metrics.afterRemoval_zero]
    exact hnone
  · next hfull =>
    have hsome : gone.length ≠ 0 := fun hzero =>
      hfull (List.isEmpty_iff.mpr (List.length_eq_zero_iff.mp hzero))
    refine ⟨dispatcher, some dispatcher.subscriptionCount, ?_⟩
    unfold Metrics.afterRemoval
    rw [if_neg hsome]
    simp only
    rw [hall]
    rfl

/-! ## Sessions expire -/

/-- The state with these tables once objects were collected and their elements released. The gauge
of subscriptions shows whatever it shows. -/
def afterExpiry (cp : ControlPlane) (holdings : Holdings) (dispatcher : Dispatcher)
    (gone : List MediaObject) (gauge : Option Nat) : ControlPlane :=
  { cp with
    holdings
    dispatcher
    mock := cp.mock.afterRelease gone
    metrics :=
      { cp.metrics.afterRemoval .unreferenced gone.length holdings.registry.size with
        subscriptionsActive := gauge }
    journal := cp.journal.afterRelease (gone.map (·.id)) }

theorem afterExpiry_nil (cp : ControlPlane) :
    cp.afterExpiry cp.holdings cp.dispatcher [] cp.metrics.subscriptionsActive = cp := by
  unfold afterExpiry Journal.afterRelease
  rw [List.length_nil, Metrics.afterRemoval_zero, List.map_nil, List.append_nil]
  rfl

theorem afterExpiry_append (cp : ControlPlane) {h h' : Holdings} (d d' : Dispatcher)
    {gone more : List MediaObject} (g g' : Option Nat)
    (hsize : more.length = 0 → h'.registry.size = h.registry.size) :
    (cp.afterExpiry h d gone g).afterExpiry h' d' more g' =
      cp.afterExpiry h' d' (gone ++ more) g' := by
  have hmetrics :
      { { cp.metrics.afterRemoval .unreferenced gone.length h.registry.size with
            subscriptionsActive := g }.afterRemoval .unreferenced more.length h'.registry.size with
          subscriptionsActive := g' } =
        { cp.metrics.afterRemoval .unreferenced (gone.length + more.length) h'.registry.size with
          subscriptionsActive := g' } :=
    congrArg (fun m : Metrics => { m with subscriptionsActive := g' })
      (cp.metrics.afterRemoval_add .unreferenced hsize)
  unfold afterExpiry
  simp only [MockEngine.afterRelease_append, Journal.afterRelease_append, List.length_append,
    List.map_append, hmetrics]

/-- The idle sessions `ss` were closed, and the objects `gone` collected with them. -/
structure Expires (cp : ControlPlane) (ss : List SessionId) (gone : List MediaObject)
    (next : ControlPlane) : Prop where
  settled : next.holdings.Settled
  find?_eq : ∀ u, next.sessions.find? u = if u ∈ ss then none else cp.sessions.find? u
  cut : Cut cp.registry gone next.registry
  sheds : Sheds cp (fun sub => sub.session ∈ ss ∨ sub.object ∈ gone.map (·.id)) next
  thinned : Thinned cp.dispatcher next.dispatcher
  rest_eq : ∃ holdings dispatcher gauge, next = cp.afterExpiry holdings dispatcher gone gauge

namespace Expires

theorem refl (hs : cp.holdings.Settled) (hd : cp.dispatcher.Sound) : Expires cp [] [] cp where
  settled := hs
  find?_eq := fun _ => rfl
  cut := Cut.refl cp.registry
  sheds := (sheds_of_eq rfl).congr fun sub => by simp
  thinned := Thinned.refl hd
  rest_eq := ⟨_, _, _, cp.afterExpiry_nil.symm⟩

theorem trans (h : Expires cp ss gone mid)
    (h' : Expires mid ts more next) : Expires cp (ss ++ ts) (gone ++ more) next where
  settled := h'.settled
  find?_eq := by
    intro u
    rw [h'.find?_eq, h.find?_eq]
    by_cases hu : u ∈ ss <;> simp [hu]
  cut := h.cut.trans h'.cut
  sheds := by
    refine (h.sheds.trans h'.sheds).congr fun sub => ?_
    rw [List.map_append, List.mem_append, List.mem_append, or_or_or_comm]
  thinned := h.thinned.trans h'.thinned
  rest_eq := by
    have hsize : more.length = 0 → next.registry.size = mid.registry.size := by
      intro hzero
      have hsame : next.registry = mid.registry := by
        refine h'.settled.forest.eq_of_find? h.settled.forest fun x => ?_
        refine (h'.cut.find?_eq x).trans ?_
        rw [List.length_eq_zero_iff.mp hzero]
        rfl
      rw [hsame]
    obtain ⟨holdings, dispatcher, gauge, rfl⟩ := h.rest_eq
    obtain ⟨holdings', dispatcher', gauge', rfl⟩ := h'.rest_eq
    exact ⟨_, _, _, afterExpiry_append cp dispatcher dispatcher' gauge gauge' hsize⟩

end Expires

/-- One idle session is closed. -/
theorem expires_expire? (hs : cp.holdings.Settled) (hd : cp.dispatcher.Sound)
    (h : cp.expire? s = some next) : ∃ gone, Expires cp [s] gone next := by
  have hnext := settled_expire? hs h
  obtain ⟨⟨forced, collected⟩, holdings, hc, rfl⟩ := expire?_eq_some h
  obtain ⟨refs, t, hr, -⟩ := Holdings.close_ok hc
  have hforced : forced = [] := Holdings.forced_close hc nofun
  have hsessions : holdings.sessions = t := Holdings.sessions_close hs hr hc nofun
  have hkept := holdings_closedBy cp s ⟨forced, collected⟩ holdings
  have hcut := cut_closedBy hs hc
  have hsheds := sheds_closedBy cp s ⟨forced, collected⟩ holdings
  subst hforced
  refine ⟨collected, hnext, fun u => ?_, hcut, hsheds.congr fun sub => ?_,
    thinned_closedBy hd s _ holdings, ?_⟩
  · unfold sessions
    rw [hkept, hsessions, SessionTable.find?_removeSession? hr]
    simp only [List.mem_singleton, eq_comm]
  · rw [List.mem_singleton]
    rfl
  · obtain ⟨dispatcher, gauge, heq⟩ :=
      teardown_eq ({ cp with holdings }.dropSubscriptions s) .unreferenced collected
    exact ⟨holdings, dispatcher, gauge, heq⟩

theorem expire?_of_isIdle {e : Session} (he : cp.sessions.find? s = some e)
    (hidle : e.isIdle cp.now cp.sessionTtl = true) : ∃ next, cp.expire? s = some next := by
  obtain ⟨closure, holdings, hc⟩ := Holdings.close_of_isIdle he hidle
  unfold expire?
  rw [hc]
  exact ⟨_, rfl⟩

/-- Idle sessions are all closed, in whatever order they come. -/
theorem expires_expireAll (hs : cp.holdings.Settled) (hd : cp.dispatcher.Sound)
    (hidle : ∀ s ∈ ss, ∃ e, cp.sessions.find? s = some e ∧
      e.isIdle cp.now cp.sessionTtl = true) (hn : ss.Nodup) :
    (cp.expireAll ss).1 = ss.length ∧ ∃ gone, Expires cp ss gone (cp.expireAll ss).2 := by
  induction ss generalizing cp with
  | nil => exact ⟨rfl, [], .refl hs hd⟩
  | cons s ss ih =>
    obtain ⟨hout, hn⟩ := List.nodup_cons.mp hn
    obtain ⟨e, he, hquiet⟩ := hidle s List.mem_cons_self
    obtain ⟨mid, hmid⟩ := expire?_of_isIdle he hquiet
    obtain ⟨gone, hone⟩ := expires_expire? hs hd hmid
    have hsteady := steady_expire? hmid
    -- the other ones are there as before, and as idle
    have hrest : ∀ u ∈ ss, ∃ e, mid.sessions.find? u = some e ∧
        e.isIdle mid.now mid.sessionTtl = true := by
      intro u hu
      have hne : u ∉ [s] := fun heq => hout (List.mem_singleton.mp heq ▸ hu)
      rw [hone.find?_eq, if_neg hne, hsteady.now_eq, hsteady.sessionTtl_eq]
      exact hidle u (List.mem_cons_of_mem s hu)
    obtain ⟨hcount, more, hmore⟩ := ih hone.settled hone.thinned.sound hrest hn
    unfold expireAll
    rw [hmid]
    simp only
    exact ⟨by rw [hcount, List.length_cons], _, hone.trans hmore⟩

/-! ## The order does not matter -/

/-- Two states are the same, but that elements may have been released in another order. -/
def SameOutcome (cp cq : ControlPlane) : Prop :=
  ∃ released, cp.journal.released.Perm released ∧
    cq = { cp with journal := { cp.journal with released } }

theorem SameOutcome.refl (cp : ControlPlane) : SameOutcome cp cp :=
  ⟨cp.journal.released, List.Perm.refl _, rfl⟩

theorem Expires.sameOutcome (h : Expires cp ss gone next) (h' : Expires cp ts more last)
    (hsame : ∀ u, u ∈ ss ↔ u ∈ ts) :
    SameOutcome next.gaugeSessions.gaugeSubscriptions
      last.gaugeSessions.gaugeSubscriptions := by
  have hfind : ∀ u, next.sessions.find? u = last.sessions.find? u := by
    intro u
    rw [h.find?_eq, h'.find?_eq]
    simp only [hsame]
  have href : ∀ u x, next.sessions.reference? u x = last.sessions.reference? u x := fun u =>
    reference?_eq_of_find?_eq (hfind u)
  obtain ⟨hperm, hregistry⟩ := h.settled.unique_of_cut h'.settled h.cut h'.cut href
  have hsessions : next.sessions = last.sessions :=
    h.settled.mirrored.eq_of_find? h'.settled.mirrored hfind
  have hdispatcher : next.dispatcher = last.dispatcher := by
    refine h.thinned.eq h'.thinned (Std.ExtTreeMap.ext_getElem? fun id => Option.ext fun sub => ?_)
    refine (h.sheds id sub).trans (Iff.trans ?_ (h'.sheds id sub).symm)
    simp only [hsame, hperm.mem_iff]
  have hgone := h.cut.perm_objects h'.cut hperm
  obtain ⟨holdings, dispatcher, gauge, rfl⟩ := h.rest_eq
  obtain ⟨holdings', dispatcher', gauge', rfl⟩ := h'.rest_eq
  obtain ⟨registry, sessions⟩ := holdings
  obtain ⟨registry', sessions'⟩ := holdings'
  have hregistry : registry = registry' := hregistry
  have hsessions : sessions = sessions' := hsessions
  have hdispatcher : dispatcher = dispatcher' := hdispatcher
  subst hregistry hsessions hdispatcher
  have hmock : cp.mock.afterRelease gone = cp.mock.afterRelease more := by
    unfold MockEngine.afterRelease
    rw [hgone.countP_eq]
  refine ⟨(cp.journal.released ++ more.map (·.id)), hperm.append_left _, ?_⟩
  unfold afterExpiry
  rw [hmock, hgone.length_eq]
  rfl

end ControlPlane

end MediaPlane
