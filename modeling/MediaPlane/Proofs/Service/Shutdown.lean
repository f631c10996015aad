import MediaPlane.Proofs.ControlPlane.Handling
import MediaPlane.Proofs.Service.Anchoring
import MediaPlane.Proofs.Service.IdleSweep
import MediaPlane.Proofs.Service.Release

/-
  The shutdown (`shutdown_leaves_nothing`). It drains the registry from the roots, removes the
  sessions that it finds, and drops subscriptions by these sessions and by the drained objects. In
  every reachable state these partial sweeps meet: the tables come out as they were before the first
  request, their indexes included, and every element that was live is released, once and before its
  parent. A subscription whose session is gone is on a live object still, and so it goes with that.
  Handlers that somebody outside holds are all that is left.
-/

namespace MediaPlane

/-! ## Empty tables -/

theorem SessionTable.Mirrored.eq_empty {t : SessionTable} (h : t.Mirrored)
    (hnone : ∀ s, t.find? s = none) : t = empty := by
  have hsessions : t.sessions = ∅ := by
    refine Std.ExtTreeMap.ext_getElem? fun s => ?_
    rw [Std.ExtTreeMap.getElem?_empty]
    exact hnone s
  have hholders : t.holders = ∅ := by
    refine Std.ExtTreeMap.ext_getElem? fun o => ?_
    rw [Std.ExtTreeMap.getElem?_empty]
    by_contra hsome
    obtain ⟨hs, ho⟩ := Option.ne_none_iff_exists'.mp hsome
    have hlisted : hs.toList.isEmpty = false :=
      Std.ExtTreeMap.isEmpty_toList.trans (h.none_empty ho)
    obtain ⟨⟨s, k⟩, hmem⟩ := List.isEmpty_eq_false_iff_exists_mem.mp hlisted
    have hheld : recorded t.holders o s = some k := by
      unfold recorded
      rw [ho, Option.bind_some]
      exact Std.ExtTreeMap.mem_toList_iff_getElem?_eq_some.mp hmem
    rw [h.recorded_eq, reference?, hnone] at hheld
    cases hheld
  cases t
  simp only at hsessions hholders
  rw [hsessions, hholders]
  rfl

theorem Holdings.Settled.eq_empty {h : Holdings} (hs : h.Settled)
    (hobjects : ∀ x, h.registry.contains x = false) (hsessions : ∀ s, h.sessions.find? s = none) :
    h = {} := by
  have hregistry := hs.forest.eq_empty hobjects
  have htable := hs.mirrored.eq_empty hsessions
  cases h
  simp only at hregistry htable
  rw [hregistry, htable]
  rfl

namespace ControlPlane

variable {cp : ControlPlane}

/-! ## The end of a state -/

/-- What is left of a state is what somebody outside holds. -/
structure EndsIn (cp next : ControlPlane) : Prop where
  /-- No object, no session and no reference, and nothing in the indexes either. -/
  holdings_eq : next.holdings = {}
  subscriptions_eq : next.dispatcher.subscriptions = ∅
  held_eq : next.dispatcher.held = cp.dispatcher.held
  /-- The live handlers are the held ones. -/
  liveHandler?_iff : ∀ key h, next.dispatcher.liveHandler? key = some h ↔
    h.key = key ∧ h ∈ cp.dispatcher.held
  /-- The elements of the objects that were live are released once each, children first; no other
  element is released, and none is constructed. -/
  released : ∃ gone, next.journal.released = cp.journal.released ++ gone ∧ gone.Nodup ∧
    (∀ x, x ∈ gone ↔ cp.registry.contains x = true) ∧
    ∀ c p, cp.registry.parentOf c = some p → [c, p].Sublist gone
  constructed_eq : next.journal.constructed = cp.journal.constructed

theorem contains_shutdown (hs : cp.holdings.Settled) (x : ObjectId) :
    cp.shutdown.registry.contains x = false := by
  unfold registry
  rw [holdings_shutdown]
  exact hs.forest.contains_drain x

theorem holdings_shutdown_eq_empty (hs : cp.holdings.Settled) : cp.shutdown.holdings = {} :=
  (settled_shutdown hs).eq_empty (contains_shutdown hs) (find?_shutdown cp)

/-- No subscription is left, since none would be on a live object. -/
theorem subscriptions_shutdown (hs : cp.holdings.Settled) (ha : cp.Anchored) :
    cp.shutdown.dispatcher.subscriptions = ∅ := by
  refine Std.ExtTreeMap.ext_getElem? fun id => ?_
  rw [Std.ExtTreeMap.getElem?_empty]
  by_contra hsome
  obtain ⟨sub, hsub⟩ := Option.ne_none_iff_exists'.mp hsome
  have hlive := anchored_shutdown hs ha id sub hsub
  rw [contains_shutdown hs] at hlive
  cases hlive

theorem thinned_shutdown (hd : cp.dispatcher.Sound) :
    Dispatcher.Thinned cp.dispatcher cp.shutdown.dispatcher := by
  have hdrained : ∀ mid : ControlPlane, mid.dispatcher = cp.dispatcher →
      Dispatcher.Thinned cp.dispatcher
        ((cp.sessions.ids.foldl dropSubscriptions mid).teardown .shutdown
          cp.registry.drain.1).dispatcher := by
    intro mid hmid
    rw [← hmid] at hd ⊢
    have hdropped := thinned_dropAll hd cp.sessions.ids
    exact hdropped.trans (thinned_teardown hdropped.sound .shutdown cp.registry.drain.1)
  exact hdrained _ rfl

theorem endsIn_shutdown (hs : cp.holdings.Settled) (ha : cp.Anchored) (hd : cp.dispatcher.Sound) :
    EndsIn cp cp.shutdown where
  holdings_eq := holdings_shutdown_eq_empty hs
  subscriptions_eq := subscriptions_shutdown hs ha
  held_eq := (thinned_shutdown hd).held_eq
  liveHandler?_iff := by
    intro key h
    have hthinned := thinned_shutdown hd
    have howned : cp.shutdown.dispatcher.Owned h ↔ h ∈ cp.dispatcher.held := by
      rw [← hthinned.held_eq]
      refine or_iff_right ?_
      rintro ⟨id, s, hsub, -⟩
      rw [subscriptions_shutdown hs ha, Std.ExtTreeMap.getElem?_empty] at hsub
      cases hsub
    rw [hthinned.sound.liveHandler?_eq_some, howned]
  released := by
    have hreleases := releases_shutdown hs
    have hmem : ∀ x, x ∈ cp.registry.drain.1.map (·.id) ↔ cp.registry.contains x = true :=
      fun _ => hs.forest.mem_drain
    refine ⟨_, hreleases.journal_eq.2.2, hreleases.nodup, hmem, fun c p hp => ?_⟩
    exact hreleases.first hp ((hmem p).mpr (hs.forest.parent_live hp))
  constructed_eq := (releases_shutdown hs).journal_eq.1

end ControlPlane

/-- A shutdown at any point of any run leaves nothing but the handlers that are held outside, and
releases what was live. -/
theorem shutdown_leaves_nothing (c : Settings) (inputs : List Input) :
    let cp := (c.run inputs).plane
    cp.EndsIn cp.shutdown :=
  ControlPlane.endsIn_shutdown (c.settled_run inputs) (c.anchored_run inputs) (c.sound_run inputs)

/-- The transport closes the guest while it subscribes for it, so its subscription outlives it; a
shutdown finds it on the pipeline. -/
example :
    let cp := (Sample.settings.run (Sample.steeredInputs ++
      [.arrive (.inSession Sample.guest
        (.subscribe Sample.pipeline "Played" (.object [("$close", .str "guest")])))])).plane
    (cp.subscription? ⟨Sample.names.name 2⟩).map (·.session) = some Sample.guest ∧
      cp.sessions.contains Sample.guest = false ∧
      cp.shutdown.dispatcher.subscriptionCount = 0 := by
  decide +kernel

end MediaPlane
