import MediaPlane.Proofs.Service.Ancestry

/-
  Elements and their release. Objects leave the registry by many routes, and a construction may find
  its parent gone when it ends; whichever it is, the element is released, and released once. In a
  run without cancelled requests every constructed element stands behind a live object, or was
  released exactly once, or is still under construction in a request that waits; and of a parent and
  its child the child is released first (`elements_released_once`).
-/

namespace MediaPlane

namespace ControlPlane

variable {cp next : ControlPlane} {building : List ObjectId}

/-! ## Requests -/

theorem Custody.start (h : cp.Custody building) (r : Request) (guard : Option Guard) :
    (cp.start r guard).2.Custody ((cp.start r guard).1.building ++ building) :=
  (advances_start cp r guard).custody h

theorem Custody.begin (h : cp.Custody building) (r : Request) :
    (cp.begin r).2.Custody ((cp.begin r).1.building ++ building) := by
  unfold ControlPlane.begin
  split
  · simp only
    split
    · next guard cache _ =>
      have hcached : Custody { cp with cache } building := h.of_eq rfl rfl
      exact hcached.start r (some guard)
    · exact h.of_eq rfl rfl
    · exact h.of_eq rfl rfl
  · exact h.start r none

/-- A wait that is over takes its element to where it belongs. -/
theorem Custody.finishWait {w : Wait} (h : cp.Custody (w.building ++ building)) (s : SessionId) :
    (cp.finishWait s w).2.Custody building := by
  cases w with
  | construction c ready => exact h.register s
  | answer value ready => exact h

theorem Custody.resume? {tick : Nat} {p : Pending} {r : Progress × ControlPlane}
    (h : cp.Custody (p.building ++ building)) (hr : cp.resume? tick p = some r) :
    r.2.Custody (r.1.building ++ building) := by
  cases p with
  | duplicate key ticket =>
    obtain ⟨response, -, rfl⟩ := Option.map_eq_some_iff.mp hr
    exact h
  | running caller wait batch =>
    exact (resume?_advances cp.dispatcher.within_full hr).custody
      (Custody.finishWait h caller.session)

/-! ## Commands -/

/-- An idle close collects, and destroys nothing before. -/
theorem releases_expire? {s : SessionId} (hs : cp.holdings.Settled)
    (h : cp.expire? s = some next) : ∃ gone, Releases cp gone next := by
  have hnext := settled_expire? hs h
  unfold expire? at h
  split at h
  · next closure holdings hc =>
    cases h
    have hforced := Holdings.forced_close hc nofun
    have hcut := Holdings.cut_close hs hc
    have hfirst := Holdings.childrenFirst_close hs hc
    rw [hforced, List.nil_append] at hcut hfirst
    refine ⟨_, releases_of_cut hs hnext ?_ hfirst (journal_teardown _ .unreferenced _)⟩
    rw [registry, registry, holdings_teardown]
    exact hcut
  · cases h

theorem Custody.expireAll (h : cp.Custody building) (ss : List SessionId) :
    (cp.expireAll ss).2.Custody building := by
  induction ss generalizing cp with
  | nil => exact h
  | cons s ss ih =>
    unfold ControlPlane.expireAll
    split
    · exact ih h
    · next heq =>
      obtain ⟨gone, hgone⟩ := releases_expire? h.settled heq
      exact ih (h.releases hgone)

theorem Custody.sweep (h : cp.Custody building) : cp.sweep.2.Custody building := by
  rcases cp.sweep_cases with heq | heq <;> rw [heq]
  · exact h
  · exact (h.expireAll _).of_eq rfl rfl

/-- A shutdown releases what is live, from the leaves of each tree up. -/
theorem releases_shutdown (hs : cp.holdings.Settled) :
    Releases cp (cp.registry.drain.1.map (·.id)) cp.shutdown :=
  releases_of_cut hs (settled_shutdown hs) (cut_shutdown hs) hs.forest.childrenFirst_drain
    (journal_shutdown cp)

theorem Custody.shareHandler (h : cp.Custody building) (object : ObjectId) (s : SessionId)
    (id : SubscriptionId) (handler : Handler) :
    (cp.shareHandler object s id handler).2.Custody building := by
  have hshares := ControlPlane.shares cp object s id handler
  generalize (cp.shareHandler object s id handler).2 = next at hshares ⊢
  cases hshares with
  | missed => exact h
  | touched hlive => exact (Change.touch (P := Leeway.full) .touched hlive).custody h
  | shared hlive =>
    have htouched := (Change.touch (s := s) (P := Leeway.full) .touched hlive).custody h
    exact htouched.of_eq rfl rfl

theorem Custody.obey (h : cp.Custody building) (c : Command) : (cp.obey c).Custody building := by
  have hobeys := cp.obeys c
  generalize cp.obey c = next at hobeys ⊢
  cases hobeys with
  | failed => exact h
  | keptAlive hk => exact (Change.keepAlive (P := Leeway.full) hk).custody h
  | connected s => exact (Change.connect (s := s) (P := Leeway.full)).custody h
  | @closed s _ _ _ hc => exact (Change.close (s := s) (P := Leeway.full) trivial hc).custody h
  | swept => exact h.sweep
  | emitted => exact (Change.raise (s := default) (P := Leeway.full) _).custody h
  | handlerConnected object s eventType receiver =>
    exact (changes_connectHandler (P := Leeway.full) cp object s eventType receiver).custody h
  | handlerShared object s id => exact h.shareHandler object s id _
  | shutDown => exact h.releases (releases_shutdown h.settled)
  | evicted | handlerTaken | handlerDropped | factoryInstalled | engineSet | probeLoaded
  | advanced => exact h.of_eq rfl rfl

end ControlPlane

/-! ## Runs -/

/-- The elements under construction in a call. -/
def Call.building (c : Call) : List ObjectId := (c.pending?.map Pending.building).getD []

/-- The elements under construction in calls that wait. -/
def Service.building (v : Service) : List ObjectId := v.calls.flatMap Call.building

theorem Progress.building_state (progress : Progress) (r : Request) (found : Option Arrival)
    (now : Nat) : Call.building ⟨r, found, progress.state now⟩ = progress.building := by
  cases progress <;> rfl

/-- A step that gives no call up leaves every element in its place. -/
theorem Service.custody_step {v : Service} (h : v.plane.Custody v.building) {i : Input}
    (hi : ∀ j, i ≠ .cancel j) : (v.step i).plane.Custody (v.step i).building := by
  cases i with
  | arrive r =>
    refine (h.begin r).congr (List.perm_append_comm.trans ?_)
    show List.Perm _ ((v.calls ++ [_]).flatMap Call.building)
    rw [List.flatMap_append, List.flatMap_singleton, Progress.building_state]
    exact List.Perm.refl _
  | resume i tick =>
    show (v.resume i tick).plane.Custody (v.resume i tick).building
    unfold resume
    split
    · exact h
    · next progress plane heq =>
      obtain ⟨p, hp, hr⟩ := Option.bind_eq_some_iff.mp heq
      obtain ⟨c, hc, hpending⟩ := Option.bind_eq_some_iff.mp hp
      obtain ⟨others, hbefore, hafter⟩ :=
        perm_flatMap_modify Call.building hc fun c => { c with state := progress.state plane.now }
      rw [Progress.building_state] at hafter
      have hbuilding : c.building = p.building := by
        unfold Call.building
        rw [hpending]
        rfl
      rw [hbuilding] at hbefore
      exact ((h.congr hbefore).resume? hr).congr hafter.symm
  | cancel j => exact absurd rfl (hi j)
  | command c => exact h.obey c

theorem ControlPlane.custody_start (c : Settings) : c.plane.Custody [] where
  settled := Holdings.settled_empty
  accounted := List.Perm.refl []
  adopted := by
    intro x p hp
    have hnone := Registry.contains_of_parentOf hp
    simp [Settings.plane, registry, Registry.contains] at hnone
  ordered := fun _ _ _ h => by cases h

/-- In a run that gives no call up, every element is in its place. -/
theorem Settings.custody_run (c : Settings) {inputs : List Input}
    (hkept : ∀ j, Input.cancel j ∉ inputs) :
    (c.run inputs).plane.Custody (c.run inputs).building := by
  induction inputs using List.reverseRecOn with
  | nil => exact ControlPlane.custody_start c
  | append_singleton inputs i ih =>
    rw [c.run_succ]
    refine Service.custody_step (ih fun j hj => hkept j (List.mem_append_left _ hj)) fun j hj => ?_
    exact hkept j (List.mem_append_right _ (List.mem_singleton.mpr hj.symm))

/-! ## What becomes of elements -/

/-- Nothing is under construction where no call waits. -/
theorem Service.building_eq_nil {v : Service} (h : ∀ i, v.pending? i = none) :
    v.building = [] := by
  refine List.flatMap_eq_nil_iff.mpr fun c hc => ?_
  obtain ⟨i, hi⟩ := List.mem_iff_getElem?.mp hc
  have hpending := h i
  unfold pending? at hpending
  rw [hi, Option.bind_some] at hpending
  unfold Call.building
  rw [hpending]
  rfl

/-- What became of the elements that a run constructed. -/
structure Service.ReleasesOnce (v : Service) : Prop where
  /-- No element is released twice, none that was not constructed, and none of a live object. -/
  once : ∀ x, v.plane.journal.released.count x ≤ 1
  released : ∀ x ∈ v.plane.journal.released,
    x ∈ v.plane.journal.constructed ∧ v.plane.registry.contains x = false
  live : ∀ x, v.plane.registry.contains x = true → x ∈ v.plane.journal.constructed
  /-- Every element stands behind a live object, or was released, or is under construction. -/
  placed : ∀ x ∈ v.plane.journal.constructed,
    (v.plane.registry.contains x = true ∧ x ∉ v.plane.journal.released ∧ x ∉ v.building) ∨
      (v.plane.registry.contains x = false ∧ v.plane.journal.released.count x = 1 ∧
        x ∉ v.building) ∨
      (v.plane.registry.contains x = false ∧ x ∉ v.plane.journal.released ∧ x ∈ v.building)
  /-- Between requests only the first two are left. -/
  at_rest : (∀ i, v.pending? i = none) → ∀ x ∈ v.plane.journal.constructed,
    (v.plane.registry.contains x = true ∧ x ∉ v.plane.journal.released) ∨
      (v.plane.registry.contains x = false ∧ v.plane.journal.released.count x = 1)
  /-- Whatever is below a parent entered the registry below it, and goes before it. -/
  adopted : ∀ c p, v.plane.registry.parentOf c = some p → (c, p) ∈ v.plane.journal.adopted
  children_first : ∀ c p, (c, p) ∈ v.plane.journal.adopted → p ∈ v.plane.journal.released →
    [c, p].Sublist v.plane.journal.released

theorem Service.releasesOnce {v : Service} (h : v.plane.Custody v.building)
    (hn : v.plane.journal.constructed.Nodup) : v.ReleasesOnce := by
  have hplaces := h.nodup_places hn
  obtain ⟨-, hrest, -⟩ := List.nodup_append.mp hplaces
  obtain ⟨hreleased, -, hapart⟩ := List.nodup_append.mp hrest
  have hmem : ∀ x, x ∈ v.plane.journal.constructed ↔
      v.plane.registry.contains x = true ∨ x ∈ v.plane.journal.released ∨ x ∈ v.building := by
    intro x
    rw [h.accounted.mem_iff, List.mem_append, List.mem_append, ControlPlane.mem_live]
  have hdead : ∀ x ∈ v.plane.journal.released, v.plane.registry.contains x = false := by
    intro x hx
    rw [← Bool.not_eq_true]
    exact fun hl => h.not_released_of_live hn hl hx
  have hplaced : ∀ x ∈ v.plane.journal.constructed,
      (v.plane.registry.contains x = true ∧ x ∉ v.plane.journal.released ∧ x ∉ v.building) ∨
        (v.plane.registry.contains x = false ∧ v.plane.journal.released.count x = 1 ∧
          x ∉ v.building) ∨
        (v.plane.registry.contains x = false ∧ x ∉ v.plane.journal.released ∧
          x ∈ v.building) := by
    intro x hx
    rcases (hmem x).mp hx with hl | hr | hb
    · refine Or.inl ⟨hl, h.not_released_of_live hn hl, fun hb => ?_⟩
      rw [h.not_live_of_building hn hb] at hl
      cases hl
    · refine Or.inr (Or.inl ⟨hdead x hr, List.count_eq_one_of_mem hreleased hr, fun hb => ?_⟩)
      exact hapart x hr x hb rfl
    · exact Or.inr (Or.inr ⟨h.not_live_of_building hn hb, fun hr => hapart x hr x hb rfl, hb⟩)
  refine { once := List.nodup_iff_count_le_one.mp hreleased, released := ?_, live := ?_,
           placed := hplaced, at_rest := ?_, adopted := fun c p hp => h.adopted hp,
           children_first := fun c p hcp hp => (h.ordered hn hcp).first hp }
  · exact fun x hx => ⟨(hmem x).mpr (Or.inr (Or.inl hx)), hdead x hx⟩
  · exact fun x hx => (hmem x).mpr (Or.inl hx)
  · intro hidle x hx
    rcases hplaced x hx with ⟨hl, hr, -⟩ | ⟨hl, hr, -⟩ | ⟨-, -, hb⟩
    · exact Or.inl ⟨hl, hr⟩
    · exact Or.inr ⟨hl, hr⟩
    · rw [building_eq_nil hidle] at hb
      cases hb

/-- In every run that gives no request up and in which unique identifiers are drawn, elements are
released once and children first. -/
theorem elements_released_once (c : Settings) (inputs : List Input)
    (hkept : ∀ j, Input.cancel j ∉ inputs)
    (hu : (c.run inputs).plane.names.UniqueSince c.names.drawn) :
    (c.run inputs).ReleasesOnce :=
  Service.releasesOnce (c.custody_run hkept) (c.nodup_constructed_run hu)

/-! ## A small run -/

namespace Sample

/-- Constructor parameters of an element of the pipeline, which takes some time to build. -/
def slowly (ms : Nat) : Value :=
  .object [("mediaPipeline", .str pipeline.text), ("$delay", .nat ms)]

/-- Everything goes while an element is under construction. -/
def overtaken : List Input :=
  [.arrive (.inSession owner (.create "MediaPipeline" .null)),
    .arrive (.inSession owner (.create "WebRtcEndpoint" (slowly 0))),
    .arrive (.inSession guest (.create "RtpEndpoint" (slowly 10))),
    .command .shutdown,
    .command (.advance 10),
    .resume 2 10]

end Sample

/-- A shutdown overtakes a construction. -/
theorem elements_released_once_overtaken :
    (∀ j, Input.cancel j ∉ Sample.overtaken) ∧
      (Sample.settings.run Sample.overtaken).plane.names.UniqueSince
        Sample.settings.names.drawn ∧
      (Sample.settings.run Sample.overtaken).ReleasesOnce := by
  have hkept : ∀ j, Input.cancel j ∉ Sample.overtaken := by
    intro j hj
    simp [Sample.overtaken] at hj
  have hdrawn : (Sample.settings.run Sample.overtaken).plane.names.since
      Sample.settings.names.drawn = [1, 2, 3].map Sample.names.name := by
    decide +kernel
  have hu : (Sample.settings.run Sample.overtaken).plane.names.UniqueSince
      Sample.settings.names.drawn := by
    constructor <;> rw [hdrawn] <;> decide +kernel
  exact ⟨hkept, hu, elements_released_once Sample.settings Sample.overtaken hkept hu⟩

end MediaPlane
