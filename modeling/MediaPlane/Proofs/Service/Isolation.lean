import MediaPlane.Proofs.ControlPlane.Sparing
import MediaPlane.Proofs.Service.Ancestry
import MediaPlane.Proofs.Service.ForcedClose
import MediaPlane.Proofs.Service.SubscriptionGauge

/-
  Isolation of sessions: what a step of one session's request can do to the other ones. Unless it
  closes its session by force, they are left alone. If it does, they keep all that they strongly
  hold, and lose a touched object only because it is destroyed (`requests_isolated`). A transport
  that calls back could do more, so it is assumed not to; and the texts that are drawn are assumed
  to be unique identifiers, which callers do not choose for their subscriptions.
-/

namespace MediaPlane

/-! ## Whose step it is -/

/-- The session that a waiting call runs in. -/
def Pending.session : Pending → SessionId
  | duplicate key _ => key.session
  | running caller _ _ => caller.session

/-- The session whose request takes a step; commands are nobody's request. -/
def Service.actor? (v : Service) : Input → Option SessionId
  | .arrive r => some (v.plane.sessionOf r)
  | .resume i _ | .cancel i => (v.pending? i).map Pending.session
  | .command _ => none

/-- A request arrives that asks for its session to be closed by force. -/
def Input.Forces : Input → Prop
  | arrive r => r.operation = .ok (.closeSession true)
  | _ => False

/-- Handlers are built without calls back into the control plane. -/
def HandlerFactory.Quiet (f : HandlerFactory) : Prop :=
  ∀ object session eventType params, (f.plan object session eventType params).callsBack = false

namespace ControlPlane

variable {cp mid next : ControlPlane} {s u : SessionId}

/-! ## What isolation means -/

/-- The other sessions are left alone by session `s`. -/
structure LeftAlone (s : SessionId) (cp next : ControlPlane) : Prop where
  /-- Each of them is as it was, with its references. -/
  find?_eq : ∀ u, u ≠ s → next.sessions.find? u = cp.sessions.find? u
  /-- What it references is live, and all ancestors are. -/
  live : ∀ u x k, u ≠ s → cp.sessions.reference? u x = some k →
    ∀ a, a = x ∨ a ∈ cp.registry.ancestors x → next.registry.contains a = true
  /-- Its subscriptions on objects that survive are there. -/
  subscription?_eq : ∀ id sub, cp.subscription? id = some sub → sub.session ≠ s →
    cp.registry.contains sub.object = true → next.registry.contains sub.object = true →
      next.subscription? id = some sub

/-- The other sessions keep what they strongly hold when session `s` is closed by force. -/
structure ClaimsKept (s : SessionId) (cp next : ControlPlane) : Prop where
  strong : ∀ u x, u ≠ s → cp.sessions.reference? u x = some .strong →
    next.sessions.reference? u x = some .strong ∧
      ∀ a, a = x ∨ a ∈ cp.registry.ancestors x → next.registry.contains a = true
  /-- What they merely touched they only lose if it is destroyed. -/
  touched : ∀ u x, u ≠ s → cp.sessions.reference? u x = some .touched →
    next.sessions.reference? u x = some .touched ∨
      next.sessions.reference? u x = none ∧ cp.registry.contains x = true ∧
        next.registry.contains x = false

/-- Subscriptions bear no name that is still to be drawn, and no live object comes to be again. -/
theorem Spares.leftAlone {entered : List ObjectId} (h : Spares s cp entered next)
    (hs : cp.holdings.Settled)
    (hids : ∀ id sub, cp.subscription? id = some sub → ¬ cp.names.Ahead id.text)
    (hlive : ∀ x, cp.registry.contains x = true → x ∉ entered) : LeftAlone s cp next where
  find?_eq := h.find?_eq
  live := by
    intro u x k hu hk a ha
    refine (h.kept u x k hu hk a ?_).1
    exact hs.forest.within_iff_mem_ancestors.mpr (ha.imp_left Eq.symm)
  subscription?_eq := by
    intro id sub hsub hses hobj hstill
    exact h.subscription?_eq id sub hsub hses (hids id sub hsub) (hlive sub.object hobj) hstill

/-! ## Steps without force -/

theorem within_softly (hq : ∀ f, cp.dispatcher.factory = some f → f.Quiet) (s : SessionId) :
    cp.dispatcher.Within (softly s) :=
  fun f hf object session eventType params =>
    BuildPlan.within_of_not_callsBack (hq f hf object session eventType params)

theorem spares_start (hs : cp.holdings.Settled) (hk : cp.Keyed)
    (hq : ∀ f, cp.dispatcher.factory = some f → f.Quiet) {r : Request}
    (hr : r.operation ≠ .ok (.closeSession true)) (guard : Option Guard) :
    ∃ entered, Spares (cp.sessionOf r) cp entered (cp.start r guard).2 := by
  have ha := start_advances (within_softly hq (cp.sessionOf r)) r guard fun forced hop => by
    refine ⟨rfl, ?_⟩
    cases forced with
    | false => rfl
    | true => exact absurd hop hr
  exact Advances.spares ha hs hk

theorem spares_begin (hs : cp.holdings.Settled) (hk : cp.Keyed)
    (hq : ∀ f, cp.dispatcher.factory = some f → f.Quiet) {r : Request}
    (hr : r.operation ≠ .ok (.closeSession true)) :
    ∃ entered, Spares (cp.sessionOf r) cp entered (cp.begin r).2 := by
  have hsame := Spares.refl hs (cp.sessionOf r)
  unfold begin
  split
  · simp only
    split
    · next guard cache _ =>
      have hs' : (ControlPlane.holdings { cp with cache }).Settled := hs
      obtain ⟨entered, hstart⟩ := spares_start hs' hk hq hr (some guard)
      exact ⟨entered, hstart.before rfl rfl ⟨rfl, Nat.le_refl _⟩ rfl⟩
    · exact ⟨[], hsame.congr rfl rfl rfl rfl⟩
    · exact ⟨[], hsame.congr rfl rfl rfl rfl⟩
  · exact spares_start hs hk hq hr none

theorem spares_finishWait (hs : cp.holdings.Settled) (s : SessionId) (w : Wait) :
    ∃ entered, Spares s cp entered (cp.finishWait s w).2 := by
  cases w with
  | construction c ready => exact spares_register hs s c
  | answer value ready => exact ⟨[], Spares.refl hs s⟩

theorem spares_resume? (hs : cp.holdings.Settled) (hk : cp.Keyed)
    (hq : ∀ f, cp.dispatcher.factory = some f → f.Quiet) {tick : Nat} {p : Pending}
    {r : Progress × ControlPlane} (h : cp.resume? tick p = some r) :
    ∃ entered, Spares p.session cp entered r.2 := by
  cases p with
  | duplicate key ticket =>
    obtain ⟨response, -, rfl⟩ := Option.map_eq_some_iff.mp h
    exact ⟨[], Spares.refl hs key.session⟩
  | running caller wait batch =>
    have ha := resume?_advances (within_softly hq caller.session) h
    have hs' := lasting_settled.finishWait hs caller.session wait
    have hk' := lasting_keyed.finishWait hk caller.session wait
    obtain ⟨entered, hfinished⟩ := spares_finishWait hs caller.session wait
    obtain ⟨more, hadvanced⟩ := Advances.spares ha hs' hk'
    exact ⟨entered ++ more, hfinished.trans hadvanced⟩

theorem spares_cancel (hs : cp.holdings.Settled) (p : Pending) :
    Spares p.session cp [] (cp.cancel p) := by
  cases p with
  | duplicate key ticket => exact Spares.refl hs key.session
  | running caller wait batch =>
    have hleave : Spares caller.session cp [] (cp.leave caller.session) :=
      spares_of_sessions (settled_leave hs caller.session) ⟨rfl, Nat.le_refl _⟩ rfl
        (fun u hu => find?_leave cp.sessions cp.now hu) rfl rfl
    unfold cancel
    simp only
    split
    · exact hleave
    · exact hleave.congr rfl rfl rfl rfl

end ControlPlane

theorem Service.spares_step {v : Service} {s : SessionId} {i : Input}
    (hs : v.plane.holdings.Settled) (hk : v.plane.Keyed)
    (hq : ∀ f, v.plane.dispatcher.factory = some f → f.Quiet) (hi : v.actor? i = some s)
    (hsoft : ¬ i.Forces) :
    ∃ entered, ControlPlane.Spares s v.plane entered (v.step i).plane := by
  cases i with
  | arrive r =>
    cases hi
    exact ControlPlane.spares_begin hs hk hq hsoft
  | resume i tick =>
    obtain ⟨p, hp, rfl⟩ := Option.map_eq_some_iff.mp hi
    show ∃ entered, ControlPlane.Spares p.session v.plane entered (v.resume i tick).plane
    unfold resume
    rw [hp, Option.bind_some]
    split
    · exact ⟨[], ControlPlane.Spares.refl hs p.session⟩
    · next heq => exact ControlPlane.spares_resume? hs hk hq heq
  | cancel i =>
    obtain ⟨p, hp, rfl⟩ := Option.map_eq_some_iff.mp hi
    show ∃ entered, ControlPlane.Spares p.session v.plane entered (v.cancel i).plane
    unfold cancel
    rw [hp]
    exact ⟨[], ControlPlane.spares_cancel hs p⟩
  | command c => cases hi

/-! ## A forced close -/

namespace ControlPlane

variable {cp mid next : ControlPlane} {s u : SessionId} {gone : List MediaObject}

theorem ForcedClosed.claimsKept (h : ForcedClosed cp s gone next) (hs : cp.holdings.Settled)
    (hnext : next.holdings.Settled) : ClaimsKept s cp next := by
  have hcut : Registry.Cut cp.registry gone next.registry := ⟨h.find?_eq, h.taken, h.nodup⟩
  refine { strong := ?_, touched := ?_ }
  · intro u x hu hk
    have hout : x ∉ gone.map (·.id) := by
      intro hin
      rcases (h.mem_gone x).mp hin with ⟨o, ⟨-, halone⟩, hxo⟩ | ⟨-, hkept, hnone⟩
      · exact halone x u hu hxo hk
      · have hx := hnone x u hu (Registry.Within.refl _ x) hkept
        rw [show cp.holdings.sessions.reference? u x = some .strong from hk] at hx
        cases hx
    have hstill : next.sessions.reference? u x = some .strong := by
      rw [h.reference?_eq u x hu, if_neg hout]
      exact hk
    refine ⟨hstill, fun a ha => ?_⟩
    have hlive : next.registry.contains x = true := hnext.held_live ⟨u, _, hstill⟩
    have hwithin : cp.registry.Within x a :=
      hs.forest.within_iff_mem_ancestors.mpr (ha.imp_left Eq.symm)
    exact hnext.forest.contains_of_within hlive
      ((hcut.within_iff hnext.forest hlive).mpr hwithin)
  · intro u x hu hk
    by_cases hin : x ∈ gone.map (·.id)
    · refine Or.inr ⟨?_, hcut.live_of_mem hin, ?_⟩
      · rw [h.reference?_eq u x hu, if_pos hin]
      · rw [← Bool.not_eq_true, hcut.contains_iff]
        exact fun hlive => hlive.2 hin
    · refine Or.inl ?_
      rw [h.reference?_eq u x hu, if_neg hin]
      exact hk

theorem ClaimsKept.refl (hs : cp.holdings.Settled) (s : SessionId) : ClaimsKept s cp cp where
  strong := by
    intro u x _ hk
    refine ⟨hk, fun a ha => hs.forest.contains_of_within (hs.held_live ⟨u, _, hk⟩) ?_⟩
    exact hs.forest.within_iff_mem_ancestors.mpr (ha.imp_left Eq.symm)
  touched := fun _ _ _ hk => Or.inl hk

/-- Only the tables matter. -/
theorem ClaimsKept.congr {last : ControlPlane} (h : ClaimsKept s mid next)
    (hmid : mid.holdings = cp.holdings) (hlast : last.holdings = next.holdings) :
    ClaimsKept s cp last := by
  obtain ⟨hstrong, htouched⟩ := h
  unfold sessions registry at hstrong htouched
  rw [hmid, ← hlast] at hstrong htouched
  exact ⟨hstrong, htouched⟩

theorem claimsKept_closeSession (hs : cp.holdings.Settled) {n : Nat}
    (h : cp.closeSession s true = .ok (n, next)) : ClaimsKept s cp next := by
  obtain ⟨gone, last, hok, hforced⟩ := forcedClosed hs (contains_of_closeSession h)
  rw [hok] at h
  cases h
  exact hforced.claimsKept hs (settled_closeSession hs hok)

/-- A request to close its session by force does that and nothing else to the tables. -/
theorem claimsKept_start (hs : cp.holdings.Settled) {r : Request}
    (hr : r.operation = .ok (.closeSession true)) (guard : Option Guard) :
    ClaimsKept (cp.sessionOf r) cp (cp.start r guard).2 := by
  have hsession : ∃ mid, cp.sessionFor r.session = (cp.sessionOf r, mid) ∧
      mid.holdings = cp.holdings := by
    unfold sessionFor sessionOf
    cases r.session with
    | some s => exact ⟨cp, rfl, rfl⟩
    | none => exact ⟨cp.drawName.2, rfl, rfl⟩
  obtain ⟨mid, heq, hmid⟩ := hsession
  have hs' : mid.holdings.Settled := hmid ▸ hs
  unfold start
  rw [heq, hr]
  unfold perform
  simp only
  split
  · exact (ClaimsKept.refl hs' _).congr hmid (holdings_respond _ _ _)
  · next hok => exact (claimsKept_closeSession hs' hok).congr hmid (holdings_respond _ _ _)

theorem claimsKept_begin (hs : cp.holdings.Settled) {r : Request}
    (hr : r.operation = .ok (.closeSession true)) :
    ClaimsKept (cp.sessionOf r) cp (cp.begin r).2 := by
  have hsame := ClaimsKept.refl hs (cp.sessionOf r)
  unfold begin
  split
  · simp only
    split
    · next guard cache _ =>
      have hcached : ControlPlane.holdings { cp with cache } = cp.holdings := rfl
      have hs' : (ControlPlane.holdings { cp with cache }).Settled := hs
      exact (claimsKept_start hs' hr (some guard)).congr hcached rfl
    · exact hsame.congr rfl rfl
    · exact hsame.congr rfl rfl
  · exact claimsKept_start hs hr none

end ControlPlane

/-! ## Every step -/

/-- In a run in which unique identifiers are drawn, no step registers what is live. -/
theorem Settings.not_entered_of_live (c : Settings) (inputs : List Input) (i : Input)
    (hu : (c.run (inputs ++ [i])).plane.names.UniqueSince c.names.drawn) {entered : List ObjectId}
    (hr : ControlPlane.Registers (c.run inputs).plane entered (c.run (inputs ++ [i])).plane)
    {x : ObjectId} (hx : (c.run inputs).plane.registry.contains x = true) : x ∉ entered := by
  have hnodup := c.nodup_registered_run hu
  rw [hr.registered_eq] at hnodup
  exact fun hin =>
    (List.nodup_append.mp hnodup).2.2 x ((c.ancestry_run inputs).live hx) x hin rfl

/-- In every reachable state, a step of a request in session `s` leaves all other sessions alone,
unless it closes its session by force; and then they keep what they strongly hold, and lose no more
than objects that are destroyed. No text is drawn twice, those that have been drawn are written with
36 characters, and nobody shares a handler under one that is still to be drawn. -/
theorem requests_isolated (c : Settings) (inputs : List Input) (i : Input) {s : SessionId}
    (hi : (c.run inputs).actor? i = some s)
    (hquiet : ∀ f, (c.run inputs).plane.dispatcher.factory = some f → f.Quiet)
    (hnames : Function.Injective c.names.name) (hshared : c.SharesApart inputs)
    (hlength : ∀ text ∈ ((c.run inputs).step i).plane.names.since c.names.drawn,
      text.length = 36) :
    (¬ i.Forces →
        ControlPlane.LeftAlone s (c.run inputs).plane ((c.run inputs).step i).plane) ∧
      (i.Forces →
        ControlPlane.ClaimsKept s (c.run inputs).plane ((c.run inputs).step i).plane) := by
  have hs := c.settled_run inputs
  constructor
  · intro hsoft
    have hk : (c.run inputs).plane.Keyed :=
      ControlPlane.lasting_keyed.run (ControlPlane.keyed_empty c.plane rfl) inputs
    obtain ⟨entered, hspares⟩ := Service.spares_step hs hk hquiet hi hsoft
    rw [← c.run_succ] at hspares hlength ⊢
    have hu : (c.run (inputs ++ [i])).plane.names.UniqueSince c.names.drawn := by
      have honward : c.names.Onward (c.run (inputs ++ [i])).plane.names :=
        (c.rears_run [] (inputs ++ [i])).onward
      refine ⟨NameSource.nodup_since ?_ c.names.drawn, hlength⟩
      rw [honward.name_eq]
      exact hnames
    exact hspares.leftAlone hs (c.heard_run hnames inputs hshared).apart.not_ahead
      fun _ hx => c.not_entered_of_live inputs i hu hspares.registers hx
  · intro hforces
    cases i with
    | arrive r =>
      cases hi
      exact ControlPlane.claimsKept_begin hs hforces
    | resume | cancel | command => exact hforces.elim

/-! ## A small run -/

/-- The transport of the sample run does not call back. -/
theorem Sample.quiet :
    ∀ f, (Sample.settings.run Sample.inputs).plane.dispatcher.factory = some f → f.Quiet := by
  intro f hf object session eventType params
  have hsilent : (Sample.settings.run Sample.inputs).plane.dispatcher.factory = some .silent := rfl
  rw [hsilent] at hf
  cases hf
  rfl

/-- The owner releases the pipeline that the guest listens to. -/
def Sample.release : Input := .arrive (.inSession owner (.release pipeline))

theorem requests_isolated_release :
    (Sample.settings.run Sample.inputs).actor? Sample.release = some Sample.owner ∧
      (∀ f, (Sample.settings.run Sample.inputs).plane.dispatcher.factory = some f → f.Quiet) ∧
      Function.Injective Sample.settings.names.name ∧
      Sample.settings.SharesApart Sample.inputs ∧
      (∀ text ∈ ((Sample.settings.run Sample.inputs).step Sample.release).plane.names.since
        Sample.settings.names.drawn, text.length = 36) ∧
      ¬ Sample.release.Forces ∧
      ControlPlane.LeftAlone Sample.owner (Sample.settings.run Sample.inputs).plane
        ((Sample.settings.run Sample.inputs).step Sample.release).plane := by
  have hi : (Sample.settings.run Sample.inputs).actor? Sample.release = some Sample.owner := by
    decide +kernel
  have hlength : ∀ text ∈ ((Sample.settings.run Sample.inputs).step
      Sample.release).plane.names.since Sample.settings.names.drawn, text.length = 36 := by
    decide +kernel
  have hnames : Function.Injective Sample.settings.names.name := Sample.name_injective
  have hshared : Sample.settings.SharesApart Sample.inputs := by
    intro before after object s id handler heq
    have hmem : .command (.shareHandler object s id handler) ∈ Sample.inputs :=
      heq ▸ List.mem_append_right _ List.mem_cons_self
    simp [Sample.inputs] at hmem
  have hsoft : ¬ Sample.release.Forces := by
    intro hforces
    cases hforces
  exact ⟨hi, Sample.quiet, hnames, hshared, hlength, hsoft,
    (requests_isolated Sample.settings Sample.inputs Sample.release hi Sample.quiet hnames hshared
      hlength).1 hsoft⟩

end MediaPlane
