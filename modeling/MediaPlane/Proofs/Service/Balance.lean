import MediaPlane.Proofs.Service.SubscriptionGauge

/-
  The statistics balance. In every run in which no call is given up, the numbers agree with what
  they speak of (`statistics_balance`): the gauges with the objects and subscriptions that there
  are, and the counters with what happened in the run. Requests are counted when they are answered,
  so those that are still under way are missing; a transport's own requests are among the counted
  ones. Names are assumed to be new when they are drawn, as unique names are.
-/

namespace MediaPlane

/-! ## Requests that are under way -/

/-- Whether a call runs and waits for its own operation: one if it does. -/
def CallState.underway : CallState → Nat
  | waiting (.running ..) => 1
  | waiting (.duplicate ..) | answered .. | cancelled => 0

/-- How many requests run that have not been answered. -/
def Service.underway (v : Service) : Nat := v.total CallState.underway

namespace ControlPlane

variable {cp next : ControlPlane} {ps : List Performance} {progress : Progress}

/-- A call passes on, and is counted unless it waits. -/
theorem Passes.accounts (h : Passes cp ps progress next) (hs : cp.holdings.Settled) (now : Nat) :
    ∃ k, k + (progress.state now).underway = 1 ∧ Accounts cp ps k next := by
  cases h with
  | finished ha response => exact ⟨1, rfl, ha.accounts hs⟩
  | repeated ha key ticket => exact ⟨1, rfl, ha.accounts hs⟩
  | @suspended ps mid _ op w ha caller batch hw =>
    have hlast := accounts_execute (lasting_settled.acts ha hs) caller.session op
    rw [hw] at hlast
    exact ⟨0, rfl, (ha.accounts hs).trans hlast⟩

theorem accounts_finishWait (hs : cp.holdings.Settled) (s : SessionId) (w : Wait) :
    Accounts cp [] 0 (cp.finishWait s w).2 := by
  cases w with
  | construction c ready => exact accounts_register hs s c
  | answer value ready => exact (Records.refl cp).accounts

end ControlPlane

/-! ## Runs -/

namespace Service

variable {v : Service} {ps : List Performance}

/-- The numbers so far, while requests may be under way. -/
structure Sums (v : Service) (ps : List Performance) : Prop where
  tallied : v.plane.Tallied
  rejected : v.plane.metrics.rejected = ps.countP Performance.refused
  answered : v.plane.metrics.answered + v.underway =
    v.calls.length + (ps.map Performance.requests).sum

theorem Sums.arrive (h : v.Sums ps) (hs : v.plane.holdings.Settled) (r : Request) :
    (v.arrive r).Sums (ps ++ v.performed (.arrive r)) := by
  obtain ⟨k, hk, ha⟩ := (v.passes_arrive r).accounts hs (v.plane.begin r).2.now
  have hunderway : (v.arrive r).underway = v.underway + _ := v.total_arrive CallState.underway r
  have hlength : (v.arrive r).calls.length = v.calls.length + 1 := List.length_append
  have hbefore := h.answered
  have hanswered := ha.answered
  refine ⟨ha.tallied h.tallied, ?_, ?_⟩
  · rw [ha.rejected, h.rejected, List.countP_append]
  · rw [List.map_append, List.sum_append]
    omega

theorem Sums.resumes {i tick : Nat} {qs : List Performance} {next : Service} (h : v.Sums ps)
    (hs : v.plane.holdings.Settled) (hr : v.Resumes i tick qs next) : next.Sums (ps ++ qs) := by
  have hlength : ∀ state, (v.setState i state).length = v.calls.length :=
    fun state => List.length_modify _ _ _
  have hbefore := h.answered
  cases hr with
  | idle =>
    rw [List.append_nil]
    exact h
  | @followed key ticket hp response =>
    have hunderway := total_setState CallState.underway hp v.plane (.answered response v.plane.now)
    rw [List.append_nil]
    refine ⟨h.tallied, h.rejected, ?_⟩
    show v.plane.metrics.answered + total _ _ = (v.setState i _).length + _
    have hwaits : CallState.underway (.waiting (.duplicate key ticket)) = 0 := rfl
    have hgone : CallState.underway (.answered response v.plane.now) = 0 := rfl
    have htotal : v.underway = v.total CallState.underway := rfl
    rw [hlength]
    omega
  | @advanced caller wait batch qs progress plane hp _ hpasses =>
    -- The call was under way, and is counted now unless it waits again.
    have hmid := ControlPlane.lasting_settled.finishWait hs caller.session wait
    obtain ⟨k, hk, ha⟩ := hpasses.accounts hmid plane.now
    have hall : ControlPlane.Accounts v.plane qs (0 + k) plane :=
      (ControlPlane.accounts_finishWait hs caller.session wait).trans ha
    have hunderway := total_setState CallState.underway hp plane (progress.state plane.now)
    refine ⟨hall.tallied h.tallied, ?_, ?_⟩
    · rw [hall.rejected, h.rejected, List.countP_append]
    · have hanswered : plane.metrics.answered = _ := hall.answered
      have hrunning : CallState.underway (.waiting (.running caller wait batch)) = 1 := rfl
      have htotal : v.underway = v.total CallState.underway := rfl
      show plane.metrics.answered + total _ _ = (v.setState i _).length + _
      rw [hlength, List.map_append, List.sum_append]
      omega

theorem Sums.command (h : v.Sums ps) (hs : v.plane.holdings.Settled) (c : Command) :
    (v.step (.command c)).Sums (ps ++ v.performed (.command c)) := by
  have hrecords := ControlPlane.records_obey hs c
  show Sums { v with plane := v.plane.obey c } (ps ++ [])
  rw [List.append_nil]
  exact ⟨hrecords.tallied h.tallied, hrecords.rejected_eq.trans h.rejected,
    (congrArg (· + v.underway) hrecords.answered).trans h.answered⟩

/-- Every input but a cancellation is summed up. -/
theorem Sums.step (h : v.Sums ps) (hs : v.plane.holdings.Settled) {i : Input}
    (hcancel : ∀ j, i ≠ .cancel j) : (v.step i).Sums (ps ++ v.performed i) := by
  cases i with
  | arrive r => exact h.arrive hs r
  | resume j tick => exact h.resumes hs (v.resumes j tick)
  | cancel j => exact absurd rfl (hcancel j)
  | command c => exact h.command hs c

end Service

theorem Settings.sums (c : Settings) (inputs : List Input) (hcancel : ∀ j, .cancel j ∉ inputs) :
    (c.run inputs).Sums (c.history inputs) := by
  induction inputs using List.reverseRecOn with
  | nil =>
    exact
      { tallied := ⟨fun hany => absurd rfl hany, rfl, rfl⟩
        rejected := rfl
        answered := by
          show ({} : Metrics).answered + 0 = 0
          rfl }
  | append_singleton inputs i ih =>
    rw [c.run_succ, c.history_succ]
    have hbefore := ih fun j hj => hcancel j (List.mem_append_left _ hj)
    refine hbefore.step (c.settled_run inputs) fun j hi => ?_
    exact hcancel j (hi ▸ List.mem_append_right _ (List.mem_singleton_self i))

/-- The numbers are right. -/
structure Service.Balanced (v : Service) (performed : List Performance) : Prop where
  /-- Once an object was registered, the gauge says how many are live. -/
  objects : v.plane.journal.registered ≠ [] →
    v.plane.metrics.objectsActive = some v.plane.registry.all.length
  /-- Once it is set, the gauge says how many subscriptions there are. -/
  subscriptions : ∀ n, v.plane.metrics.subscriptionsActive = some n →
    n = v.plane.dispatcher.subscriptions.size
  /-- What was registered and is not live was collected. -/
  collected : v.plane.metrics.totalCollected =
    v.plane.journal.registered.length - v.plane.registry.all.length
  /-- Every request is answered once, those of transports included, unless it is under way. -/
  requests : v.plane.metrics.totalRequests + v.plane.metrics.replays + v.underway =
    v.calls.length + (performed.map Performance.requests).sum
  rejected : v.plane.metrics.rejected = performed.countP Performance.refused
  delivered : v.plane.metrics.delivered = v.plane.journal.deliveries.length

/-- In every run in which no call is given up, whatever its interleaving, the statistics balance. -/
theorem statistics_balance (c : Settings) (hnames : Function.Injective c.names.name)
    (inputs : List Input) (hcancel : ∀ j, .cancel j ∉ inputs) (hshared : c.SharesApart inputs) :
    (c.run inputs).Balanced (c.history inputs) := by
  have hsums := c.sums inputs hcancel
  have hsize : (c.run inputs).plane.registry.size = (c.run inputs).plane.registry.all.length :=
    (c.settled_run inputs).forest.size_eq
  have hcollected := hsums.tallied.collected
  exact
    { objects := by
        rw [← hsize]
        exact hsums.tallied.objects
      subscriptions := (c.heard_run hnames inputs hshared).gauged
      collected := by omega
      requests := hsums.answered
      rejected := hsums.rejected
      delivered := hsums.tallied.delivered }

/-! ## A small run -/

namespace Sample

/-- The owner's pipeline plays to the guest, a second one is not admitted, and the first one goes by
force. -/
def eventful : List Input :=
  inputs ++ [.command (.emit pipeline "Played" .null), .command (.load (.fixed (.ofNat 2))),
    .arrive (.inSession owner (.create "MediaPipeline" .null)), .command (.close owner true)]

end Sample

theorem statistics_balance_eventful :
    Function.Injective Sample.settings.names.name ∧ (∀ j, .cancel j ∉ Sample.eventful) ∧
      Sample.settings.SharesApart Sample.eventful ∧
      (Sample.settings.run Sample.eventful).Balanced (Sample.settings.history Sample.eventful) ∧
      (Sample.settings.run Sample.eventful).plane.metrics.rejected = 1 ∧
      (Sample.settings.run Sample.eventful).plane.metrics.delivered = 1 ∧
      (Sample.settings.run Sample.eventful).plane.metrics.totalCollected = 1 := by
  have hcancel : ∀ j, .cancel j ∉ Sample.eventful := by
    intro j hj
    simp [Sample.eventful, Sample.inputs] at hj
  have hshared : Sample.settings.SharesApart Sample.eventful := by
    intro before after object s id handler heq
    have hmem : .command (.shareHandler object s id handler) ∈ Sample.eventful :=
      heq ▸ List.mem_append_right _ List.mem_cons_self
    simp [Sample.eventful, Sample.inputs] at hmem
  exact ⟨Sample.name_injective, hcancel, hshared,
    statistics_balance Sample.settings Sample.name_injective _ hcancel hshared,
    by decide +kernel, by decide +kernel, by decide +kernel⟩

end MediaPlane
