import MediaPlane.Proofs.ControlPlane.Custody
import MediaPlane.Proofs.ControlPlane.Recording

/-
  How far admission lets the registry grow. A creation is admitted by the number of objects at its
  start, and nobody asks again when its element is there. So what is admitted finds at most as many
  objects as the limit allows, and adds one, now or later (`Creates.size_le`); what is refused
  leaves nothing behind but a count (`next_of_refused`); nothing else adds any. A call that passes
  on stays below any bound that leaves room for one object more (`Passes.bounded`).
-/

namespace MediaPlane

/-- The elements that an outcome leaves under construction. -/
def Outcome.building : Outcome → List ObjectId
  | settled _ => []
  | waiting w => w.building

/-- The registry has at most so many objects when the operation starts and when it is through. -/
def Performance.Below (M : Nat) (p : Performance) : Prop :=
  p.plane.registry.all.length ≤ M ∧ p.next.registry.all.length ≤ M

namespace ControlPlane

variable {cp mid next : ControlPlane} {s : SessionId} {ps : List Performance} {n N M : Nat}

/-- Every number of live objects above `N` is over the limit. -/
def Limits (N : Nat) (a : AdmissionControl) : Prop := ∀ live, N < live → a.exceeded live = true

/-! ## Single operations -/

theorem size_register (hs : cp.holdings.Settled) (s : SessionId) (c : Construction) :
    (cp.register s c).2.registry.size ≤ cp.registry.size + 1 := by
  unfold registry
  rcases register_cases cp s c with heq | ⟨r, hput, heq⟩ <;> rw [heq]
  · exact Nat.le_succ _
  · exact Nat.le_of_eq (Registry.size_put hs.forest hput)

theorem size_finishWait (hs : cp.holdings.Settled) (s : SessionId) (w : Wait) :
    (cp.finishWait s w).2.registry.size ≤ cp.registry.size + w.building.length := by
  cases w with
  | construction c ready => exact size_register hs s c
  | answer value ready => exact Nat.le_refl _

/-- A creation that is admitted finds few enough objects, and adds one, at once or when it is
built. -/
theorem Creates.size_le {outcome : Outcome} (h : Creates s cp outcome next)
    (hs : cp.holdings.Settled) (hN : Limits N cp.admission) :
    next.registry.size + outcome.building.length ≤ max cp.registry.size (N + 1) := by
  have hadmitted : cp.admission.exceeded cp.registry.size = false → cp.registry.size ≤ N := by
    intro hnot
    by_contra hover
    rw [hN _ (Nat.lt_of_not_le hover)] at hnot
    cases hnot
  cases h with
  | refused | failed | unbuilt => exact Nat.le_max_left _ _
  | @built c mid hadmit hb =>
    have hfew := hadmitted hadmit
    have hmid : mid.registry = cp.registry := congrArg Holdings.registry hb.holdings_eq
    have hone := size_register (lasting_settled.begins hb hs) s c
    rw [hmid] at hone
    show _ + 0 ≤ _
    omega
  | begun hadmit hb =>
    have hfew := hadmitted hadmit
    have hnext : next.registry = cp.registry := congrArg Holdings.registry hb.holdings_eq
    rw [hnext]
    show _ + 1 ≤ _
    omega

/-- No other operation adds an object or waits for one. -/
theorem size_execute (hs : cp.holdings.Settled) (s : SessionId) {op : Operation}
    (hop : op.method ≠ .create) :
    (cp.execute s op).2.registry.size + (cp.execute s op).1.building.length ≤ cp.registry.size := by
  have hmoves : Moves s Leeway.full True cp _ (cp.execute s op).2 :=
    moves_execute cp.dispatcher.within_full (Or.inl trivial) hop
  have hwait := wait?_execute hop cp s
  have hnone : (cp.execute s op).1.building.length = 0 := by
    cases ho : (cp.execute s op).1 with
    | settled result => rfl
    | waiting w =>
      cases w with
      | answer value ready => rfl
      | construction c ready =>
        rw [ho] at hwait
        exact absurd rfl (hwait c ready)
  rw [hnone]
  exact (hmoves.records hs).size_le

/-- An operation stays below any bound that leaves room for one object more than the limit. -/
theorem execute_bounded (hs : cp.holdings.Settled) (hN : Limits N cp.admission) (s : SessionId)
    (op : Operation) (hsize : cp.registry.size ≤ M) (hM : op.method = .create → N + 1 ≤ M) :
    (cp.execute s op).2.registry.size + (cp.execute s op).1.building.length ≤ M := by
  by_cases hop : op.method = .create
  · cases op with
    | create typeName params =>
      have hle := (creates cp s typeName params).size_le hs hN
      have hroom := hM rfl
      exact Nat.le_trans hle (Nat.max_le.mpr ⟨hsize, hroom⟩)
    | _ => cases hop
  · exact Nat.le_trans (size_execute hs s hop) hsize

/-! ## What is refused -/

/-- A creation is refused exactly where the limit is exceeded. -/
theorem refused_iff {p : Performance} (hp : p.creates = true) :
    p.refused = p.plane.admission.exceeded p.plane.registry.size := by
  obtain ⟨cp, s, op⟩ := p
  have hop : op.method = .create := of_decide_eq_true hp
  cases op with
  | create typeName params =>
    have hrefused : Performance.refused ⟨cp, s, .create typeName params⟩ =
        (cp.create s typeName params).1.refused := rfl
    have hcreates := creates cp s typeName params
    rw [hrefused]
    generalize (cp.create s typeName params).1 = outcome at hcreates
    generalize (cp.create s typeName params).2 = next at hcreates
    cases hcreates with
    | refused h he => exact (decide_eq_true he).trans h.symm
    | failed h he => exact (decide_eq_false he).trans h.symm
    | unbuilt fault h => exact h.symm
    | built h hb => exact (refused_register _ s _).trans h.symm
    | begun h hb => exact h.symm
  | _ => cases hop

/-- It leaves nothing behind but a count. -/
theorem next_of_refused {p : Performance} (hp : p.refused = true) :
    p.next = { p.plane with metrics := p.plane.metrics.countRejected } := by
  have hcreates : p.creates = true := by
    unfold Performance.refused at hp
    exact (Bool.and_eq_true_iff.mp hp).1
  rw [refused_iff hcreates] at hp
  obtain ⟨cp, s, op⟩ := p
  have hop : op.method = .create := of_decide_eq_true hcreates
  have hover : cp.admission.exceeded cp.registry.size = true := hp
  cases op with
  | create typeName params =>
    show (cp.create s typeName params).2 = _
    unfold create AdmissionControl.check
    rw [if_pos hover]
  | _ => cases hop

/-! ## Calls that pass on -/

theorem below_execute (hs : cp.holdings.Settled) (hN : Limits N cp.admission) (s : SessionId)
    (op : Operation) (hsize : cp.registry.size ≤ M) (hM : op.method = .create → N + 1 ≤ M) :
    Performance.Below M ⟨cp, s, op⟩ := by
  have hnext : (cp.execute s op).2.holdings.Settled :=
    lasting_settled.stretch (execute_stretch cp.dispatcher.within_full s op) hs
  have hbounded := execute_bounded hs hN s op hsize hM
  refine ⟨hs.forest.size_eq ▸ hsize, ?_⟩
  have hsame : (cp.execute s op).2.registry.size = (cp.execute s op).2.registry.all.length :=
    hnext.forest.size_eq
  show (cp.execute s op).2.registry.all.length ≤ M
  omega

theorem Act.admission_eq (h : Act cp ps n next) : next.admission = cp.admission := by
  cases h with
  | draw | leave | cache | count | replay => rfl
  | enter s =>
    obtain ⟨metrics, heq⟩ := enter_eq cp s
    rw [heq]
    rfl
  | keepAlive h =>
    rw [keepAlive_ok h]
    rfl
  | connect s =>
    obtain ⟨metrics, heq⟩ := connect_eq cp s
    rw [heq]
    rfl
  | close h => exact (steady_closeSession h).admission_eq
  | @perform s op _ _ h =>
    have hsteady := (execute_stretch cp.dispatcher.within_full s op).steady
    rw [h] at hsteady
    exact hsteady.admission_eq

theorem Acts.admission_eq (h : Acts cp ps n next) : next.admission = cp.admission := by
  induction h with
  | refl => rfl
  | tail _ ha ih => exact ha.admission_eq.trans ih

theorem Passes.admission_eq {progress : Progress} (h : Passes cp ps progress next) :
    next.admission = cp.admission := by
  cases h with
  | finished ha | repeated ha => exact ha.admission_eq
  | @suspended ps mid _ op w ha caller batch hw =>
    have hsteady := (execute_stretch mid.dispatcher.within_full caller.session op).steady
    rw [hw] at hsteady
    exact hsteady.admission_eq.trans ha.admission_eq

theorem Acts.bounded (h : Acts cp ps n next) (hs : cp.holdings.Settled)
    (hN : Limits N cp.admission) (hsize : cp.registry.size ≤ M)
    (hM : ∀ p ∈ ps, p.creates = true → N + 1 ≤ M) :
    next.registry.size ≤ M ∧ ∀ p ∈ ps, p.Below M := by
  induction h with
  | refl => exact ⟨hsize, fun p hp => by cases hp⟩
  | @tail ps qs n k mid next hm ha ih =>
    obtain ⟨hmid, hbelow⟩ := ih fun p hp => hM p (List.mem_append_left _ hp)
    have hsettled := lasting_settled.acts hm hs
    rcases ha.records hsettled with ⟨rfl, hrecords⟩ | ⟨s, op, rfl, -, rfl⟩
    · rw [List.append_nil]
      exact ⟨Nat.le_trans hrecords.size_le hmid, hbelow⟩
    · have hlimits : Limits N mid.admission := by
        rw [hm.admission_eq]
        exact hN
      have hroom : op.method = .create → N + 1 ≤ M := fun hop =>
        hM ⟨mid, s, op⟩ (List.mem_append_right _ (List.mem_singleton_self _))
          (decide_eq_true hop)
      have hlast := execute_bounded hsettled hlimits s op hmid hroom
      refine ⟨Nat.le_trans (Nat.le_add_right _ _) hlast, fun p hp => ?_⟩
      rcases List.mem_append.mp hp with hp | hp
      · exact hbelow p hp
      · rw [List.mem_singleton.mp hp]
        exact below_execute hsettled hlimits s op hmid hroom

/-- A call that passes on stays below a bound that leaves room for one object more than the limit,
also if the construction that it waits for at the end is reckoned in. -/
theorem Passes.bounded {progress : Progress} (h : Passes cp ps progress next)
    (hs : cp.holdings.Settled) (hN : Limits N cp.admission) (hsize : cp.registry.size ≤ M)
    (hM : ∀ p ∈ ps, p.creates = true → N + 1 ≤ M) :
    next.registry.size + progress.building.length ≤ M ∧ ∀ p ∈ ps, p.Below M := by
  cases h with
  | finished ha | repeated ha => exact ha.bounded hs hN hsize hM
  | @suspended ps mid _ op w ha caller batch hw =>
    obtain ⟨hmid, hbelow⟩ := ha.bounded hs hN hsize fun p hp => hM p (List.mem_append_left _ hp)
    have hsettled := lasting_settled.acts ha hs
    have hlimits : Limits N mid.admission := by
      rw [ha.admission_eq]
      exact hN
    have hroom : op.method = .create → N + 1 ≤ M := fun hop =>
      hM ⟨mid, caller.session, op⟩ (List.mem_append_right _ (List.mem_singleton_self _))
        (decide_eq_true hop)
    have hlast := execute_bounded hsettled hlimits caller.session op hmid hroom
    rw [hw] at hlast
    refine ⟨hlast, fun p hp => ?_⟩
    rcases List.mem_append.mp hp with hp | hp
    · exact hbelow p hp
    · rw [List.mem_singleton.mp hp]
      exact below_execute hsettled hlimits caller.session op hmid hroom

end ControlPlane

end MediaPlane
