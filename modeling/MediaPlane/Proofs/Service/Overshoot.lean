import MediaPlane.Proofs.ControlPlane.Admittance
import MediaPlane.Proofs.Service.History
import MediaPlane.Proofs.Service.Reachability
import MediaPlane.Proofs.Service.Release

/-
  How far the registry overshoots its limit. A creation is admitted by the number of objects at its
  start, and its element may take time. What keeps the sum small is this: the live objects, together
  with the constructions that wait, never outnumber the limit together with the creations that may
  be in progress (`Fits`). So with `k` creations in progress at a time the registry holds at most
  `k` objects more than admission would have (`overshoot_bounded`), and the bound is reached.
-/

namespace MediaPlane

open ControlPlane (Limits Passes)

/-! ## Creations in progress -/

/-- How many elements a call has under construction. -/
def CallState.constructing : CallState → Nat
  | waiting p => p.building.length
  | answered .. | cancelled => 0

theorem Progress.constructing_state (progress : Progress) (now : Nat) :
    (progress.state now).constructing = progress.building.length := by
  cases progress <;> rfl

namespace Service

variable {v : Service} {i : Input} {N k : Nat}

theorem length_building (v : Service) : v.building.length = v.total CallState.constructing := by
  unfold building total
  rw [List.length_flatMap]
  refine congrArg List.sum (List.map_congr_left fun c _ => ?_)
  unfold Call.building Call.pending?
  cases c.state <;> rfl

theorem length_building_arrive (v : Service) (r : Request) :
    (v.arrive r).building.length = v.building.length + (v.plane.begin r).1.building.length := by
  rw [length_building, length_building, total_arrive, Progress.constructing_state]

theorem length_building_setState {j : Nat} {p : Pending} (h : v.pending? j = some p)
    (plane : ControlPlane) (state : CallState) :
    (building { plane, calls := v.setState j state }).length + p.building.length =
      v.building.length + state.constructing := by
  rw [length_building, length_building]
  exact total_setState CallState.constructing h plane state

theorem building_of_pending {j : Nat} {p : Pending} (h : v.pending? j = some p) :
    p.building.length ≤ v.building.length := by
  have hgone := length_building_setState h v.plane .cancelled
  exact Nat.le.intro ((Nat.add_comm _ _).trans hgone)

/-- How many constructions wait besides the one that an input goes on with. -/
def beside (v : Service) : Input → Nat
  | .resume j _ => v.building.length - ((v.pending? j).map (·.building.length)).getD 0
  | .arrive _ | .cancel _ | .command _ => v.building.length

/-- How many creations are in progress while an input is taken in: those that wait, and the one that
is performed if there is one. -/
def creating (v : Service) (i : Input) : Nat :=
  v.beside i + if (v.performed i).any Performance.creates then 1 else 0

/-- How many creations are in progress at a time, at most, as inputs come in. -/
def mostCreating (v : Service) : List Input → Nat
  | [] => 0
  | i :: inputs => max (v.creating i) ((v.step i).mostCreating inputs)

theorem mostCreating_append (v : Service) (inputs more : List Input) :
    v.mostCreating (inputs ++ more) =
      max (v.mostCreating inputs) ((inputs.foldl step v).mostCreating more) := by
  induction inputs generalizing v with
  | nil => exact (Nat.zero_max _).symm
  | cons i inputs ih =>
    show max (v.creating i) ((v.step i).mostCreating (inputs ++ more)) = _
    rw [ih, ← Nat.max_assoc]
    rfl

theorem creates_le (hk : v.creating i ≤ k) {p : Performance} (hp : p ∈ v.performed i)
    (hcreates : p.creates = true) : v.beside i + 1 ≤ k := by
  unfold creating at hk
  rwa [if_pos (List.any_eq_true.mpr ⟨p, hp, hcreates⟩)] at hk

/-! ## What admission goes by -/

/-- Only whoever loads another probe changes what admission goes by. -/
theorem admission_step (v : Service) (i : Input) :
    (v.step i).plane.admission = v.plane.admission ∨
      ∃ probe, i = .command (.load probe) ∧
        (v.step i).plane.admission = { v.plane.admission with probe } := by
  cases i with
  | arrive r => exact Or.inl (v.passes_arrive r).admission_eq
  | resume j tick =>
    refine Or.inl ?_
    have hr := v.resumes j tick
    show (v.resume j tick).plane.admission = _
    generalize v.performed (.resume j tick) = ps at hr
    generalize v.resume j tick = next at hr
    cases hr with
    | idle | followed => rfl
    | @advanced caller wait _ _ _ _ _ _ hpasses =>
      have hsteady := ControlPlane.steady_finishWait v.plane caller.session wait
      exact hpasses.admission_eq.trans hsteady.admission_eq
  | cancel j =>
    refine Or.inl ?_
    show (v.cancel j).plane.admission = _
    unfold cancel
    split
    · rfl
    · next p _ =>
      show (v.plane.cancel p).admission = _
      rcases v.plane.cancel_cases p with heq | ⟨s, cache, heq⟩ <;> rw [heq]
      rfl
  | command c =>
    cases hsets : c.sets with
    | false => exact Or.inl (v.plane.steady_obey hsets).admission_eq
    | true =>
      cases c with
      | load probe => exact Or.inr ⟨probe, rfl, rfl⟩
      | evict | installFactory | advance => exact Or.inl rfl
      | _ => cases hsets

/-! ## Room for what is in progress -/

/-- The live objects and the constructions that wait together are within the limit and the creations
that may be in progress. -/
def Fits (N k : Nat) (v : Service) : Prop :=
  v.plane.registry.size + v.building.length ≤ N + k

theorem Fits.length_le (h : v.Fits N k) (hs : v.plane.holdings.Settled) :
    v.plane.registry.all.length ≤ N + k := by
  have hsize : v.plane.registry.size = v.plane.registry.all.length := hs.forest.size_eq
  rw [← hsize]
  exact Nat.le_trans (Nat.le_add_right _ _) h

theorem Fits.arrive (h : v.Fits N k) (hs : v.plane.holdings.Settled)
    (hN : Limits N v.plane.admission) (r : Request) (hk : v.creating (.arrive r) ≤ k) :
    (v.arrive r).Fits N k ∧ ∀ p ∈ v.performed (.arrive r), p.Below (N + k) := by
  unfold Fits at h
  obtain ⟨hsize, hbelow⟩ := (v.passes_arrive r).bounded hs hN (M := N + k - v.building.length)
    (by omega) fun p hp hcreates => by
      have hbeside : v.building.length + 1 ≤ k := creates_le hk hp hcreates
      omega
  have hbuilding := v.length_building_arrive r
  refine ⟨?_, fun p hp => ?_⟩
  · unfold Fits
    omega
  · obtain ⟨hbefore, hafter⟩ := hbelow p hp
    exact ⟨by omega, by omega⟩

theorem Fits.resumes {j tick : Nat} {ps : List Performance} {next : Service} (h : v.Fits N k)
    (hs : v.plane.holdings.Settled) (hN : Limits N v.plane.admission)
    (hps : v.performed (.resume j tick) = ps) (hk : v.creating (.resume j tick) ≤ k)
    (hr : v.Resumes j tick ps next) : next.Fits N k ∧ ∀ p ∈ ps, p.Below (N + k) := by
  unfold Fits at h ⊢
  cases hr with
  | idle => exact ⟨h, fun p hp => by cases hp⟩
  | @followed key ticket hp response =>
    refine ⟨?_, fun p hp => by cases hp⟩
    have hbuilding := length_building_setState hp v.plane (.answered response v.plane.now)
    have hwaits : (Pending.duplicate key ticket).building.length = 0 := rfl
    have hgone : CallState.constructing (.answered response v.plane.now) = 0 := rfl
    show v.plane.registry.size + List.length (building _) ≤ _
    omega
  | @advanced caller wait batch ps progress plane hp _ hpasses =>
    have hbuilding := length_building_setState hp plane (progress.state plane.now)
    rw [Progress.constructing_state] at hbuilding
    have hwaits : (Pending.running caller wait batch).building.length = wait.building.length := rfl
    have hbeside : v.beside (.resume j tick) = v.building.length - wait.building.length := by
      show v.building.length - ((v.pending? j).map (·.building.length)).getD 0 = _
      rw [hp]
      rfl
    have hown : wait.building.length ≤ v.building.length := building_of_pending hp
    -- The construction that the call waited for is not beside it, but among the objects now.
    have hmid := ControlPlane.size_finishWait hs caller.session wait
    have hsettled := ControlPlane.lasting_settled.finishWait hs caller.session wait
    have hlimits : Limits N (v.plane.finishWait caller.session wait).2.admission := by
      rw [(ControlPlane.steady_finishWait v.plane caller.session wait).admission_eq]
      exact hN
    obtain ⟨hsize, hbelow⟩ := hpasses.bounded hsettled hlimits
      (M := N + k - v.beside (.resume j tick)) (by omega) fun p hp hcreates => by
        have hothers := creates_le hk (hps ▸ hp) hcreates
        omega
    refine ⟨?_, fun p hp => ?_⟩
    · show plane.registry.size + List.length (building _) ≤ _
      omega
    · obtain ⟨hbefore, hafter⟩ := hbelow p hp
      exact ⟨by omega, by omega⟩

theorem Fits.cancel (h : v.Fits N k) (j : Nat) : (v.cancel j).Fits N k := by
  unfold Service.cancel
  cases hp : v.pending? j with
  | none => exact h
  | some p =>
    have hregistry : (v.plane.cancel p).registry = v.plane.registry := by
      rcases v.plane.cancel_cases p with heq | ⟨s, cache, heq⟩ <;> rw [heq]
      rfl
    have hbuilding := length_building_setState hp (v.plane.cancel p) .cancelled
    have hgone : CallState.constructing .cancelled = 0 := rfl
    unfold Fits at h
    show Fits N k { plane := v.plane.cancel p, calls := v.setState j .cancelled }
    unfold Fits
    rw [hregistry]
    omega

/-- With every input there stays room for what is in progress. -/
theorem Fits.step (h : v.Fits N k) (hs : v.plane.holdings.Settled)
    (hN : Limits N v.plane.admission) (hk : v.creating i ≤ k) :
    (v.step i).Fits N k ∧ ∀ p ∈ v.performed i, p.Below (N + k) := by
  cases i with
  | arrive r => exact h.arrive hs hN r hk
  | resume j tick => exact h.resumes hs hN rfl hk (v.resumes j tick)
  | cancel j => exact ⟨h.cancel j, fun p hp => by cases hp⟩
  | command c =>
    have hsize := (ControlPlane.records_obey hs c).size_le
    exact ⟨Nat.le_trans (Nat.add_le_add_right hsize v.building.length) h, fun p hp => by cases hp⟩

end Service

/-! ## Runs -/

/-- How many creations are in progress at a time, at most. -/
def Settings.mostCreating (c : Settings) (inputs : List Input) : Nat :=
  Service.mostCreating { plane := c.plane } inputs

/-- The most that is in progress in a run is a bound before an input, at it and after it. -/
theorem Settings.mostCreating_le {c : Settings} {before after : List Input} {i : Input} {k : Nat} :
    c.mostCreating (before ++ i :: after) ≤ k ↔
      (c.mostCreating before ≤ k ∧ (c.run before).creating i ≤ k) ∧
        ((c.run before).step i).mostCreating after ≤ k := by
  unfold Settings.mostCreating
  rw [Service.mostCreating_append, and_assoc]
  exact Nat.max_le.trans (and_congr_right fun _ => Nat.max_le)

/-- Admission goes by the limit that was set, and by the probe that was set or one that was
loaded. -/
theorem Settings.admission_run (c : Settings) (inputs : List Input) :
    ∃ probe, (c.run inputs).plane.admission = { c.admission with probe } ∧
      (probe = c.admission.probe ∨ .command (.load probe) ∈ inputs) := by
  induction inputs using List.reverseRecOn with
  | nil => exact ⟨c.admission.probe, rfl, Or.inl rfl⟩
  | append_singleton inputs i ih =>
    obtain ⟨probe, hadmission, hprobe⟩ := ih
    rw [c.run_succ]
    rcases (c.run inputs).admission_step i with hsame | ⟨next, rfl, hnext⟩
    · exact ⟨probe, hsame.trans hadmission, hprobe.imp_right (List.mem_append_left _)⟩
    · rw [hadmission] at hnext
      exact ⟨next, hnext, Or.inr (List.mem_append_right _ (List.mem_singleton_self _))⟩

/-- No number of objects above `N` is admitted, whichever probe a run goes by. -/
def Settings.Limited (c : Settings) (N : Nat) (inputs : List Input) : Prop :=
  ∀ probe, probe = c.admission.probe ∨ .command (.load probe) ∈ inputs →
    Limits N { c.admission with probe }

theorem Settings.Limited.earlier {c : Settings} {N : Nat} {inputs more : List Input}
    (h : c.Limited N (inputs ++ more)) : c.Limited N inputs := fun probe hprobe =>
  h probe (hprobe.imp_right (List.mem_append_left _))

theorem Settings.limits_run (c : Settings) {N : Nat} {inputs : List Input}
    (h : c.Limited N inputs) : Limits N (c.run inputs).plane.admission := by
  obtain ⟨probe, hadmission, hprobe⟩ := c.admission_run inputs
  rw [hadmission]
  exact h probe hprobe

theorem Settings.fits_run (c : Settings) {N k : Nat} {inputs : List Input}
    (hN : c.Limited N inputs) (hk : c.mostCreating inputs ≤ k) : (c.run inputs).Fits N k := by
  induction inputs using List.reverseRecOn with
  | nil => exact Nat.zero_le _
  | append_singleton inputs i ih =>
    obtain ⟨⟨hmost, hlast⟩, -⟩ := Settings.mostCreating_le.mp hk
    have hbefore := hN.earlier
    rw [c.run_succ]
    exact ((ih hbefore hmost).step (c.settled_run inputs) (c.limits_run hbefore) hlast).1

/-- What admission guarantees while an input is taken in: there are never more than so many objects,
a creation is refused exactly where the limit is exceeded, and one that is refused leaves nothing
behind but a count: no element, no object, no reference, and no name drawn. -/
structure Service.Bounded (v : Service) (i : Input) (M : Nat) : Prop where
  before : v.plane.registry.all.length ≤ M
  during : ∀ p ∈ v.performed i, p.Below M
  after : (v.step i).plane.registry.all.length ≤ M
  admits : ∀ p ∈ v.performed i, p.creates = true →
    p.refused = p.plane.admission.exceeded p.plane.registry.all.length
  refused : ∀ p ∈ v.performed i, p.refused = true →
    p.next = { p.plane with metrics := p.plane.metrics.countRejected }

/-- In every run with at most `k` creations in progress at a time, in which no number of objects
above `N` is admitted, there are at no time more than `N + k` live objects, so with creations that
do not overlap no more than `N + 1`. -/
theorem overshoot_bounded (c : Settings) {N k : Nat} (inputs : List Input)
    (hN : c.Limited N inputs) (hk : c.mostCreating inputs ≤ k) (before : List Input) (i : Input)
    (after : List Input) (hinputs : inputs = before ++ i :: after) :
    (c.run before).Bounded i (N + k) := by
  subst hinputs
  have hsettled := c.settled_run before
  have hnext : ((c.run before).step i).plane.holdings.Settled := by
    rw [← c.run_succ]
    exact c.settled_run (before ++ [i])
  have hplaces : ∀ p ∈ (c.run before).performed i, p.plane.holdings.Settled :=
    Service.performed_lasting ControlPlane.lasting_settled hsettled i
  obtain ⟨⟨hmost, hlast⟩, -⟩ := Settings.mostCreating_le.mp hk
  have hfits := c.fits_run hN.earlier hmost
  have hstep := hfits.step hsettled (c.limits_run hN.earlier) hlast
  exact
    { before := hfits.length_le hsettled
      during := hstep.2
      after := hstep.1.length_le hnext
      admits := fun p hp hcreates => by
        have hsize : p.plane.registry.size = p.plane.registry.all.length :=
          (hplaces p hp).forest.size_eq
        rw [← hsize]
        exact ControlPlane.refused_iff hcreates
      refused := fun p _ hrefused => ControlPlane.next_of_refused hrefused }

/-! ## A small run -/

namespace Sample

/-- No more than one object is admitted. -/
def tight : Settings :=
  { settings with
    admission := ⟨⟨"objects", fun live => .ofNat (if live ≤ 1 then 0 else 2)⟩, .ofNat 1⟩ }

/-- A pipeline, and two that are built beside it at the same time. -/
def overlapping : List Input :=
  [.arrive (.inSession owner (.create "MediaPipeline" .null)),
    .arrive (.inSession owner (.create "MediaPipeline" (.object [("$delay", .nat 10)]))),
    .arrive (.inSession guest (.create "MediaPipeline" (.object [("$delay", .nat 10)]))),
    .command (.advance 10),
    .resume 1 10,
    .resume 2 10]

/-- One more. -/
def surplus : Input := .arrive (.inSession guest (.create "MediaPipeline" .null))

end Sample

theorem overshoot_bounded_overlapping :
    Sample.tight.Limited 1 (Sample.overlapping ++ [Sample.surplus]) ∧
      Sample.tight.mostCreating (Sample.overlapping ++ [Sample.surplus]) ≤ 2 ∧
      (Sample.tight.run Sample.overlapping).Bounded Sample.surplus (1 + 2) ∧
      (Sample.tight.run Sample.overlapping).plane.registry.all.length = 1 + 2 ∧
      ((Sample.tight.run Sample.overlapping).performed Sample.surplus).any
        Performance.refused = true := by
  have hlimited : Sample.tight.Limited 1 (Sample.overlapping ++ [Sample.surplus]) := by
    intro probe hprobe live hlive
    have hkept : probe = Sample.tight.admission.probe :=
      hprobe.resolve_right (by simp [Sample.overlapping, Sample.surplus])
    subst hkept
    show (Binary64.ofNat 1).lt (.ofNat (if live ≤ 1 then 0 else 2)) = true
    rw [if_neg (Nat.not_le.mpr hlive)]
    decide +kernel
  have hcreating : Sample.tight.mostCreating (Sample.overlapping ++ [Sample.surplus]) ≤ 2 := by
    decide +kernel
  exact ⟨hlimited, hcreating,
    overshoot_bounded Sample.tight _ hlimited hcreating Sample.overlapping Sample.surplus [] rfl,
    by decide +kernel, by decide +kernel⟩

end MediaPlane
