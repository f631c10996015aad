import MediaPlane.Proofs.ControlPlane.Ancestry
import MediaPlane.Proofs.Service.History
import MediaPlane.Proofs.Service.Reachability

/-
  Where the ids of a run come from. An id is drawn before its element is built, and the object may
  enter the registry long after that, or never; meanwhile others come and go, and calls are given
  up. Commands are barren (`barren_obey`), calls rear objects (`rears_step`), and the ancestry of
  ids is kept along the way (`ancestry_run`), so that unique texts make unique ids
  (`nodup_constructed_run`).
-/

namespace MediaPlane

namespace ControlPlane

variable {cp next : ControlPlane} {s : SessionId}

/-! ## Commands -/

theorem barren_expire? (hs : cp.holdings.Settled) (h : cp.expire? s = some next) :
    Barren cp next := by
  obtain ⟨closure, holdings, hc, rfl⟩ := expire?_eq_some h
  exact barren_closedBy hs hc

theorem barren_expireAll (hs : cp.holdings.Settled) (ss : List SessionId) :
    Barren cp (cp.expireAll ss).2 := by
  induction ss generalizing cp with
  | nil => exact .refl cp
  | cons s ss ih =>
    unfold expireAll
    split
    · exact ih hs
    · next heq => exact (barren_expire? hs heq).trans (ih (settled_expire? hs heq))

theorem barren_sweep (hs : cp.holdings.Settled) : Barren cp cp.sweep.2 := by
  rcases cp.sweep_cases with heq | heq <;> rw [heq]
  · exact .refl cp
  · exact (barren_expireAll hs _).trans (.of_eq ⟨rfl, Nat.le_refl _⟩ rfl rfl)

theorem barren_shareHandler (cp : ControlPlane) (object : ObjectId) (s : SessionId)
    (id : SubscriptionId) (handler : Handler) :
    Barren cp (cp.shareHandler object s id handler).2 := by
  have hshares := shares cp object s id handler
  generalize (cp.shareHandler object s id handler).2 = next at hshares ⊢
  cases hshares with
  | missed => exact .refl cp
  | touched | shared => exact .of_eq ⟨rfl, Nat.le_refl _⟩ rfl rfl

theorem barren_obey (hs : cp.holdings.Settled) (c : Command) : Barren cp (cp.obey c) := by
  have hobeys := cp.obeys c
  generalize cp.obey c = next at hobeys ⊢
  cases hobeys with
  | failed => exact .refl cp
  | keptAlive h => exact barren_keepAlive h
  | connected s => exact barren_connect cp s
  | closed h => exact barren_closeSession hs h
  | swept => exact barren_sweep hs
  | emitted => exact barren_raise cp _
  | handlerConnected object s eventType receiver =>
    have hmoves : Moves s Leeway.full True cp 0 (cp.connectHandler object s eventType receiver).2 :=
      moves_connectHandler (Or.inl trivial) object eventType receiver
    exact hmoves.barren hs
  | handlerShared object s id => exact barren_shareHandler cp object s id _
  | shutDown => exact .of_cut (steady_shutdown cp).onward (cut_shutdown hs) (journal_shutdown cp)
  | evicted | handlerTaken | handlerDropped | factoryInstalled | engineSet | probeLoaded
  | advanced => exact .of_eq ⟨rfl, Nat.le_refl _⟩ rfl rfl

theorem barren_cancel (cp : ControlPlane) (p : Pending) : Barren cp (cp.cancel p) := by
  rcases cp.cancel_cases p with heq | ⟨s, cache, heq⟩ <;> rw [heq]
  · exact .refl cp
  · exact .of_eq ⟨rfl, Nat.le_refl _⟩ rfl rfl

end ControlPlane

/-! ## Runs -/

/-- The construction that a call waits for. -/
def CallState.constructions : CallState → List Construction
  | waiting pending => pending.constructions
  | answered .. | cancelled => []

theorem Progress.constructions_state (progress : Progress) (now : Nat) :
    (progress.state now).constructions = progress.constructions := by
  cases progress <;> rfl

namespace Service

open ControlPlane (Rears)

variable {v : Service} {i : Nat} {p : Pending}

/-- The constructions under way. -/
def constructions (v : Service) : List Construction :=
  v.calls.flatMap fun c => c.state.constructions

theorem perm_constructions (h : v.pending? i = some p) (plane : ControlPlane) (state : CallState) :
    ∃ others, v.constructions.Perm (p.constructions ++ others) ∧
      (constructions { plane, calls := v.setState i state }).Perm
        (state.constructions ++ others) := by
  obtain ⟨c, hc, hstate⟩ := pending?_eq_some.mp h
  obtain ⟨others, hbefore, hafter⟩ :=
    perm_flatMap_modify (fun c => c.state.constructions) hc fun c => { c with state }
  rw [hstate] at hbefore
  exact ⟨others, hbefore, hafter⟩

/-- A step rears objects as its calls do, and gives up what its cancelled call was waiting for. -/
theorem rears_step (hs : v.plane.holdings.Settled) (i : Input) :
    Rears v.plane v.constructions (v.step i).plane (v.step i).constructions := by
  cases i with
  | arrive r =>
    refine ((v.passes_arrive r).rears hs v.constructions).giveUp (List.Perm.subperm ?_)
    show List.Perm ((v.calls ++ [_]).flatMap _) _
    rw [List.flatMap_append, List.flatMap_singleton, Progress.constructions_state]
    exact List.perm_append_comm
  | resume i tick =>
    have hr := v.resumes i tick
    show Rears _ _ (v.resume i tick).plane (v.resume i tick).constructions
    generalize v.performed (.resume i tick) = ps at hr
    generalize v.resume i tick = next at hr ⊢
    cases hr with
    | idle => exact .refl
    | followed h response =>
      obtain ⟨others, hbefore, hafter⟩ :=
        perm_constructions h v.plane (.answered response v.plane.now)
      exact Rears.refl.giveUp (hafter.trans hbefore.symm).subperm
    | @advanced caller wait batch ps progress plane h _ hp =>
      obtain ⟨others, hbefore, hafter⟩ := perm_constructions h plane (progress.state plane.now)
      rw [Progress.constructions_state] at hafter
      have hfinished := ControlPlane.rears_finishWait v.plane caller.session wait others
      have hmid := ControlPlane.lasting_settled.finishWait hs caller.session wait
      have hpassed := hp.rears hmid others
      have hall := (Rears.refl.giveUp hbefore.symm.subperm).trans (hfinished.trans hpassed)
      exact hall.giveUp hafter.subperm
  | cancel i =>
    show Rears _ _ (v.cancel i).plane (v.cancel i).constructions
    unfold cancel
    split
    · exact .refl
    · next p h =>
      obtain ⟨others, hbefore, hafter⟩ := perm_constructions h (v.plane.cancel p) .cancelled
      have hothers : others.Subperm (p.constructions ++ others) :=
        (List.sublist_append_right _ _).subperm
      refine ((ControlPlane.barren_cancel v.plane p).rears v.constructions).giveUp ?_
      exact hafter.subperm.trans (hothers.trans hbefore.symm.subperm)
  | command c => exact (ControlPlane.barren_obey hs c).rears v.constructions

/-- Performances are steps on the way. -/
theorem rears_performed (hs : v.plane.holdings.Settled) (i : Input) :
    ∀ p ∈ v.performed i, ∃ during, Rears v.plane v.constructions p.plane during ∧
      p.next.names.Onward (v.step i).plane.names := by
  cases i with
  | arrive r =>
    intro p hp
    exact ⟨_, (v.passes_arrive r).performed hs v.constructions p hp⟩
  | resume i tick =>
    have hr := v.resumes i tick
    show ∀ p ∈ v.performed (.resume i tick), ∃ during, _ ∧
      p.next.names.Onward (v.resume i tick).plane.names
    generalize v.performed (.resume i tick) = ps at hr ⊢
    generalize v.resume i tick = next at hr ⊢
    cases hr with
    | idle | followed => exact fun p hp => by cases hp
    | @advanced caller wait batch ps progress plane h _ hpasses =>
      intro p hp
      obtain ⟨others, hbefore, -⟩ := perm_constructions h plane (progress.state plane.now)
      have hfinished := ControlPlane.rears_finishWait v.plane caller.session wait others
      obtain ⟨hrears, honward⟩ := hpasses.performed
        (ControlPlane.lasting_settled.finishWait hs caller.session wait) others p hp
      exact ⟨others, (Rears.refl.giveUp hbefore.symm.subperm).trans (hfinished.trans hrears),
        honward⟩
  | cancel | command => exact fun p hp => by cases hp

end Service

namespace Settings

open ControlPlane (Rears)

variable (c : Settings)

theorem rears_run (before later : List Input) :
    Rears (c.run before).plane (c.run before).constructions (c.run (before ++ later)).plane
      (c.run (before ++ later)).constructions := by
  induction later using List.reverseRecOn with
  | nil =>
    rw [List.append_nil]
    exact .refl
  | append_singleton later i ih =>
    rw [← List.append_assoc, c.run_succ]
    exact ih.trans (Service.rears_step (c.settled_run _) i)

theorem rears_history (inputs : List Input) :
    ∀ p ∈ c.history inputs, ∃ during, Rears c.plane [] p.plane during ∧
      p.next.names.Onward (c.run inputs).plane.names := by
  induction inputs using List.reverseRecOn with
  | nil => exact fun p hp => by cases hp
  | append_singleton inputs i ih =>
    intro p hp
    rw [c.run_succ]
    rw [c.history_succ] at hp
    have hstep := Service.rears_step (c.settled_run inputs) i
    rcases List.mem_append.mp hp with hp | hp
    · obtain ⟨during, hrears, honward⟩ := ih p hp
      exact ⟨during, hrears, honward.trans hstep.onward⟩
    · obtain ⟨during, hrears, honward⟩ := Service.rears_performed (c.settled_run inputs) i p hp
      exact ⟨during, (c.rears_run [] inputs).trans hrears, honward⟩

theorem settled_history (inputs : List Input) :
    ∀ p ∈ c.history inputs, p.plane.holdings.Settled := by
  induction inputs using List.reverseRecOn with
  | nil => exact fun p hp => by cases hp
  | append_singleton inputs i ih =>
    intro p hp
    rw [c.history_succ] at hp
    rcases List.mem_append.mp hp with hp | hp
    · exact ih p hp
    · exact Service.performed_lasting ControlPlane.lasting_settled (c.settled_run inputs) i p hp

/-- At the start there is nothing, and no text has been drawn that matters. -/
theorem ancestry_start : c.plane.Ancestry c.names.drawn [] where
  drawn_le := Nat.le_refl _
  lineage := ⟨[], .nil, rfl, List.nil_sublist _⟩
  accounted := (List.Sublist.refl []).subperm
  live := by
    intro x hx
    simp [Settings.plane, ControlPlane.registry, Registry.contains] at hx
  below := by
    intro x p hp
    have hlive := Registry.contains_of_parentOf hp
    simp [Settings.plane, ControlPlane.registry, Registry.contains] at hlive
  adopted := nofun
  conceived := nofun

theorem ancestry_run (inputs : List Input) :
    (c.run inputs).plane.Ancestry c.names.drawn (c.run inputs).constructions :=
  (c.rears_run [] inputs).ancestry c.ancestry_start

end Settings

/-- Where unique identifiers are drawn, no two elements that were built have the same id. -/
theorem Settings.nodup_constructed_run (c : Settings) {inputs : List Input}
    (hu : (c.run inputs).plane.names.UniqueSince c.names.drawn) :
    (c.run inputs).plane.journal.constructed.Nodup := (c.ancestry_run inputs).nodup_constructed hu

/-- Nor does an id enter the registry twice. -/
theorem Settings.nodup_registered_run (c : Settings) {inputs : List Input}
    (hu : (c.run inputs).plane.names.UniqueSince c.names.drawn) :
    (c.run inputs).plane.journal.registered.Nodup :=
  (List.nodup_append.mp ((c.ancestry_run inputs).nodup_accounted hu)).1

end MediaPlane
