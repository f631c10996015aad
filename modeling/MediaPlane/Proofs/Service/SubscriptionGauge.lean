import MediaPlane.Proofs.ControlPlane.SubscriptionGauge
import MediaPlane.Proofs.Service.Anchoring
import MediaPlane.Proofs.Service.History

/-
  The gauge of subscriptions in a run. As long as names are told apart, and callers that share a
  handler do not choose one that is still to be drawn, no subscription takes the place of another
  one, and the gauge is right between any two steps (`heard_run`). Calls may be given up.
-/

namespace MediaPlane

namespace ControlPlane

variable {cp next : ControlPlane} {ps : List Performance} {progress : Progress}

theorem Passes.heard (h : Passes cp ps progress next) (hh : cp.Heard) : next.Heard := by
  cases h with
  | finished ha | repeated ha => exact ha.heard hh
  | @suspended ps mid _ op w ha caller batch hw =>
    have hlast := heard_execute (ha.heard hh) caller.session op
    rw [hw] at hlast
    exact hlast

theorem Heard.finishWait (hh : cp.Heard) (s : SessionId) (w : Wait) :
    (cp.finishWait s w).2.Heard := by
  cases w with
  | construction c ready => exact hh.register s c
  | answer value ready => exact hh

theorem Heard.cancel (hh : cp.Heard) (p : Pending) : (cp.cancel p).Heard := by
  have hsound := lasting_anchored.cancel hh.sound p
  rcases cp.cancel_cases p with heq | ⟨s, cache, heq⟩ <;> rw [heq] at hsound ⊢
  · exact hh
  · exact ⟨hsound, apart_of_dispatcher_eq hh.apart rfl ⟨rfl, Nat.le_refl _⟩,
      hh.gauged.of_eq rfl rfl⟩

/-! ## Commands -/

theorem Heard.obey (hh : cp.Heard) {c : Command}
    (hshared : ∀ object s id handler, c = .shareHandler object s id handler →
      ¬ cp.names.Ahead id.text) : (cp.obey c).Heard := by
  have hsound := lasting_anchored.obey hh.sound c
  have hchange : ∀ {s next}, Change s Leeway.full cp next → next.Gauged → next.Heard :=
    fun hc => hh.after (.settled (.one hc))
  have hsame : ∀ {next : ControlPlane}, next.holdings.Settled ∧ next.Anchored →
      next.dispatcher.subscriptions = cp.dispatcher.subscriptions → next.names = cp.names →
      next.metrics = cp.metrics → next.Heard := by
    intro next hnext hsubs hnames hmetrics
    have ho : cp.names.Onward next.names := hnames ▸ ⟨rfl, Nat.le_refl _⟩
    exact ⟨hnext, (sheds_of_eq hsubs).apart ho hh.apart,
      hh.gauged.of_eq (congrArg Metrics.subscriptionsActive hmetrics) hsubs⟩
  have hobeys := cp.obeys c
  generalize cp.obey c = next at hobeys hsound ⊢
  cases hobeys with
  | failed => exact hh
  | @keptAlive s _ h =>
    refine hchange (.keepAlive h) ?_
    rw [keepAlive_ok h]
    exact hh.gauged.of_eq rfl rfl
  | connected s => exact hchange .connect (hh.gauged.connect s)
  | @closed s _ _ _ h => exact hchange (.close (s := s) trivial h) (gauged_closeSession h)
  | swept => exact hh.sweep
  | emitted => exact hchange (.raise (s := default) _) (hh.gauged.of_eq rfl rfl)
  | handlerConnected object s eventType receiver =>
    have hmoves : Moves s Leeway.full True cp 0 (cp.connectHandler object s eventType receiver).2 :=
      moves_connectHandler (Or.inl trivial) object eventType receiver
    exact hmoves.heard hh
  | handlerShared object s id hheld =>
    exact hh.shareHandler object s hheld (hshared object s id _ rfl)
  | shutDown => exact hh.shutdown
  | evicted | handlerTaken | handlerDropped | factoryInstalled | engineSet | probeLoaded
  | advanced => exact hsame hsound rfl rfl rfl

end ControlPlane

/-! ## Runs -/

theorem Service.heard_step {v : Service} (hh : v.plane.Heard) {i : Input}
    (hshared : ∀ object s id handler, i = .command (.shareHandler object s id handler) →
      ¬ v.plane.names.Ahead id.text) : (v.step i).plane.Heard := by
  cases i with
  | arrive r => exact (v.passes_arrive r).heard hh
  | resume j tick =>
    have hr := v.resumes j tick
    show (v.resume j tick).plane.Heard
    generalize v.performed (.resume j tick) = ps at hr
    generalize v.resume j tick = next at hr ⊢
    cases hr with
    | idle | followed => exact hh
    | @advanced caller wait _ _ _ _ _ _ hp => exact hp.heard (hh.finishWait caller.session wait)
  | cancel j =>
    show (v.cancel j).plane.Heard
    unfold cancel
    split
    · exact hh
    · exact hh.cancel _
  | command c =>
    exact hh.obey fun object s id handler hc =>
      hshared object s id handler (congrArg Input.command hc)

/-- Whoever shares a handler does it under a name that will not be drawn. -/
def Settings.SharesApart (c : Settings) (inputs : List Input) : Prop :=
  ∀ before after object s id handler,
    inputs = before ++ .command (.shareHandler object s id handler) :: after →
      ¬ (c.run before).plane.names.Ahead id.text

theorem Settings.SharesApart.earlier {c : Settings} {inputs more : List Input}
    (h : c.SharesApart (inputs ++ more)) : c.SharesApart inputs := by
  rintro before after object s id handler rfl
  refine h before (after ++ more) object s id handler ?_
  rw [List.append_assoc]
  rfl

theorem Settings.heard_run (c : Settings) (hnames : Function.Injective c.names.name)
    (inputs : List Input) (hshared : c.SharesApart inputs) : (c.run inputs).plane.Heard := by
  induction inputs using List.reverseRecOn with
  | nil =>
    have hapart : c.plane.Apart := by
      refine ⟨hnames, fun id sub hsub => ?_⟩
      cases (Std.ExtTreeMap.getElem?_empty (a := id)).symm.trans hsub
    exact ⟨⟨c.settled_run [], c.anchored_run []⟩, hapart, nofun⟩
  | append_singleton inputs i ih =>
    rw [c.run_succ]
    exact Service.heard_step (ih hshared.earlier) fun object s id handler hi =>
      hshared inputs [] object s id handler (by rw [hi])

end MediaPlane
