import MediaPlane.Proofs.ControlPlane.SessionGauge
import MediaPlane.Proofs.Service.History

/-
  How far the gauge of sessions can be trusted. It is never above the number of sessions, and below
  it by no more than the sessions that came about tacitly in the run (`session_gauge_lags`): those
  that are not there when an operation addresses an object for them, when an element is built for
  them, or when somebody subscribes a handler for them. In a run without such sessions the gauge is
  exact (`session_gauge_exact`). In other runs it need not be (`session_gauge_behind`).
-/

namespace MediaPlane

/-- The session that a handler is subscribed for. -/
def Command.subscriber? : Command → Option SessionId
  | connectHandler _ s _ _ | shareHandler _ s _ _ => some s
  | _ => none

namespace ControlPlane

variable {cp : ControlPlane} {k : Nat}

/-- How many sessions a command brings about tacitly. -/
def tacitOf (cp : ControlPlane) (c : Command) : Nat :=
  match c.subscriber? with
  | none => 0
  | some s => appears s cp (cp.obey c)

theorem lags_obey (hl : cp.Lags k) (c : Command) : (cp.obey c).Lags (k + cp.tacitOf c) := by
  have hobeys := cp.obeys c
  unfold tacitOf
  generalize cp.obey c = next at hobeys ⊢
  cases hobeys with
  | failed => exact hl.mono (Nat.le_add_right _ _)
  | keptAlive h => exact (quiet_keepAlive h).lags hl
  | connected s => exact hl.told (tells_connect (s := s) cp s)
  | @closed s _ _ _ h => exact hl.told (tells_closeSession (s := s) h)
  | swept => exact hl.sweep
  | handlerConnected object s eventType receiver =>
    exact lags_connectHandler hl object s eventType receiver
  | handlerShared object s id => exact (shares cp object s id _).tells.lags hl
  | shutDown => exact lags_shutdown cp k
  | evicted | emitted | handlerTaken | handlerDropped | factoryInstalled | engineSet | probeLoaded
  | advanced => exact (Quiet.of_eq rfl rfl).lags hl

end ControlPlane

namespace Service

variable {v : Service} {k : Nat}

/-- How many sessions an input brings about tacitly: an operation does, the end of a construction,
or a handler that is subscribed. -/
def tacit (v : Service) (i : Input) : Nat :=
  ((v.performed i).map Performance.tacit).sum +
    match i with
    | .resume j tick =>
      match v.pending? j with
      | some (.running caller wait _) =>
        if wait.ready ≤ tick then
          ControlPlane.appears caller.session v.plane (v.plane.finishWait caller.session wait).2
        else 0
      | _ => 0
    | .command c => v.plane.tacitOf c
    | .arrive _ | .cancel _ => 0

/-- How many sessions come about tacitly as inputs come in. -/
def tacitAlong (v : Service) : List Input → Nat
  | [] => 0
  | i :: inputs => v.tacit i + (v.step i).tacitAlong inputs

theorem lags_resume (hl : v.plane.Lags k) (j tick : Nat) :
    (v.resume j tick).plane.Lags (k + v.tacit (.resume j tick)) := by
  have hr := v.resumes j tick
  unfold tacit
  generalize v.performed (.resume j tick) = ps at hr ⊢
  generalize v.resume j tick = next at hr ⊢
  cases hr with
  | idle | followed => exact hl.mono (Nat.le_add_right _ _)
  | @advanced caller wait batch _ _ _ hp hready hpasses =>
    have hbuilt := hpasses.lags (ControlPlane.lags_finishWait hl caller.session wait)
    simp only [hp, if_pos hready]
    rw [Nat.add_comm _ (ControlPlane.appears ..), ← Nat.add_assoc]
    exact hbuilt

theorem lags_cancel (hl : v.plane.Lags k) (j : Nat) : (v.cancel j).plane.Lags k := by
  unfold cancel
  split
  · exact hl
  · next p _ =>
    show (v.plane.cancel p).Lags k
    rcases v.plane.cancel_cases p with heq | ⟨s, cache, heq⟩ <;> rw [heq]
    · exact hl
    · have hleave := (ControlPlane.quiet_leave v.plane s).lags hl
      exact (ControlPlane.Quiet.of_eq rfl rfl).lags hleave

/-- With every input the gauge falls back by no more than the sessions that come about tacitly. -/
theorem lags_step (hl : v.plane.Lags k) (i : Input) : (v.step i).plane.Lags (k + v.tacit i) := by
  cases i with
  | arrive r => exact (v.passes_arrive r).lags hl
  | resume j tick => exact lags_resume hl j tick
  | cancel j => exact lags_cancel hl j
  | command c =>
    have hobey := ControlPlane.lags_obey hl c
    show (v.plane.obey c).Lags (k + (0 + v.plane.tacitOf c))
    rwa [Nat.zero_add]

theorem lags_steps (hl : v.plane.Lags k) (inputs : List Input) :
    (inputs.foldl step v).plane.Lags (k + v.tacitAlong inputs) := by
  induction inputs generalizing v k with
  | nil => exact hl
  | cons i inputs ih =>
    have hrest := ih (lags_step hl i)
    rw [Nat.add_assoc] at hrest
    exact hrest

end Service

/-! ## Runs -/

/-- How many sessions come about tacitly in a run. -/
def Settings.tacit (c : Settings) (inputs : List Input) : Nat :=
  Service.tacitAlong { plane := c.plane } inputs

/-- In every run, whatever its interleaving, the gauge of sessions is not above their number, and
below it by no more than the sessions that came about tacitly. -/
theorem session_gauge_lags (c : Settings) (inputs : List Input) :
    (c.run inputs).plane.Lags (c.tacit inputs) := by
  have hstart : c.plane.Lags 0 := nofun
  have hrun := Service.lags_steps (v := { plane := c.plane }) hstart inputs
  rwa [Nat.zero_add] at hrun

/-- In every run in which no session comes about tacitly, whatever its interleaving, the gauge of
sessions says, once it is set, how many there are. -/
theorem session_gauge_exact (c : Settings) (inputs : List Input) (htacit : c.tacit inputs = 0)
    (n : Nat) (hn : (c.run inputs).plane.metrics.sessionsActive = some n) :
    n = (c.run inputs).plane.sessions.size := by
  have hlags := session_gauge_lags c inputs
  rw [htacit] at hlags
  obtain ⟨hle, hge⟩ := hlags n hn
  exact Nat.le_antisymm hle hge

/-! ## Small runs -/

namespace Sample

/-- The guest connects before it hears what the owner's pipeline plays. -/
def announced : List Input :=
  [.arrive (.inSession owner (.create "MediaPipeline" .null)),
    .command (.connect guest),
    .command (.connectHandler pipeline guest "Played" .silent)]

end Sample

theorem session_gauge_exact_announced :
    Sample.settings.tacit Sample.announced = 0 ∧
      (Sample.settings.run Sample.announced).plane.metrics.sessionsActive = some 2 ∧
      2 = (Sample.settings.run Sample.announced).plane.sessions.size := by
  have htacit : Sample.settings.tacit Sample.announced = 0 := by decide +kernel
  have hgauge : (Sample.settings.run Sample.announced).plane.metrics.sessionsActive = some 2 := by
    decide +kernel
  exact ⟨htacit, hgauge, session_gauge_exact Sample.settings Sample.announced htacit 2 hgauge⟩

/-- The guest subscribes a handler without being there: it is now, but the gauge still says that
only the owner is. -/
theorem session_gauge_behind :
    (Sample.settings.run Sample.inputs).plane.metrics.sessionsActive = some 1 ∧
      (Sample.settings.run Sample.inputs).plane.sessions.size = 2 := by
  decide +kernel

end MediaPlane
