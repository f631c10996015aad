import MediaPlane.Proofs.ControlPlane.Recording
import MediaPlane.Proofs.Service.Run

/-
  What is performed in a run. Each input has its performances: those of a request when it arrives,
  and of a call when it goes on; commands perform nothing. The history of a run is all of them in
  their order. What is proved of a step that passes through acts (`Passes`) carries over to steps of
  the service with what is said here of arrivals (`passes_arrive`) and of calls that go on
  (`resumes`). What commands do is on record without a performance (`records_obey`).
-/

namespace MediaPlane

namespace Service

variable {v : Service}

/-- What calls perform while an input is taken in. -/
def performed (v : Service) : Input → List Performance
  | .arrive r => v.plane.beginPerforms r
  | .resume i tick => ((v.pending? i).map (v.plane.resumePerforms tick)).getD []
  | .cancel _ | .command _ => []

/-- What calls perform as inputs come in. -/
def history (v : Service) : List Input → List Performance
  | [] => []
  | i :: inputs => v.performed i ++ (v.step i).history inputs

theorem history_append (v : Service) (inputs more : List Input) :
    v.history (inputs ++ more) = v.history inputs ++ (inputs.foldl step v).history more := by
  induction inputs generalizing v with
  | nil => rfl
  | cons i inputs ih =>
    show v.performed i ++ (v.step i).history (inputs ++ more) = _
    rw [ih, ← List.append_assoc]
    rfl

theorem passes_arrive (v : Service) (r : Request) :
    ControlPlane.Passes v.plane (v.performed (.arrive r)) (v.plane.begin r).1
      (v.arrive r).plane := ControlPlane.passes_begin v.plane r

/-- How a call goes on: it does not, it gets the response that it waits for, or it passes through
acts of its own. -/
inductive Resumes (v : Service) (i tick : Nat) : List Performance → Service → Prop where
  | idle : Resumes v i tick [] v
  | followed {key : RetryKey} {ticket : Nat} (h : v.pending? i = some (.duplicate key ticket))
      (response : Response) :
      Resumes v i tick [] { v with calls := v.setState i (.answered response v.plane.now) }
  | advanced {caller : Caller} {wait : Wait} {batch : Option Batch} {ps : List Performance}
      {progress : Progress} {plane : ControlPlane}
      (h : v.pending? i = some (.running caller wait batch)) (hready : wait.ready ≤ tick)
      (hp : ControlPlane.Passes (v.plane.finishWait caller.session wait).2 ps progress plane) :
      Resumes v i tick ps { plane, calls := v.setState i (progress.state plane.now) }

/-- What is not ready performs nothing. -/
theorem resumePerforms_of_none {cp : ControlPlane} {tick : Nat} {p : Pending}
    (h : cp.resume? tick p = none) : cp.resumePerforms tick p = [] := by
  cases p with
  | duplicate key ticket => rfl
  | running caller wait batch =>
    unfold ControlPlane.resume? at h
    unfold ControlPlane.resumePerforms
    simp only at h ⊢
    split at h
    · next hearly => rw [if_pos hearly]
    · cases batch <;> cases h

theorem resumes (v : Service) (i tick : Nat) :
    v.Resumes i tick (v.performed (.resume i tick)) (v.resume i tick) := by
  show v.Resumes i tick (((v.pending? i).map (v.plane.resumePerforms tick)).getD []) _
  unfold resume
  cases hp : v.pending? i with
  | none => exact .idle
  | some p =>
    rw [Option.bind_some, Option.map_some, Option.getD_some]
    cases hr : v.plane.resume? tick p with
    | none =>
      rw [resumePerforms_of_none hr]
      exact .idle
    | some r =>
      cases p with
      | duplicate key ticket =>
        obtain ⟨response, -, rfl⟩ := Option.map_eq_some_iff.mp hr
        exact .followed hp _
      | running caller wait batch =>
        exact .advanced hp (ControlPlane.ready_of_resume? hr) (ControlPlane.passes_resume? hr)

/-- What lasts holds wherever an operation is performed. -/
theorem performed_lasting {Q : ControlPlane → Prop} (hQ : ControlPlane.Lasting Q)
    (hq : Q v.plane) (i : Input) : ∀ p ∈ v.performed i, Q p.plane := by
  cases i with
  | arrive r => exact hQ.passed (v.passes_arrive r) hq
  | resume j tick =>
    have hr := v.resumes j tick
    generalize v.performed (.resume j tick) = ps at hr ⊢
    generalize v.resume j tick = next at hr
    cases hr with
    | idle | followed => exact fun p hp => by cases hp
    | @advanced caller wait _ _ _ _ _ _ hp =>
      exact hQ.passed hp (hQ.finishWait hq caller.session wait)
  | cancel | command => exact fun p hp => by cases hp

end Service

/-- What calls perform in a run. -/
def Settings.history (c : Settings) (inputs : List Input) : List Performance :=
  Service.history { plane := c.plane } inputs

theorem Settings.history_succ (c : Settings) (inputs : List Input) (i : Input) :
    c.history (inputs ++ [i]) = c.history inputs ++ (c.run inputs).performed i := by
  unfold Settings.history
  rw [Service.history_append]
  exact congrArg _ (List.append_nil _)

/-! ## Commands -/

namespace ControlPlane

variable {cp : ControlPlane}

theorem records_obey (hs : cp.holdings.Settled) (c : Command) : Records cp 0 (cp.obey c) := by
  have hobeys := cp.obeys c
  generalize cp.obey c = next at hobeys ⊢
  cases hobeys with
  | failed => exact Records.refl cp
  | keptAlive h =>
    rw [keepAlive_ok h]
    exact .of_eq rfl rfl rfl rfl
  | connected s => exact records_connect cp s
  | closed h => exact records_closeSession hs h
  | swept => exact records_sweep hs
  | emitted => exact records_raise cp _
  | handlerConnected object s eventType receiver =>
    have hmoves : Moves s Leeway.full True cp 0 (cp.connectHandler object s eventType receiver).2 :=
      moves_connectHandler (Or.inl trivial) object eventType receiver
    exact hmoves.records hs
  | handlerShared object s id => exact records_shareHandler cp object s id _
  | shutDown => exact records_shutdown hs
  | evicted | handlerTaken | handlerDropped | factoryInstalled | engineSet | probeLoaded
  | advanced => exact .of_eq rfl rfl rfl rfl

end ControlPlane

end MediaPlane
