import MediaPlane.Proofs.ControlPlane.Change

/-
  The stages of a call. A call starts, and goes on after a wait; each time it advances by a stretch
  of changes in its session, and then has its response or waits again.
-/

namespace MediaPlane

namespace ControlPlane

variable {cp mid next : ControlPlane} {s : SessionId} {P : Leeway}

/-- A response is counted, and kept for repetitions; nothing else changes. -/
theorem respond_snd (cp : ControlPlane) (caller : Caller) (result : Except Failure Value) :
    ∃ metrics cache, (cp.respond caller result).2 = { cp with metrics, cache } := by
  unfold respond
  simp only
  split <;> exact ⟨_, _, rfl⟩

/-- How a stretch of a call ends: with a response if nothing is waited for, and else suspended. -/
inductive Concludes (caller : Caller) (cp : ControlPlane) :
    Option Wait → Progress × ControlPlane → Prop where
  | answered (result : Except Failure Value) :
      Concludes caller cp none (cp.respond caller result)
  | suspended (wait : Wait) (batch : Option Batch) :
      Concludes caller cp (some wait) (.suspended (.running caller wait batch), cp)

theorem Concludes.snd_eq {caller : Caller} {w : Option Wait} {r : Progress × ControlPlane}
    (h : Concludes caller cp w r) : ∃ metrics cache, r.2 = { cp with metrics, cache } := by
  cases h with
  | answered result => exact respond_snd cp caller result
  | suspended wait batch => exact ⟨_, _, rfl⟩

/-- A stretch of a call: changes in its session, and then a response or a wait. -/
def Advances (cp : ControlPlane) (caller : Caller) (P : Leeway)
    (r : Progress × ControlPlane) : Prop :=
  ∃ w mid, Stretch caller.session P cp w mid ∧ Concludes caller mid w r

theorem Advances.after {caller : Caller} {r : Progress × ControlPlane}
    (h : Changes caller.session P cp mid) (h' : mid.Advances caller P r) :
    cp.Advances caller P r := by
  obtain ⟨w, last, hs, hc⟩ := h'
  exact ⟨w, last, hs.after h, hc⟩

theorem advances_respond {caller : Caller} (h : Changes caller.session P cp mid)
    (result : Except Failure Value) : cp.Advances caller P (mid.respond caller result) :=
  ⟨none, mid, .settled h, .answered result⟩

theorem advances_proceed {caller : Caller} {outcome : Outcome}
    (h : Stretch caller.session P cp outcome.wait? mid) :
    cp.Advances caller P (mid.proceed caller outcome) := by
  cases outcome with
  | settled result => exact advances_respond (h.changes.tail .leave) result
  | waiting w => exact ⟨some w, mid, h, .suspended w none⟩

theorem advances_proceedBatch {caller : Caller} {outcome : BatchOutcome}
    (h : Stretch caller.session P cp outcome.wait? mid) :
    cp.Advances caller P (mid.proceedBatch caller outcome) := by
  cases outcome with
  | completed results => exact advances_respond (h.changes.tail .leave) _
  | waiting w batch => exact ⟨some w, mid, h, .suspended w (some batch)⟩

theorem perform_of_inTransaction (cp : ControlPlane) (caller : Caller) {op : Operation}
    (h : op.method.inTransaction = true) :
    cp.perform caller op =
      ((cp.enter caller.session).execute caller.session op).2.proceed caller
        ((cp.enter caller.session).execute caller.session op).1 := by
  cases op with
  | transaction | closeSession | keepAlive | connect | ping => cases h
  | create | invoke | ref | unref | release | describe | subscribe | unsubscribe => rfl

/-- An operation may close the session that it runs in. -/
theorem perform_advances (hP : cp.dispatcher.Within P) (caller : Caller) {op : Operation}
    (hclose : ∀ forced, op = .closeSession forced → P.closes caller.session forced) :
    cp.Advances caller P (cp.perform caller op) := by
  have henter : Changes caller.session P cp (cp.enter caller.session) := Changes.one .enter
  have hP' := within_of_steady henter.steady hP
  cases op with
  | ping => exact advances_respond .refl _
  | keepAlive =>
    unfold perform
    simp only
    split
    · exact advances_respond .refl _
    · next heq => exact advances_respond (Changes.one (.keepAlive heq)) _
  | connect => exact advances_respond (Changes.one .connect) _
  | closeSession forced =>
    unfold perform
    simp only
    split
    · exact advances_respond .refl _
    · next heq => exact advances_respond (Changes.one (.close (hclose forced rfl) heq)) _
  | transaction entries =>
    exact Advances.after henter (advances_proceedBatch (runEntries_stretch hP' _ [] [] entries))
  | create | invoke | ref | unref | release | describe | subscribe | unsubscribe =>
    rw [perform_of_inTransaction cp caller rfl]
    exact Advances.after henter (advances_proceed (execute_stretch hP' caller.session _))

/-- The session that a request runs in: the one it names, or a new one. -/
def sessionOf (cp : ControlPlane) (r : Request) : SessionId := r.session.getD ⟨cp.drawName.1⟩

/-- The caller that a request makes. -/
def callerOf (cp : ControlPlane) (r : Request) (guard : Option Guard) : Caller where
  id := r.id
  named := r.session
  session := cp.sessionOf r
  label := methodLabel r.method
  guard := guard

theorem start_of_session {r : Request} (hr : r.session = some s) (cp : ControlPlane)
    (guard : Option Guard) :
    cp.start r guard = match r.operation with
      | .error e => cp.respond (cp.callerOf r guard) (.error e)
      | .ok op => cp.perform (cp.callerOf r guard) op := by
  unfold start sessionFor callerOf sessionOf
  rw [hr]
  rfl

theorem session_callerOf {r : Request} (hr : r.session = some s) (cp : ControlPlane)
    (guard : Option Guard) : (cp.callerOf r guard).session = s := by
  unfold callerOf sessionOf
  rw [hr]
  rfl

theorem echoed_callerOf {r : Request} (hr : r.session = some s) (cp : ControlPlane)
    (guard : Option Guard) : (cp.callerOf r guard).echoed = some s := by
  unfold Caller.echoed callerOf sessionOf
  rw [hr]
  rfl

theorem start_advances (hP : cp.dispatcher.Within P) (r : Request) (guard : Option Guard)
    (hclose : ∀ forced, r.operation = .ok (.closeSession forced) →
      P.closes (cp.sessionOf r) forced) :
    cp.Advances (cp.callerOf r guard) P (cp.start r guard) := by
  have hsession : ∃ mid, cp.sessionFor r.session = (cp.sessionOf r, mid) ∧
      Changes (cp.sessionOf r) P cp mid := by
    unfold sessionFor sessionOf
    cases r.session with
    | some s => exact ⟨cp, rfl, .refl⟩
    | none => exact ⟨cp.drawName.2, rfl, Changes.one .draw⟩
  obtain ⟨mid, heq, hmid⟩ := hsession
  unfold start
  rw [heq]
  refine Advances.after hmid ?_
  show mid.Advances (cp.callerOf r guard) P _
  simp only
  cases hop : r.operation with
  | error e => exact advances_respond .refl _
  | ok op =>
    refine perform_advances (within_of_steady hmid.steady hP) _ fun forced ho => ?_
    rw [ho] at hop
    exact hclose forced hop

/-- A request starts, whatever is called back into on the way. -/
theorem advances_start (cp : ControlPlane) (r : Request) (guard : Option Guard) :
    cp.Advances (cp.callerOf r guard) Leeway.full (cp.start r guard) :=
  start_advances cp.dispatcher.within_full r guard fun _ _ => trivial

theorem steady_finishWait (cp : ControlPlane) (s : SessionId) (w : Wait) :
    Steady cp (cp.finishWait s w).2 := by
  cases w with
  | construction c ready => exact steady_register cp s c
  | answer value ready => exact Steady.refl cp

/-- What a wait leaves behind once it is over: a construction is registered. -/
theorem resume?_advances (hP : cp.dispatcher.Within P) {tick : Nat} {caller : Caller}
    {wait : Wait} {batch : Option Batch} {r : Progress × ControlPlane}
    (h : cp.resume? tick (.running caller wait batch) = some r) :
    (cp.finishWait caller.session wait).2.Advances caller P r := by
  have hsteady := steady_finishWait cp caller.session wait
  unfold resume? at h
  simp only at h
  split at h
  · cases h
  · cases batch with
    | none =>
      cases h
      exact advances_proceed (.settled .refl)
    | some b =>
      cases h
      exact advances_proceedBatch (runEntries_stretch (within_of_steady hsteady hP) _ _ _ _)

end ControlPlane

end MediaPlane
