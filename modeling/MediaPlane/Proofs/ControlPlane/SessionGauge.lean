import MediaPlane.Proofs.ControlPlane.Footing
import MediaPlane.Proofs.ControlPlane.Recording

/-
  The gauge of sessions. Who enters or connects to a session that is not there sets the gauge, and
  so does whatever closes sessions. But a touch, too, brings its session about if it is not there,
  and tells nobody. So a step sets the gauge, or leaves the sessions as they are, or brings one
  about tacitly (`Tells`). The gauge is never too high, and too low by no more than the sessions
  that came about tacitly (`Lags`).
-/

namespace MediaPlane

namespace ControlPlane

variable {cp mid next : ControlPlane} {s u : SessionId} {P : Leeway} {tacit : Prop}
  {ps : List Performance} {n k : Nat}

/-! ## What a step tells -/

/-- Neither the gauge nor who is there changes. -/
structure Quiet (cp next : ControlPlane) : Prop where
  gauge_eq : next.metrics.sessionsActive = cp.metrics.sessionsActive
  contains_eq : ∀ u, next.sessions.contains u = cp.sessions.contains u

/-- The gauge is set, nothing changes, or session `s` comes about tacitly. -/
inductive Tells (s : SessionId) (tacit : Prop) (cp next : ControlPlane) : Prop where
  | set (h : next.metrics.sessionsActive = some next.sessions.size)
  | quiet (h : Quiet cp next)
  | tacitly (ht : tacit) (hs : cp.sessions.contains s = false)
      (hgauge : next.metrics.sessionsActive = cp.metrics.sessionsActive)
      (hnew : ∀ u, next.sessions.contains u = true ↔ s = u ∨ cp.sessions.contains u = true)

theorem Quiet.of_eq (hgauge : next.metrics.sessionsActive = cp.metrics.sessionsActive)
    (hsessions : next.sessions = cp.sessions) : Quiet cp next :=
  ⟨hgauge, fun u => congrArg (SessionTable.contains · u) hsessions⟩

theorem Quiet.refl (cp : ControlPlane) : Quiet cp cp := ⟨rfl, fun _ => rfl⟩

/-- Who is there already does not come about. -/
theorem quiet_of_contains (hgauge : next.metrics.sessionsActive = cp.metrics.sessionsActive)
    (hs : cp.sessions.contains s = true)
    (h : ∀ u, next.sessions.contains u = true ↔ s = u ∨ cp.sessions.contains u = true) :
    Quiet cp next := by
  refine ⟨hgauge, fun u => Bool.eq_iff_iff.mpr ((h u).trans (or_iff_right_of_imp ?_))⟩
  rintro rfl
  exact hs

theorem tells_of_touched (ht : tacit ∨ cp.sessions.contains s = true)
    (hgauge : next.metrics.sessionsActive = cp.metrics.sessionsActive)
    (h : ∀ u, next.sessions.contains u = true ↔ s = u ∨ cp.sessions.contains u = true) :
    Tells s tacit cp next := by
  cases hs : cp.sessions.contains s with
  | true => exact .quiet (quiet_of_contains hgauge hs h)
  | false =>
    rw [hs] at ht
    exact .tacitly (ht.resolve_right Bool.false_ne_true) hs hgauge h

/-! ## The steps -/

theorem tells_enter (cp : ControlPlane) (u : SessionId) : Tells s tacit cp (cp.enter u) := by
  unfold enter
  simp only
  split
  · exact .set rfl
  · next hcreated =>
    have hu : cp.sessions.contains u = true := by
      have hfst : (cp.sessions.enter u cp.now).1 = !cp.sessions.contains u :=
        SessionTable.ensure_fst cp.sessions u cp.now
      rw [hfst] at hcreated
      simpa using hcreated
    exact .quiet (quiet_of_contains rfl hu fun x => cp.sessions.contains_enter u x cp.now)

theorem tells_connect (cp : ControlPlane) (u : SessionId) : Tells s tacit cp (cp.connect u) := by
  unfold connect
  simp only
  split
  · exact .set rfl
  · next hcreated =>
    rw [SessionTable.ensure_fst] at hcreated
    have hu : cp.sessions.contains u = true := by simpa using hcreated
    refine .quiet (quiet_of_contains rfl hu fun x => ?_)
    rw [← SessionTable.contains_ensure cp.sessions u x cp.now]
    exact (congrArg (· = true) (SessionTable.contains_update _ u x _)).to_iff

theorem quiet_leave (cp : ControlPlane) (u : SessionId) : Quiet cp (cp.leave u) :=
  ⟨rfl, fun x => cp.sessions.contains_update u x _⟩

theorem quiet_keepAlive (h : cp.keepAlive u = .ok next) : Quiet cp next := by
  rw [keepAlive_ok h]
  exact ⟨rfl, fun x => cp.sessions.contains_update u x _⟩

theorem tells_touch (ht : tacit ∨ cp.sessions.contains s = true) (x : ObjectId) (k : Strength) :
    Tells s tacit cp (cp.withSessions (cp.sessions.touch s x k cp.now)) :=
  tells_of_touched ht rfl fun u => cp.sessions.contains_touch s u x k cp.now

theorem tells_closeSession {forced : Bool} (h : cp.closeSession u forced = .ok (n, next)) :
    Tells s tacit cp next := by
  obtain ⟨closure, holdings, -, -, rfl⟩ := closeSession_ok h
  exact .set rfl

theorem sessionsActive_teardown (cp : ControlPlane) (reason : RemovalReason)
    (gone : List MediaObject) :
    (cp.teardown reason gone).metrics.sessionsActive = cp.metrics.sessionsActive := by
  unfold teardown
  split
  · rfl
  · show (gone.foldl dismantle cp).metrics.sessionsActive = _
    rw [metrics_dismantleAll]

theorem quiet_dropReferences (cp : ControlPlane) (s : SessionId) (ids : List ObjectId)
    (reason : RemovalReason) : Quiet cp (cp.dropReferences s ids reason) where
  gauge_eq := sessionsActive_teardown _ reason _
  contains_eq := fun u => contains_dropReferences cp s u ids reason

theorem quiet_subscribeUnder (cp : ControlPlane) (s : SessionId) (key : HandlerKey)
    (receiver : Receiver) : Quiet cp (cp.subscribeUnder s key receiver).2 := by
  have hsessions : (cp.subscribeUnder s key receiver).2.sessions = cp.sessions :=
    congrArg Holdings.sessions (holdings_subscribeUnder cp s key receiver)
  refine .of_eq ?_ hsessions
  rw [subscribeUnder_snd]
  rcases confirmed_cases (cp.attached s key receiver) key.object with heq | heq <;> rw [heq]
  all_goals
    unfold ensureLive
    split <;> rfl

theorem Move.tells (h : Move s P tacit cp next) : Tells s tacit cp next := by
  cases h with
  | mock | annotate | raise | unsubscribe => exact .quiet (.of_eq rfl rfl)
  | built receiver => cases receiver <;> exact .quiet (.of_eq rfl rfl)
  | enter => exact tells_enter cp s
  | touch k hs => exact tells_touch hs _ k
  | dropReferences ids reason => exact .quiet (quiet_dropReferences cp s ids reason)
  | subscribe key receiver => exact .quiet (quiet_subscribeUnder cp s key receiver)
  | close hP h => exact tells_closeSession h

theorem tells_register (cp : ControlPlane) (s : SessionId) (c : Construction) :
    Tells s True cp (cp.register s c).2 := by
  unfold register
  split
  · exact .quiet (.of_eq rfl rfl)
  · exact tells_of_touched (Or.inl trivial) rfl fun u =>
      cp.sessions.contains_touch s u c.id .strong cp.now

theorem Begins.quiet {c : Construction} (h : cp.Begins c next) : Quiet cp next := by
  obtain ⟨mock, rfl⟩ := h.eq
  exact .of_eq rfl rfl

theorem Quiet.tells (h : Quiet cp mid) (h' : Tells s tacit mid next) : Tells s tacit cp next := by
  cases h' with
  | set hset => exact .set hset
  | quiet h' =>
    have hcontains := fun u => (h'.contains_eq u).trans (h.contains_eq u)
    exact .quiet ⟨h'.gauge_eq.trans h.gauge_eq, hcontains⟩
  | tacitly ht hs hgauge hnew =>
    simp only [h.contains_eq] at hs hnew
    exact .tacitly ht hs (hgauge.trans h.gauge_eq) hnew

theorem Creates.tells {outcome : Outcome} (h : Creates s cp outcome next) :
    Tells s True cp next := by
  cases h with
  | refused | failed | unbuilt => exact .quiet (.of_eq rfl rfl)
  | @built c mid _ hb => exact hb.quiet.tells (tells_register mid s c)
  | begun _ hb => exact .quiet hb.quiet

theorem Shares.tells {object : ObjectId} {id : SubscriptionId} {handler : Handler}
    (h : Shares s object id handler cp next) : Tells s True cp next := by
  cases h with
  | missed => exact .quiet (.refl cp)
  | touched => exact tells_touch (Or.inl trivial) object .touched
  | shared =>
    exact tells_of_touched (Or.inl trivial) rfl fun u =>
      cp.sessions.contains_touch s u object .touched cp.now

/-! ## How far the gauge lags behind -/

/-- The gauge of sessions, once set, is not above their number, and below it by `k` at most. -/
def Lags (k : Nat) (cp : ControlPlane) : Prop :=
  ∀ n, cp.metrics.sessionsActive = some n → n ≤ cp.sessions.size ∧ cp.sessions.size ≤ n + k

theorem Lags.mono {m : Nat} (h : cp.Lags k) (hk : k ≤ m) : cp.Lags m := fun n hn =>
  ⟨(h n hn).1, Nat.le_trans (h n hn).2 (Nat.add_le_add_left hk n)⟩

theorem lags_of_set (h : cp.metrics.sessionsActive = some cp.sessions.size) (k : Nat) :
    cp.Lags k := by
  intro n hn
  rw [h] at hn
  cases hn
  exact ⟨Nat.le_refl _, Nat.le_add_right _ _⟩

theorem Quiet.lags (h : Quiet cp next) (hl : cp.Lags k) : next.Lags k := by
  unfold Lags
  rw [h.gauge_eq, SessionTable.size_eq_of_contains h.contains_eq]
  exact hl

/-- One if a session has come about. -/
def appears (s : SessionId) (cp next : ControlPlane) : Nat :=
  if cp.sessions.contains s = false ∧ next.sessions.contains s = true then 1 else 0

theorem Tells.lags_or (h : Tells s tacit cp next) (hl : cp.Lags k) :
    next.Lags k ∨ tacit ∧ cp.sessions.contains s = false ∧ next.sessions.contains s = true ∧
      next.Lags (k + 1) := by
  cases h with
  | set h => exact Or.inl (lags_of_set h k)
  | quiet h => exact Or.inl (h.lags hl)
  | tacitly ht hs hgauge hnew =>
    refine Or.inr ⟨ht, hs, (hnew s).mpr (Or.inl rfl), fun n hn => ?_⟩
    rw [hgauge] at hn
    have hsize := SessionTable.size_eq_succ hs hnew
    obtain ⟨hle, hlag⟩ := hl n hn
    omega

theorem Tells.lags (h : Tells s tacit cp next) (hl : cp.Lags k) :
    next.Lags (k + appears s cp next) := by
  rcases h.lags_or hl with hnext | ⟨-, hs, hnew, hnext⟩
  · exact hnext.mono (Nat.le_add_right _ _)
  · unfold appears
    rw [if_pos ⟨hs, hnew⟩]
    exact hnext

/-- Where no session comes about tacitly, the gauge does not fall back. -/
theorem Lags.told (hl : cp.Lags k) (h : Tells s False cp next) : next.Lags k :=
  (h.lags_or hl).resolve_right fun htacitly => htacitly.1

theorem Moves.lags (h : Moves s P False cp n next) (hl : cp.Lags k) : next.Lags k := by
  induction h with
  | refl => exact hl
  | tail _ hm ih | aside _ _ hm ih => exact ih.told hm.tells
  | @answered u _ _ mid _ result ih => exact (quiet_leave mid u).lags ih

/-- Nothing changes for a session that is there. -/
theorem Quiet.lags_or (h : Quiet cp next)
    (hl : cp.Lags k ∨ cp.sessions.contains s = true ∧ cp.Lags (k + 1)) :
    next.Lags k ∨ next.sessions.contains s = true ∧ next.Lags (k + 1) :=
  hl.imp h.lags fun ⟨hs, hmid⟩ => ⟨(h.contains_eq s).trans hs, h.lags hmid⟩

/-- A chain of moves brings about one session tacitly, its own, and only if it is there in the
end. -/
theorem Moves.lags_or (h : Moves s P tacit cp n next) (hl : cp.Lags k) :
    next.Lags k ∨ next.sessions.contains s = true ∧ next.Lags (k + 1) := by
  induction h with
  | refl => exact Or.inl hl
  | tail _ hm ih =>
    cases hm.tells with
    | set h => exact Or.inl (lags_of_set h k)
    | quiet h => exact h.lags_or ih
    -- Once the session is there, only a close takes it away, and that sets the gauge.
    | tacitly ht hnot hgauge hnew =>
      rcases ih with hmid | ⟨hs, -⟩
      · exact ((Tells.tacitly ht hnot hgauge hnew).lags_or hmid).imp_right fun h => h.2.2
      · rw [hs] at hnot
        cases hnot
  | aside _ _ hm ih =>
    cases hm.tells with
    | set h => exact Or.inl (lags_of_set h k)
    | quiet h => exact h.lags_or ih
    | tacitly ht => exact ht.elim
  | @answered u _ _ mid _ result ih => exact (quiet_leave mid u).lags_or ih

/-- Where the session is there it cannot come about tacitly, and where it is not the chain ends with
it or without it. -/
theorem lags_of_moves
    (h : ∀ tacit, tacit ∨ cp.sessions.contains s = true → Moves s P tacit cp n next)
    (hl : cp.Lags k) : next.Lags (k + appears s cp next) := by
  cases hs : cp.sessions.contains s with
  | true => exact ((h False (Or.inr hs)).lags hl).mono (Nat.le_add_right _ _)
  | false =>
    rcases (h True (Or.inl trivial)).lags_or hl with hnext | ⟨hnew, hnext⟩
    · exact hnext.mono (Nat.le_add_right _ _)
    · unfold appears
      rw [if_pos ⟨hs, hnew⟩]
      exact hnext

theorem lags_execute (hl : cp.Lags k) (s : SessionId) (op : Operation) :
    (cp.execute s op).2.Lags (k + appears s cp (cp.execute s op).2) := by
  by_cases hop : op.method = .create
  · cases op with
    | create typeName params => exact (creates cp s typeName params).tells.lags hl
    | _ => cases hop
  · exact lags_of_moves
      (fun _ hs => moves_execute cp.dispatcher.within_full hs hop) hl

theorem lags_finishWait (hl : cp.Lags k) (s : SessionId) (w : Wait) :
    (cp.finishWait s w).2.Lags (k + appears s cp (cp.finishWait s w).2) := by
  cases w with
  | construction c ready => exact (tells_register cp s c).lags hl
  | answer value ready => exact hl.mono (Nat.le_add_right _ _)

theorem lags_connectHandler (hl : cp.Lags k) (object : ObjectId) (s : SessionId)
    (eventType : String) (receiver : Receiver) :
    (cp.connectHandler object s eventType receiver).2.Lags
      (k + appears s cp (cp.connectHandler object s eventType receiver).2) :=
  lags_of_moves (P := Leeway.full)
    (fun _ hs => moves_connectHandler hs object eventType receiver) hl

theorem Lags.sweep (hl : cp.Lags k) : cp.sweep.2.Lags k := by
  rcases cp.sweep_cases with heq | heq <;> rw [heq]
  · exact hl
  · exact lags_of_set rfl k

theorem lags_shutdown (cp : ControlPlane) (k : Nat) : cp.shutdown.Lags k := by
  have hempty : cp.shutdown.sessions.size = SessionTable.empty.size := by
    refine SessionTable.size_eq_of_contains fun u => ?_
    rw [SessionTable.contains_eq, find?_shutdown]
    rfl
  refine lags_of_set ?_ k
  rw [hempty]
  rfl

/-! ## Calls that pass on -/

end ControlPlane

/-- One if the operation brings its session about, which was not entered. -/
def Performance.tacit (p : Performance) : Nat := ControlPlane.appears p.session p.plane p.next

namespace ControlPlane

variable {cp next : ControlPlane} {ps : List Performance} {n k : Nat}

theorem Act.lags (h : Act cp ps n next) (hl : cp.Lags k) :
    next.Lags (k + (ps.map Performance.tacit).sum) := by
  cases h with
  | draw | cache | count | replay => exact (Quiet.of_eq rfl rfl).lags hl
  | enter s => exact hl.told (tells_enter (s := s) cp s)
  | leave s => exact (quiet_leave cp s).lags hl
  | keepAlive h => exact (quiet_keepAlive h).lags hl
  | connect s => exact hl.told (tells_connect (s := s) cp s)
  | @close s forced n _ h => exact hl.told (tells_closeSession (s := s) h)
  | @perform s op _ _ h =>
    have hperform := lags_execute hl s op
    rw [h] at hperform
    show next.Lags (k + (appears s cp (cp.execute s op).2 + 0))
    rw [h]
    exact hperform

theorem Acts.lags (h : Acts cp ps n next) (hl : cp.Lags k) :
    next.Lags (k + (ps.map Performance.tacit).sum) := by
  induction h with
  | refl => exact hl
  | tail _ ha ih =>
    rw [List.map_append, List.sum_append, ← Nat.add_assoc]
    exact ha.lags ih

/-- As a call passes on, the gauge falls back by no more than the sessions that operations bring
about. -/
theorem Passes.lags {progress : Progress} (h : Passes cp ps progress next) (hl : cp.Lags k) :
    next.Lags (k + (ps.map Performance.tacit).sum) := by
  cases h with
  | finished ha | repeated ha => exact ha.lags hl
  | @suspended ps mid _ op w ha caller batch hw =>
    have hlast := lags_execute (ha.lags hl) caller.session op
    have hown : Performance.tacit ⟨mid, caller.session, op⟩ =
        appears caller.session mid (mid.execute caller.session op).2 := rfl
    rw [List.map_append, List.sum_append, ← Nat.add_assoc, List.map_singleton,
      List.sum_singleton, hown]
    rw [hw] at hlast ⊢
    exact hlast

end ControlPlane

end MediaPlane
