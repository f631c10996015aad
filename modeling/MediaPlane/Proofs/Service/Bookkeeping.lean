import MediaPlane.Proofs.Service.Ledger

/-
  Every step keeps the books on calls (`Service.booked_step`). A call that arrives is entered as
  what the retry cache makes of it; one that goes on or is given up moves on in its own account;
  commands at most evict old responses and let time pass.
-/

namespace MediaPlane

namespace ControlPlane

variable {cp : ControlPlane} {retention : Nat} {calls : List Call} {c : Call} {i : Nat}
  {P : Leeway}

/-! ## Stages of a call -/

/-- An advance takes no time, and touches the cache only when an execution is answered. -/
theorem Advances.books {caller : Caller} {r : Progress × ControlPlane}
    (h : cp.Advances caller P r) :
    r.2.now = cp.now ∧
      ((∃ wait batch, r.1 = .suspended (.running caller wait batch) ∧ r.2.cache = cp.cache) ∨
        ∃ response, r.1 = .finished response ∧
          (caller.guard = none → r.2.cache = cp.cache) ∧
          ∀ g, caller.guard = some g → r.2.cache = cp.cache.complete g response cp.now) := by
  obtain ⟨w, mid, hst, hc⟩ := h
  have hs := hst.steady
  cases hc with
  | suspended wait batch => exact ⟨hs.now_eq, Or.inl ⟨wait, batch, rfl, hs.cache_eq⟩⟩
  | answered result =>
    have hnow : (mid.respond caller result).2.now = cp.now := by
      unfold respond
      simp only
      split <;> exact hs.now_eq
    refine ⟨hnow, Or.inr ⟨_, rfl, fun hg => ?_, fun g hg => ?_⟩⟩
    · unfold respond
      rw [hg]
      exact hs.cache_eq
    · unfold respond
      rw [hg, ← hs.cache_eq, ← hs.now_eq]
      rfl

/-- A waiting call advances, and the books are kept. -/
theorem ledger_advance (hl : Ledger retention cp.cache cp.now calls) {caller : Caller} {wait : Wait}
    {batch : Option Batch} (hc : calls[i]? = some c)
    (hp : c.state = .waiting (.running caller wait batch)) {r : Progress × ControlPlane}
    (ha : cp.Advances caller P r) :
    Ledger retention r.2.cache r.2.now (Ledger.moved calls i (r.1.state r.2.now)) := by
  obtain ⟨hnow, hends⟩ := ha.books
  have hacc := hl.accounted i c hc
  rw [hnow]
  cases hacc with
  | @keyless request state hkey hguard =>
    obtain ⟨caller', wait', batch', heq, hnone⟩ := hguard _ hp
    cases heq
    have hquiet : ∀ state, (∀ p, state = .waiting p →
        ∃ caller wait batch, p = .running caller wait batch ∧ caller.guard = none) →
        Ledger retention cp.cache cp.now (Ledger.moved calls i state) := fun state hstate =>
      hl.move_quietly hc hp (.keyless hkey hstate) fun g hg => by cases hg
    rcases hends with ⟨wait', batch', hr, hcache⟩ | ⟨response, hr, hcache, -⟩
    · rw [hr, hcache]
      refine hquiet _ fun p hp' => ⟨caller, wait', batch', ?_, hnone⟩
      cases hp'
      rfl
    · rw [hr, hcache hnone]
      exact hquiet _ fun p hp' => by cases hp'
  | @executing request g caller' wait' batch' hkey hguard hentry hended =>
    cases hp
    rcases hends with ⟨wait', batch', hr, hcache⟩ | ⟨response, hr, -, hcache⟩
    · rw [hr, hcache]
      exact hl.move_quietly hc rfl (.executing hkey hguard hentry hended) fun _ _ => ⟨_, rfl⟩
    · rw [hr, hcache g hguard]
      exact hl.concluded ⟨_, hc, rfl, rfl⟩ response
  | following | executed | abandoned | followed | unfollowed | replayed => cases hp

theorem cancel_of_no_guard (cp : ControlPlane) {caller : Caller} (h : caller.guard = none)
    (wait : Wait) (batch : Option Batch) :
    cp.cancel (.running caller wait batch) = cp.leave caller.session := by
  unfold cancel
  simp only [h]

theorem cancel_of_guard (cp : ControlPlane) {caller : Caller} {g : Guard}
    (h : caller.guard = some g) (wait : Wait) (batch : Option Batch) :
    cp.cancel (.running caller wait batch) =
      { cp.leave caller.session with cache := cp.cache.abandon g } := by
  unfold cancel
  simp only [h]
  rfl

/-! ## Commands -/

/-- A command other than an eviction leaves the cache alone, and at most lets time pass. -/
theorem obey_passes (cp : ControlPlane) {c : Command} (hc : c ≠ .evict) :
    (cp.obey c).cache = cp.cache ∧ cp.now ≤ (cp.obey c).now := by
  cases hsets : c.sets with
  | false =>
    have hsteady := cp.steady_obey hsets
    exact ⟨hsteady.cache_eq, Nat.le_of_eq hsteady.now_eq.symm⟩
  | true =>
    cases c with
    | evict => exact absurd rfl hc
    | installFactory | load => exact ⟨rfl, Nat.le_refl _⟩
    | advance ms => exact ⟨rfl, Nat.le_add_right _ _⟩
    | _ => cases hsets

/-- Commands only evict old responses and let time pass. -/
theorem ledger_obey (hl : Ledger retention cp.cache cp.now calls) (c : Command) :
    Ledger retention (cp.obey c).cache (cp.obey c).now calls := by
  by_cases hc : c = .evict
  · subst hc
    exact hl.evict
  · obtain ⟨hcache, hnow⟩ := cp.obey_passes hc
    rw [hcache]
    exact hl.later hnow

/-! ## Arrivals -/

theorem begin_of_keyless {r : Request} (h : r.key? = none) (cp : ControlPlane) :
    cp.begin r = cp.start r none := by
  unfold Request.key? at h
  unfold begin
  cases hid : r.id with
  | none => rfl
  | some id =>
    cases hsession : r.session with
    | none => rfl
    | some session =>
      rw [hid, hsession] at h
      cases h

theorem begin_of_key {r : Request} {k : RetryKey} (h : r.key? = some k) (cp : ControlPlane) :
    cp.begin r = match cp.cache.begin k cp.now with
      | (.fresh guard, cache) => { cp with cache }.start r (some guard)
      | (.replay response, _) =>
        (.finished response, { cp with metrics := cp.metrics.countReplay })
      | (.pending ticket, _) =>
        (.suspended (.duplicate k ticket), { cp with metrics := cp.metrics.countReplay }) := by
  unfold Request.key? at h
  unfold begin
  cases hid : r.id with
  | none =>
    rw [hid] at h
    cases h
  | some id =>
    cases hsession : r.session with
    | none =>
      rw [hid, hsession] at h
      cases h
    | some session =>
      rw [hid, hsession] at h
      cases h
      rfl

end ControlPlane

namespace Ledger

theorem moved_concat (calls : List Call) (c : Call) (state : CallState) :
    moved (calls ++ [c]) calls.length state = calls ++ [{ c with state }] := by
  unfold moved
  induction calls with
  | nil => rfl
  | cons d calls ih =>
    show d :: List.modify (calls ++ [c]) calls.length _ = d :: (calls ++ [_])
    rw [ih]

end Ledger

namespace Service

variable {v : Service} {retention : Nat} {k : RetryKey} {i : Nat}

theorem arrive_eq (v : Service) (r : Request) :
    v.arrive r =
      { plane := (v.plane.begin r).2
        calls := v.calls ++
          [{ request := r
             found := v.finds r
             state := (v.plane.begin r).1.state (v.plane.begin r).2.now }] } := rfl

/-- The books are in order, with this time of retention. -/
def Booked (v : Service) (retention : Nat) : Prop :=
  Ledger retention v.plane.cache v.plane.now v.calls

/-- What is left when a repetition arrives: it is counted, and nothing else happens. -/
def repeated (v : Service) (r : Request) (found : Arrival) (state : CallState) : Service where
  plane := { v.plane with metrics := v.plane.metrics.countReplay }
  calls := v.calls ++ [{ request := r, found := some found, state }]

theorem arrive_of_inFlight {r : Request} {n : Nat} (hkey : r.key? = some k)
    (h : v.plane.cache.entries[k]? = some (.inFlight n)) :
    v.arrive r = v.repeated r (.pending n) (.waiting (.duplicate k n)) := by
  have hb := RetryCache.begin_of_inFlight h v.plane.now
  have hbegin := ControlPlane.begin_of_key hkey v.plane
  rw [hb] at hbegin
  have hfinds : v.finds r = some (.pending n) := by
    unfold finds
    rw [hkey, Option.map_some, hb]
  rw [arrive_eq, hbegin, hfinds]
  rfl

theorem arrive_of_completed {r : Request} {response : Response} {t : Nat}
    (hkey : r.key? = some k) (h : v.plane.cache.entries[k]? = some (.completed response t))
    (hnow : v.plane.now ≤ t + v.plane.cache.retention) :
    v.arrive r = v.repeated r (.replay response) (.answered response v.plane.now) := by
  have hb := RetryCache.begin_of_completed h hnow
  have hbegin := ControlPlane.begin_of_key hkey v.plane
  rw [hb] at hbegin
  have hfinds : v.finds r = some (.replay response) := by
    unfold finds
    rw [hkey, Option.map_some, hb]
  rw [arrive_eq, hbegin, hfinds]
  rfl

/-- A call without a key is entered as one that keeps no key busy. -/
theorem booked_arrive_keyless (hl : v.Booked retention) {r : Request} (hkey : r.key? = none) :
    (v.arrive r).Booked retention := by
  have hbegin := ControlPlane.begin_of_keyless hkey v.plane
  have hfinds : v.finds r = none := by
    unfold finds
    rw [hkey]
    rfl
  have ha := ControlPlane.advances_start v.plane r none
  -- It is as if the call had waited for a moment when it arrived.
  have hnoted : Ledger retention v.plane.cache v.plane.now (v.calls ++
      [⟨r, none, .waiting (.running (v.plane.callerOf r none) (.answer .null 0) none)⟩]) := by
    refine hl.note (.keyless hkey ?_) ?_ ?_ ?_
    · intro p hp
      cases hp
      exact ⟨_, _, _, rfl, rfl⟩
    · intro g hg
      cases hg
    · intro k n _ hf
      cases hf
    · intro k response _ hf
      cases hf
  have hdone := ControlPlane.ledger_advance hnoted List.getElem?_concat_length rfl ha
  rw [Ledger.moved_concat] at hdone
  unfold Booked
  rw [arrive_eq, hbegin, hfinds]
  exact hdone

/-- A call that finds its key fresh opens it, and executes. -/
theorem booked_arrive_fresh (hl : v.Booked retention) {r : Request} {g : Guard}
    {cache : RetryCache} (hkey : r.key? = some k)
    (hb : v.plane.cache.begin k v.plane.now = (.fresh g, cache)) :
    (v.arrive r).Booked retention := by
  have hbegin := ControlPlane.begin_of_key hkey v.plane
  rw [hb] at hbegin
  have hfinds : v.finds r = some (.fresh g) := by
    unfold finds
    rw [hkey, Option.map_some, hb]
  have ha := ControlPlane.advances_start { v.plane with cache } r (some g)
  have hopened := hl.opened hb hkey (v.plane.callerOf r (some g)) rfl (.answer .null 0) none
  have hdone := ControlPlane.ledger_advance hopened List.getElem?_concat_length rfl ha
  rw [Ledger.moved_concat] at hdone
  unfold Booked
  rw [arrive_eq, hbegin, hfinds]
  exact hdone

/-- A call that finds an execution in flight follows it. -/
theorem booked_arrive_pending (hl : v.Booked retention) {r : Request} {n : Nat}
    (hkey : r.key? = some k) (hentry : v.plane.cache.entries[k]? = some (.inFlight n)) :
    (v.arrive r).Booked retention := by
  rw [arrive_of_inFlight hkey hentry]
  refine hl.note (.following hkey) ?_ ?_ ?_
  · intro g hg
    cases hg
  · intro k' n' hkey' hf
    cases hkey.symm.trans hkey'
    cases hf
    exact hentry
  · intro k' response _ hf
    cases hf

/-- A call that finds a response replays it. -/
theorem booked_arrive_replay (hl : v.Booked retention) {r : Request} {response : Response}
    {t : Nat} (hkey : r.key? = some k)
    (hentry : v.plane.cache.entries[k]? = some (.completed response t))
    (hnow : v.plane.now ≤ t + v.plane.cache.retention) : (v.arrive r).Booked retention := by
  rw [arrive_of_completed hkey hentry hnow]
  refine hl.note (.replayed hkey) ?_ ?_ ?_
  · intro g hg
    cases hg
  · intro k' n _ hf
    cases hf
  · intro k' response' hkey' hf
    cases hkey.symm.trans hkey'
    cases hf
    exact ⟨t, hentry⟩

theorem booked_arrive (hl : v.Booked retention) (r : Request) : (v.arrive r).Booked retention := by
  cases hkey : r.key? with
  | none => exact booked_arrive_keyless hl hkey
  | some k =>
    cases hb : v.plane.cache.begin k v.plane.now with
    | mk arrival cache =>
      cases arrival with
      | fresh g => exact booked_arrive_fresh hl hkey hb
      | pending n => exact booked_arrive_pending hl hkey (RetryCache.entries_of_pending hb)
      | replay response =>
        obtain ⟨t, hentry, hnow⟩ := RetryCache.entries_of_replay hb
        exact booked_arrive_replay hl hkey hentry hnow

/-! ## Every step -/

/-- A call that waits for another one has joined it under their key. -/
theorem following_of_duplicate (hl : v.Booked retention) {c : Call} {n : Nat}
    (hc : v.calls[i]? = some c) (hp : c.state = .waiting (.duplicate k n)) :
    c.request.key? = some k ∧ c.found = some (.pending n) := by
  have hacc := hl.accounted i c hc
  cases hacc with
  | keyless hkey hguard =>
    obtain ⟨caller, wait, batch, heq, -⟩ := hguard _ hp
    cases heq
  | following hkey =>
    cases hp
    exact ⟨hkey, rfl⟩
  | executing | executed | abandoned | followed | unfollowed | replayed => cases hp

theorem resume_of_duplicate {n : Nat} (hp : v.pending? i = some (.duplicate k n)) (tick : Nat) :
    v.resume i tick = match v.plane.cache.outcome? n with
      | none => v
      | some o =>
        { v with
          calls :=
            v.setState i (.answered (o.getD (ControlPlane.abandonedResponse k)) v.plane.now) } := by
  have heq : v.plane.resume? tick (.duplicate k n) = (v.plane.cache.outcome? n).map fun o =>
      (.finished (o.getD (ControlPlane.abandonedResponse k)), v.plane) := rfl
  unfold resume
  rw [hp, Option.bind_some, heq]
  cases v.plane.cache.outcome? n with
  | none => rfl
  | some o => rfl

theorem booked_resume (hl : v.Booked retention) (i tick : Nat) :
    (v.resume i tick).Booked retention := by
  cases hp : v.pending? i with
  | none =>
    unfold resume
    rw [hp]
    exact hl
  | some p =>
    obtain ⟨c, hc, hs⟩ := pending?_eq_some.mp hp
    cases p with
    | duplicate k n =>
      rw [resume_of_duplicate hp]
      obtain ⟨hkey, hf⟩ := following_of_duplicate hl hc hs
      cases ho : v.plane.cache.outcome? n with
      | none => exact hl
      | some o =>
        refine hl.move_quietly hc hs ?_ fun g hg => ?_
        · rw [hf]
          exact .followed hkey ho
        · rw [hf] at hg
          cases hg
    | running caller wait batch =>
      unfold resume
      rw [hp, Option.bind_some]
      split
      · exact hl
      · next progress plane heq =>
        have ha := ControlPlane.resume?_advances v.plane.dispatcher.within_full heq
        have hsteady := ControlPlane.steady_finishWait v.plane caller.session wait
        have hl' : Ledger retention (v.plane.finishWait caller.session wait).2.cache
            (v.plane.finishWait caller.session wait).2.now v.calls := by
          rw [hsteady.cache_eq, hsteady.now_eq]
          exact hl
        exact ControlPlane.ledger_advance hl' hc hs ha

theorem booked_cancel (hl : v.Booked retention) (i : Nat) : (v.cancel i).Booked retention := by
  unfold cancel
  cases hp : v.pending? i with
  | none => exact hl
  | some p =>
    obtain ⟨c, hc, hs⟩ := pending?_eq_some.mp hp
    have hacc := hl.accounted i c hc
    cases hacc with
    | keyless hkey hguard =>
      obtain ⟨caller, wait, batch, rfl, hnone⟩ := hguard _ hs
      simp only
      rw [ControlPlane.cancel_of_no_guard v.plane hnone]
      exact hl.move_quietly hc hs (.keyless hkey fun p hp => by cases hp) fun g hg => by cases hg
    | @executing r g caller wait batch hkey hguard hentry hended =>
      cases hs
      simp only
      rw [ControlPlane.cancel_of_guard v.plane hguard]
      exact hl.abandoned ⟨_, hc, rfl, rfl⟩
    | following hkey =>
      cases hs
      exact hl.move_quietly hc rfl (.unfollowed hkey) fun g hg => by cases hg
    | executed | abandoned | followed | unfollowed | replayed => cases hs

theorem booked_step (hl : v.Booked retention) (i : Input) : (v.step i).Booked retention := by
  cases i with
  | arrive r => exact booked_arrive hl r
  | resume i tick => exact booked_resume hl i tick
  | cancel i => exact booked_cancel hl i
  | command c => exact ControlPlane.ledger_obey hl c

end Service

theorem Settings.booked_run (c : Settings) (inputs : List Input) :
    (c.run inputs).Booked c.retention :=
  c.run_inv (P := fun v => v.Booked c.retention) (Ledger.empty c.plane.cache rfl rfl 0)
    (fun _ i hl => Service.booked_step hl i) inputs

end MediaPlane
