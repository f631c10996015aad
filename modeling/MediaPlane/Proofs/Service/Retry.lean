import MediaPlane.Proofs.Service.Bookkeeping

/-
  Retries. In every run a key is executed at most once at a time (`retries_execute_once`). Whoever
  repeats a request while it runs waits for its response and gets that one, or learns that it was
  given up; whoever does so within the time of retention gets the response at once. On account of
  repetitions nothing changes but a metric.
-/

namespace MediaPlane

namespace Service

variable {v : Service} {retention : Nat} {k : RetryKey} {i j n : Nat} {state : CallState}

/-! ## Executions and repetitions -/

/-- The call executes for the key under a ticket, and waits. -/
def InFlight (v : Service) (k : RetryKey) (i n : Nat) : Prop :=
  ∃ p, ExecutesAt v.calls i ⟨k, n⟩ (.waiting p)

/-- The call executed for the key, and completed with a response at a time. -/
def CompletedAt (v : Service) (k : RetryKey) (i n : Nat) (response : Response) (t : Nat) : Prop :=
  ExecutesAt v.calls i ⟨k, n⟩ (.answered response t)

/-- The call executed for the key and has ended, and this is the response for who waited for it. -/
def Ended (v : Service) (k : RetryKey) (i n : Nat) (response : Response) : Prop :=
  (∃ t, v.CompletedAt k i n response t) ∨
    ExecutesAt v.calls i ⟨k, n⟩ .cancelled ∧ response = ControlPlane.abandonedResponse k

/-- The call has the key, found an execution in flight when it arrived, and stands so. -/
def FollowsAt (v : Service) (k : RetryKey) (j n : Nat) (state : CallState) : Prop :=
  ∃ c, v.calls[j]? = some c ∧ c.request.key? = some k ∧ c.found = some (.pending n) ∧
    c.state = state

/-- The call has the key, and found a response when it arrived, which it returned. -/
def Replays (v : Service) (k : RetryKey) (j : Nat) (response : Response) : Prop :=
  ∃ c t, v.calls[j]? = some c ∧ c.request.key? = some k ∧ c.found = some (.replay response) ∧
    c.state = .answered response t

/-- Calls with a key are executed at most once at a time, and their response is kept for a time of
retention. -/
structure AtMostOnce (v : Service) (retention : Nat) (k : RetryKey) : Prop where
  /-- Two executions never overlap. -/
  alone : ∀ {i j m n}, v.InFlight k i m → v.InFlight k j n → i = j
  /-- Who arrives while one is in flight waits for it, and nothing else happens. -/
  joins : ∀ {i n r}, v.InFlight k i n → r.key? = some k →
    v.arrive r = v.repeated r (.pending n) (.waiting (.duplicate k n))
  /-- Who arrives while the response of one is kept gets it, and nothing else happens. -/
  replays : ∀ {i n r response t}, v.CompletedAt k i n response t → v.plane.now ≤ t + retention →
    r.key? = some k →
      v.arrive r = v.repeated r (.replay response) (.answered response v.plane.now)
  /-- Who follows an execution stays where it is while that is in flight. -/
  waits : ∀ {i j n state}, v.InFlight k i n → v.FollowsAt k j n state → ∀ tick,
    v.resume j tick = v
  /-- Once that has ended, it goes on with its response, and nothing else happens. -/
  goes_on : ∀ {i j n p response}, v.Ended k i n response → v.FollowsAt k j n (.waiting p) →
    ∀ tick, v.resume j tick =
      { v with calls := v.setState j (.answered response v.plane.now) }
  /-- If it is given up before, nothing else happens. -/
  gives_up : ∀ {j n p}, v.FollowsAt k j n (.waiting p) →
    v.cancel j = { v with calls := v.setState j .cancelled }
  /-- So it waits for a certain execution, or was given up, or returned that one's response. -/
  follows : ∀ {j n state}, v.FollowsAt k j n state →
    (∃ i, Executes v.calls i ⟨k, n⟩) ∧ ∀ i, Executes v.calls i ⟨k, n⟩ →
      state = .waiting (.duplicate k n) ∨ state = .cancelled ∨
        ∃ response t, state = .answered response t ∧ v.Ended k i n response
  /-- Once an execution is given up, its key is fresh again. -/
  fresh : ∀ {i n r}, v.InFlight k i n → r.key? = some k →
    ∃ m, (v.cancel i).finds r = some (.fresh ⟨k, m⟩)
  /-- No other call with the key ever executes: it follows an execution, or replays its response. -/
  repeats : ∀ (j : Nat) (c : Call), v.calls[j]? = some c → c.request.key? = some k →
    (∃ n, Executes v.calls j ⟨k, n⟩) ∨ (∃ n, v.FollowsAt k j n c.state) ∨
      ∃ response i n t, v.Replays k j response ∧ v.CompletedAt k i n response t

/-! ## What the books say -/

theorem account_of_follows (hl : v.Booked retention) (h : v.FollowsAt k j n state) :
    state = .waiting (.duplicate k n) ∨ state = .cancelled ∨
      ∃ o t, v.plane.cache.outcome? n = some o ∧
        state = .answered (o.getD (ControlPlane.abandonedResponse k)) t := by
  obtain ⟨c, hc, hkey, hf, rfl⟩ := h
  have hacc := hl.accounted j c hc
  cases hacc with
  | following hkey' =>
    cases hkey.symm.trans hkey'
    cases hf
    exact Or.inl rfl
  | unfollowed => exact Or.inr (Or.inl rfl)
  | followed hkey' hended =>
    cases hkey.symm.trans hkey'
    cases hf
    exact Or.inr (Or.inr ⟨_, _, hended, rfl⟩)
  | keyless | executing | executed | abandoned | replayed => cases hf

theorem pending?_of_follows (hl : v.Booked retention) {p : Pending}
    (h : v.FollowsAt k j n (.waiting p)) : v.pending? j = some (.duplicate k n) := by
  obtain ⟨c, hc, -, -, hs⟩ := id h
  rcases account_of_follows hl h with heq | heq | ⟨o, t, -, heq⟩
  · exact pending?_eq_some.mpr ⟨c, hc, hs.trans heq⟩
  · cases heq
  · cases heq

theorem outcome?_of_ended (hl : v.Booked retention) {response : Response}
    (h : v.Ended k i n response) :
    ∃ o, v.plane.cache.outcome? n = some o ∧
      response = o.getD (ControlPlane.abandonedResponse k) := by
  rcases h with ⟨t, hdone⟩ | ⟨hcancelled, rfl⟩
  · exact ⟨some response, (hl.entry_of_answered hdone).1, rfl⟩
  · exact ⟨none, hl.outcome?_of_cancelled hcancelled, rfl⟩

/-- Whatever an execution ended with, it is on record under its ticket. -/
theorem ended_of_outcome? (hl : v.Booked retention) (hi : Executes v.calls i ⟨k, n⟩)
    {o : Option Response} (ho : v.plane.cache.outcome? n = some o) :
    v.Ended k i n (o.getD (ControlPlane.abandonedResponse k)) := by
  obtain ⟨c, hc, hf⟩ := hi
  cases hs : c.state with
  | waiting p =>
    have hopen := (hl.entry_of_waiting ⟨c, hc, hf, hs⟩).2
    rw [ho] at hopen
    cases hopen
  | answered response t =>
    have hended := (hl.entry_of_answered ⟨c, hc, hf, hs⟩).1
    rw [ho] at hended
    cases hended
    exact Or.inl ⟨t, c, hc, hf, hs⟩
  | cancelled =>
    have hended := hl.outcome?_of_cancelled ⟨c, hc, hf, hs⟩
    rw [ho] at hended
    cases hended
    exact Or.inr ⟨⟨c, hc, hf, hs⟩, rfl⟩

theorem resume_of_not_pending (h : v.pending? j = none) (tick : Nat) : v.resume j tick = v := by
  unfold resume
  rw [h]
  rfl

theorem finds_of_cancelled (hl : v.Booked retention) (hi : v.InFlight k i n) {r : Request}
    (hr : r.key? = some k) : ∃ m, (v.cancel i).finds r = some (.fresh ⟨k, m⟩) := by
  obtain ⟨p, c, hc, hf, hs⟩ := hi
  have hp : v.pending? i = some p := pending?_eq_some.mpr ⟨c, hc, hs⟩
  have hacc := hl.accounted i c hc
  cases hacc with
  | @executing request g caller wait batch hkey hguard hentry hended =>
    cases hf
    cases hs
    have hcancel := v.plane.cancel_of_guard hguard wait batch
    have hgone : (v.plane.cache.abandon ⟨k, n⟩).entries[k]? = none := by
      rw [RetryCache.entries_abandon, if_pos rfl]
    refine ⟨(v.plane.cache.abandon ⟨k, n⟩).nextTicket, ?_⟩
    unfold cancel finds
    rw [hp, hr]
    simp only [Option.map_some]
    rw [hcancel, RetryCache.begin_of_none hgone]
    rfl
  | keyless | following | followed | unfollowed | replayed => cases hf
  | executed | abandoned => cases hs

theorem resume_of_inFlight (hl : v.Booked retention) (hi : v.InFlight k i n)
    (hj : v.FollowsAt k j n state) (tick : Nat) : v.resume j tick = v := by
  obtain ⟨p, hi⟩ := hi
  have hopen := (hl.entry_of_waiting hi).2
  cases hp : v.pending? j with
  | none => exact resume_of_not_pending hp tick
  | some q =>
    obtain ⟨c, hc, hkey, hf, -⟩ := hj
    obtain ⟨d, hd, hs⟩ := pending?_eq_some.mp hp
    cases hc.symm.trans hd
    have hdup := pending?_of_follows hl ⟨c, hc, hkey, hf, hs⟩
    rw [resume_of_duplicate hdup, hopen]

/-- What a call with the key found when it arrived tells what it does. -/
theorem repeats_of_booked (hl : v.Booked retention) {c : Call} (hc : v.calls[j]? = some c)
    (hkey : c.request.key? = some k) :
    (∃ n, Executes v.calls j ⟨k, n⟩) ∨ (∃ n, v.FollowsAt k j n c.state) ∨
      ∃ response i n t, v.Replays k j response ∧ v.CompletedAt k i n response t := by
  have hacc := hl.accounted j c hc
  cases hf : c.found with
  | none =>
    cases hacc with
    | keyless hnone =>
      rw [hkey] at hnone
      cases hnone
    | executing | executed | abandoned | following | followed | unfollowed | replayed => cases hf
  | some arrival =>
    cases arrival with
    | fresh g =>
      have hg := hacc.key?_of_fresh hf
      rw [hkey] at hg
      cases hg
      exact Or.inl ⟨g.ticket, c, hc, hf⟩
    | pending n => exact Or.inr (Or.inl ⟨n, c, hc, hkey, hf, rfl⟩)
    | replay response =>
      obtain ⟨i, n, t, hi⟩ := hl.replayed j c k response hc hkey hf
      refine Or.inr (Or.inr ⟨response, i, n, t, ?_, hi⟩)
      cases hacc with
      | replayed _ =>
        cases hf
        exact ⟨_, _, hc, hkey, rfl, rfl⟩
      | keyless | executing | executed | abandoned | following | followed | unfollowed => cases hf

theorem atMostOnce_of_booked (hl : v.Booked retention) (k : RetryKey) :
    v.AtMostOnce retention k where
  alone := by
    intro i j m n ⟨p, hi⟩ ⟨q, hj⟩
    exact hl.alone hi hj rfl
  joins := by
    intro i n r ⟨p, hi⟩ hr
    exact arrive_of_inFlight hr (hl.entry_of_waiting hi).1
  replays := by
    intro i n r response t hdone hnow hr
    rw [← hl.retention_eq] at hnow
    exact arrive_of_completed hr ((hl.entry_of_answered hdone).2.2 hnow) hnow
  waits := fun hi hj tick => resume_of_inFlight hl hi hj tick
  goes_on := by
    intro i j n p response hi hj tick
    obtain ⟨o, ho, rfl⟩ := outcome?_of_ended hl hi
    rw [resume_of_duplicate (pending?_of_follows hl hj), ho]
  gives_up := by
    intro j n p hj
    unfold cancel
    rw [pending?_of_follows hl hj]
    rfl
  follows := by
    intro j n state hj
    obtain ⟨c, hc, hkey, hf, -⟩ := id hj
    refine ⟨hl.followed j c k n hc hkey hf, fun i hi => ?_⟩
    rcases account_of_follows hl hj with heq | heq | ⟨o, t, ho, heq⟩
    · exact Or.inl heq
    · exact Or.inr (Or.inl heq)
    · exact Or.inr (Or.inr ⟨_, t, heq, ended_of_outcome? hl hi ho⟩)
  fresh := fun hi hr => finds_of_cancelled hl hi hr
  repeats := fun _ _ hc hkey => repeats_of_booked hl hc hkey

end Service

/-- In every run, requests that repeat each other are executed at most once at a time, and who
repeats one gets the response of its execution. -/
theorem retries_execute_once (c : Settings) (inputs : List Input) (k : RetryKey) :
    (c.run inputs).AtMostOnce c.retention k :=
  Service.atMostOnce_of_booked (c.booked_run inputs) k

end MediaPlane
