import MediaPlane.Proofs.ControlPlane.Counting
import MediaPlane.Proofs.ControlPlane.Expiry
import MediaPlane.Proofs.Service.Run

/-
  The idle sweep and running requests. As long as a session is not closed under them, the requests
  that run in it are exactly those that its entry counts, and the sweep passes it by
  (`busy_session_not_swept`). The count lives in the entry, though, and not in the session: where a
  session is closed and established again while a request runs, the new entry knows nothing of that
  request, and the sweep closes the session under it (`busy_session_swept`).
-/

namespace MediaPlane

namespace ControlPlane

variable {cp mid next : ControlPlane} {s u : SessionId} {P : Leeway}

/-! ## The sweep -/

/-- A sweep takes the entry of an idle session, and leaves the activity of the other ones. -/
theorem activity?_expire? (h : cp.expire? s = some next) (u : SessionId) :
    next.sessions.activity? u = if s = u then none else cp.sessions.activity? u := by
  unfold expire? at h
  split at h
  · next closure holdings hc =>
    cases h
    rw [sessions, holdings_teardown]
    exact Holdings.activity?_close hc u
  · cases h

/-- An entry that is idle counts nobody, so that nobody is lost with it. -/
theorem inFlight_expire? (h : cp.expire? s = some next) (u : SessionId) :
    next.sessions.inFlight u = cp.sessions.inFlight u := by
  have hactivity := activity?_expire? h u
  unfold SessionTable.inFlight
  rw [hactivity]
  split
  · next hu =>
    subst hu
    unfold expire? at h
    split at h
    · next hc =>
      obtain ⟨e, he, hidle⟩ := Holdings.isIdle_of_close hc
      have hzero : e.inFlight = 0 := of_decide_eq_true (Bool.and_eq_true_iff.mp hidle).1
      rw [show cp.sessions.activity? s = some (e.lastActivity, e.inFlight) from
        SessionTable.activity?_eq_some he, hzero]
      rfl
    · cases h
  · rfl

theorem inFlight_expireAll (cp : ControlPlane) (ss : List SessionId) (u : SessionId) :
    (cp.expireAll ss).2.sessions.inFlight u = cp.sessions.inFlight u := by
  induction ss generalizing cp with
  | nil => rfl
  | cons s ss ih =>
    unfold expireAll
    split
    · exact ih cp
    · next next heq => exact (ih next).trans (inFlight_expire? heq u)

theorem inFlight_sweep (cp : ControlPlane) (u : SessionId) :
    cp.sweep.2.sessions.inFlight u = cp.sessions.inFlight u := by
  have h := inFlight_expireAll cp (cp.sessions.idle cp.now cp.sessionTtl) u
  unfold sweep
  simp only
  split <;> exact h

/-- A session whose entry is gone does not come back in a sweep. -/
theorem activity?_expireAll_of_none (cp : ControlPlane) (ss : List SessionId)
    (h : cp.sessions.activity? s = none) : (cp.expireAll ss).2.sessions.activity? s = none := by
  induction ss generalizing cp with
  | nil => exact h
  | cons w ss ih =>
    unfold expireAll
    split
    · exact ih cp h
    · next next heq =>
      refine ih next ?_
      rw [activity?_expire? heq]
      split
      · rfl
      · exact h

theorem expire?_of_idle {last : Nat} (h : cp.sessions.activity? s = some (last, 0))
    (hlast : cp.sessionTtl < cp.now - last) : ∃ next, cp.expire? s = some next := by
  obtain ⟨e, he, heq⟩ := Option.map_eq_some_iff.mp h
  obtain ⟨rfl, hzero⟩ := Prod.mk.injEq .. ▸ heq
  have hidle : e.isIdle cp.now cp.sessionTtl = true :=
    Bool.and_eq_true_iff.mpr ⟨decide_eq_true hzero, decide_eq_true hlast⟩
  exact expire?_of_isIdle he hidle

/-- Every idle session among those that a sweep looks at is closed. -/
theorem activity?_expireAll_of_idle {ss : List SessionId} (hs : s ∈ ss) {last : Nat}
    (h : cp.sessions.activity? s = some (last, 0)) (hlast : cp.sessionTtl < cp.now - last) :
    (cp.expireAll ss).2.sessions.activity? s = none := by
  induction ss generalizing cp with
  | nil => cases hs
  | cons w ss ih =>
    unfold expireAll
    by_cases hw : w = s
    · subst hw
      obtain ⟨next, heq⟩ := expire?_of_idle h hlast
      rw [heq]
      refine activity?_expireAll_of_none next ss ?_
      rw [activity?_expire? heq, if_pos rfl]
    · have hs := (List.mem_cons.mp hs).resolve_left (Ne.symm hw)
      split
      · exact ih hs h hlast
      · next next heq =>
        have hsteady := steady_expire? heq
        refine ih hs ?_ ?_
        · rw [activity?_expire? heq, if_neg hw, h]
        · rw [hsteady.now_eq, hsteady.sessionTtl_eq]
          exact hlast

theorem sweep_of_idle {last : Nat} (h : cp.sessions.activity? s = some (last, 0))
    (hlast : cp.sessionTtl < cp.now - last) : cp.sweep.2.sessions.contains s = false := by
  have hlisted : s ∈ cp.sessions.idle cp.now cp.sessionTtl := by
    obtain ⟨e, he, heq⟩ := Option.map_eq_some_iff.mp h
    obtain ⟨rfl, hzero⟩ := Prod.mk.injEq .. ▸ heq
    exact SessionTable.mem_idle.mpr
      ⟨e, he, Bool.and_eq_true_iff.mpr ⟨decide_eq_true hzero, decide_eq_true hlast⟩⟩
  have hgone := activity?_expireAll_of_idle hlisted h hlast
  have hswept : cp.sweep.2.sessions.activity? s = none := by
    unfold sweep
    simp only
    split <;> exact hgone
  rw [SessionTable.contains_eq, Option.map_eq_none_iff.mp hswept]
  rfl

/-! ## Commands -/

theorem keepsCounts_connectHandler (cp : ControlPlane) (object : ObjectId) (s : SessionId)
    (eventType : String) (receiver : Receiver) :
    KeepsCounts P cp (cp.connectHandler object s eventType receiver).2 := by
  have hconnects := connects cp object s eventType receiver
  generalize (cp.connectHandler object s eventType receiver).2 = next at hconnects ⊢
  cases hconnects with
  | missed => exact KeepsCounts.refl cp
  | connected =>
    exact KeepsCounts.of_eq fun u =>
      SessionTable.inFlight_touch cp.sessions s u object .touched cp.now

theorem keepsCounts_shareHandler (cp : ControlPlane) (object : ObjectId) (s : SessionId)
    (id : SubscriptionId) (handler : Handler) :
    KeepsCounts P cp (cp.shareHandler object s id handler).2 := by
  have hshares := shares cp object s id handler
  generalize (cp.shareHandler object s id handler).2 = next at hshares ⊢
  cases hshares with
  | missed => exact KeepsCounts.refl cp
  | touched | shared =>
    exact KeepsCounts.of_eq fun u =>
      SessionTable.inFlight_touch cp.sessions s u object .touched cp.now

theorem keepsCounts_shutdown (hP : ∀ u forced, P.closes u forced) :
    KeepsCounts P cp cp.shutdown := by
  have hends : ∀ u, cp.shutdown.sessions.inFlight u = 0 := by
    intro u
    rw [SessionTable.inFlight, SessionTable.activity?, find?_shutdown]
    rfl
  intro u
  rw [hends u]
  exact ⟨Nat.zero_le _, fun hnot => absurd (hP u true) (hnot true)⟩

/-- A command counts nobody; it may only close sessions. -/
theorem keepsCounts_obey {c : Command}
    (hclose : ∀ u forced, c = .close u forced → P.closes u forced)
    (hshutdown : c = .shutdown → ∀ u forced, P.closes u forced) : KeepsCounts P cp (cp.obey c) := by
  have hobeys := cp.obeys c
  generalize cp.obey c = next at hobeys ⊢
  cases hobeys with
  | failed => exact KeepsCounts.refl cp
  | @keptAlive s _ h =>
    rw [keepAlive_ok h]
    exact KeepsCounts.of_eq fun u => SessionTable.inFlight_recordActivity cp.sessions s u cp.now
  | connected s => exact KeepsCounts.of_eq fun u => inFlight_connect cp s u
  | @closed s forced _ _ h => exact keepsCounts_closeSession h (hclose s forced rfl)
  | swept => exact KeepsCounts.of_eq fun u => inFlight_sweep cp u
  | handlerConnected object s eventType receiver =>
    exact keepsCounts_connectHandler cp object s eventType receiver
  | handlerShared object s id => exact keepsCounts_shareHandler cp object s id _
  | shutDown => exact keepsCounts_shutdown (hshutdown rfl)
  | evicted | emitted | handlerTaken | handlerDropped | factoryInstalled | engineSet | probeLoaded
  | advanced => exact KeepsCounts.of_holdings rfl

end ControlPlane

/-! ## Runs -/

/-- Whether a call runs in a session and waits there: one if it does. -/
def CallState.runsIn : CallState → SessionId → Nat
  | waiting p, s => p.runsIn s
  | answered .., _ | cancelled, _ => 0

namespace Service

/-- How many requests have entered a session, and have neither finished nor been given up. -/
def running (v : Service) (s : SessionId) : Nat := (v.calls.map fun c => c.state.runsIn s).sum

/-- An input closes no sessions but those that may be closed. -/
def Within (v : Service) (P : Leeway) : Input → Prop
  | .arrive r => v.plane.dispatcher.Within P ∧
    ∀ forced, r.operation = .ok (.closeSession forced) → P.closes (v.plane.sessionOf r) forced
  | .resume _ _ => v.plane.dispatcher.Within P
  | .command (.close s forced) => P.closes s forced
  | .command .shutdown => ∀ s forced, P.closes s forced
  | _ => True

/-- Only sessions other than `s` may be closed. -/
def Spares (v : Service) (s : SessionId) (i : Input) : Prop :=
  v.Within { closes := fun u _ => u ≠ s, subscribes := fun _ => True } i

/-- As inputs come in, session `s` is not closed while a request runs in it, other than by a
sweep. -/
def Undisturbed (s : SessionId) : Service → List Input → Prop
  | _, [] => True
  | v, i :: inputs =>
    (0 < v.running s ∨ 0 < (v.step i).running s → v.Spares s i) ∧
      Undisturbed s (v.step i) inputs

end Service

theorem Progress.runsIn_state (progress : Progress) (now : Nat) (s : SessionId) :
    (progress.state now).runsIn s = progress.runsIn s := by
  cases progress <;> rfl

namespace Service

variable {v : Service} {s : SessionId} {P : Leeway}

theorem running_arrive (v : Service) (r : Request) (s : SessionId) :
    (v.arrive r).running s = v.running s + (v.plane.begin r).1.runsIn s :=
  (v.total_arrive (·.runsIn s) r).trans
    (congrArg (v.running s + ·) (Progress.runsIn_state _ _ s))

/-- Commands leave the calls as they are. -/
theorem running_command (v : Service) (c : Command) (s : SessionId) :
    (v.step (.command c)).running s = v.running s := rfl

theorem running_setState {i : Nat} {p : Pending} (h : v.pending? i = some p) (plane : ControlPlane)
    (state : CallState) (s : SessionId) :
    running { plane, calls := v.setState i state } s + p.runsIn s =
      v.running s + state.runsIn s := total_setState (·.runsIn s) h plane state

/-- The service goes on counting the requests in a session as it counted them: never more than run
there, and all that run there if the session is not closed. -/
def Tracks (P : Leeway) (s : SessionId) (v next : Service) : Prop :=
  v.plane.sessions.inFlight s ≤ v.running s →
    next.plane.sessions.inFlight s ≤ next.running s ∧
      ((∀ forced, ¬ P.closes s forced) → v.plane.sessions.inFlight s = v.running s →
        next.plane.sessions.inFlight s = next.running s)

theorem tracks_arrive {r : Request} (hi : v.Within P (.arrive r)) :
    Tracks P s v (v.arrive r) := by
  intro hle
  obtain ⟨hcount, heq⟩ := ControlPlane.tallies_begin hi.1 r hi.2 s
  have hcount : (v.arrive r).plane.sessions.inFlight s ≤ _ := hcount
  have heq : _ → (v.arrive r).plane.sessions.inFlight s = _ := heq
  have hrunning := v.running_arrive r s
  have hzero : ControlPlane.notYet s = 0 := rfl
  refine ⟨by omega, fun hs hsame => ?_⟩
  have hnow := heq hs
  omega

theorem tracks_resume {j tick : Nat} (hi : v.Within P (.resume j tick)) :
    Tracks P s v (v.resume j tick) := by
  intro hle
  unfold resume
  split
  · exact ⟨hle, fun _ hsame => hsame⟩
  · next progress plane heq =>
    obtain ⟨p, hp, hr⟩ := Option.bind_eq_some_iff.mp heq
    obtain ⟨hcount, heq⟩ := ControlPlane.tallies_resume? hi hr s
    have hrunning := running_setState hp plane (progress.state plane.now) s
    rw [Progress.runsIn_state] at hrunning
    simp only at hcount heq ⊢
    refine ⟨by omega, fun hs hsame => ?_⟩
    have hnow := heq hs
    omega

theorem tracks_cancel (v : Service) (j : Nat) : Tracks P s v (v.cancel j) := by
  intro hle
  unfold cancel
  split
  · exact ⟨hle, fun _ hsame => hsame⟩
  · next p hp =>
    have hcount := v.plane.inFlight_cancel p s
    have hrunning := running_setState hp (v.plane.cancel p) .cancelled s
    have hgone : CallState.runsIn .cancelled s = 0 := rfl
    refine ⟨?_, fun _ hsame => ?_⟩
    · show (v.plane.cancel p).sessions.inFlight s ≤ _
      omega
    · show (v.plane.cancel p).sessions.inFlight s = _
      omega

theorem tracks_command {c : Command} (hi : v.Within P (.command c)) :
    Tracks P s v (v.step (.command c)) := by
  intro hle
  have hkeeps : ControlPlane.KeepsCounts P v.plane (v.plane.obey c) := by
    refine ControlPlane.keepsCounts_obey (fun u forced hc => ?_) fun hc => ?_
    · subst hc
      exact hi
    · subst hc
      exact hi
  obtain ⟨hcount, heq⟩ := hkeeps s
  exact ⟨Nat.le_trans hcount hle, fun hs hsame => (heq hs).trans hsame⟩

theorem tracks_step {i : Input} (hi : v.Within P i) : Tracks P s v (v.step i) := by
  cases i with
  | arrive r => exact tracks_arrive hi
  | resume j tick => exact tracks_resume hi
  | cancel j => exact v.tracks_cancel j
  | command c => exact tracks_command hi

/-- Whatever may be closed, no session ever counts a request that does not run in it. -/
theorem inFlight_le_running_step {i : Input}
    (hle : v.plane.sessions.inFlight s ≤ v.running s) :
    (v.step i).plane.sessions.inFlight s ≤ (v.step i).running s := by
  refine (tracks_step (P := Leeway.full) ?_ hle).1
  cases i with
  | arrive r => exact ⟨v.plane.dispatcher.within_full, fun _ _ => trivial⟩
  | resume j tick => exact v.plane.dispatcher.within_full
  | cancel j => trivial
  | command c => cases c <;> first | trivial | exact fun _ _ => trivial

/-- A session that is not closed under its requests counts each of them. -/
theorem inFlight_eq_running {inputs : List Input} (h : v.Undisturbed s inputs)
    (hsame : v.plane.sessions.inFlight s = v.running s) :
    (inputs.foldl step v).plane.sessions.inFlight s = (inputs.foldl step v).running s := by
  induction inputs generalizing v with
  | nil => exact hsame
  | cons i inputs ih =>
    refine ih h.2 ?_
    have hle := inFlight_le_running_step (i := i) (Nat.le_of_eq hsame)
    by_cases hbusy : 0 < v.running s ∨ 0 < (v.step i).running s
    · exact (tracks_step (h.1 hbusy) (Nat.le_of_eq hsame)).2 (fun _ hne => hne rfl) hsame
    · -- Where nobody runs in the session there is nobody to forget.
      omega

end Service

theorem Settings.inFlight_le_running (c : Settings) (inputs : List Input) (s : SessionId) :
    (c.run inputs).plane.sessions.inFlight s ≤ (c.run inputs).running s :=
  c.run_inv (P := fun v => v.plane.sessions.inFlight s ≤ v.running s) (Nat.zero_le _)
    (fun _ _ h => Service.inFlight_le_running_step h) inputs

/-- Take a time at which no request runs in a session, and suppose that since then the session was
not closed while a request ran in it. Then its entry counts exactly the requests that run in it, and
if there are any, the session exists and a sweep does not close it. -/
theorem busy_session_not_swept (c : Settings) (before after : List Input) {s : SessionId}
    (hidle : (c.run before).running s = 0) (hopen : (c.run before).Undisturbed s after)
    (hbusy : 0 < (c.run (before ++ after)).running s) :
    let v := c.run (before ++ after)
    v.plane.sessions.inFlight s = v.running s ∧ v.plane.sessions.contains s = true ∧
      (v.step (.command .sweep)).plane.sessions.contains s = true := by
  intro v
  have hstart : (c.run before).plane.sessions.inFlight s = (c.run before).running s := by
    have hle := c.inFlight_le_running before s
    omega
  have hcounted : v.plane.sessions.inFlight s = v.running s := by
    have hrun : v = after.foldl Service.step (c.run before) := List.foldl_append
    rw [hrun]
    exact Service.inFlight_eq_running hopen hstart
  have hpositive : 0 < v.plane.sessions.inFlight s := by
    rw [hcounted]
    exact hbusy
  refine ⟨hcounted, SessionTable.contains_of_inFlight hpositive, ?_⟩
  refine SessionTable.contains_of_inFlight ?_
  show 0 < v.plane.sweep.2.sessions.inFlight s
  rw [ControlPlane.inFlight_sweep]
  exact hpositive

/-! ## Small runs -/

namespace Sample

/-- A pipeline that takes longer to build than a session may be quiet. -/
def lengthy : Input :=
  .arrive (.inSession owner (.create "MediaPipeline" (.object [("$delay", .nat 90000)])))

theorem running_lengthy : (settings.run [lengthy]).running owner = 1 := by decide +kernel

end Sample

theorem busy_session_not_swept_lengthy :
    let v := Sample.settings.run ([] ++ [Sample.lengthy, .command (.advance 60001)])
    (Sample.settings.run []).running Sample.owner = 0 ∧
      (Sample.settings.run []).Undisturbed Sample.owner
        [Sample.lengthy, .command (.advance 60001)] ∧
      0 < v.running Sample.owner ∧
      v.plane.sessions.inFlight Sample.owner = v.running Sample.owner ∧
      v.plane.sessions.contains Sample.owner = true ∧
      (v.step (.command .sweep)).plane.sessions.contains Sample.owner = true := by
  intro v
  have hidle : (Sample.settings.run []).running Sample.owner = 0 := rfl
  have hopen : (Sample.settings.run []).Undisturbed Sample.owner
      [Sample.lengthy, .command (.advance 60001)] := by
    refine ⟨fun _ => ?_, fun _ => trivial, trivial⟩
    exact ⟨fun f hf => (Option.some_ne_none f hf.symm).elim, fun forced hop => by cases hop⟩
  have hbusy : 0 < v.running Sample.owner := by
    have hv : v = (Sample.settings.run [Sample.lengthy]).step (.command (.advance 60001)) :=
      Sample.settings.run_succ [Sample.lengthy] _
    rw [hv, Service.running_command, Sample.running_lengthy]
    decide
  exact ⟨hidle, hopen, hbusy, busy_session_not_swept Sample.settings [] _ hidle hopen hbusy⟩

/-! ## Established again -/

namespace ControlPlane

variable {cp : ControlPlane}

theorem activity?_obey_close (cp : ControlPlane) (s : SessionId) (forced : Bool) :
    (cp.obey (.close s forced)).sessions.activity? s = none := by
  simp only [obey]
  rcases closeSession_cases cp s forced with ⟨hnone, e, he⟩ | ⟨closure, holdings, hc, hok⟩
  · rw [he]
    rw [SessionTable.contains_eq, Option.isSome_eq_false_iff, Option.isNone_iff_eq_none] at hnone
    exact Option.map_eq_none_iff.mpr hnone
  · rw [hok]
    show (cp.closedBy s closure holdings).sessions.activity? s = none
    rw [sessions, holdings_closedBy, Holdings.activity?_close hc, if_pos rfl]

theorem activity?_connect_of_none {s : SessionId} (h : cp.sessions.activity? s = none) :
    (cp.connect s).sessions.activity? s = some (cp.now, 0) := by
  have hfind : cp.sessions.find? s = none := Option.map_eq_none_iff.mp h
  obtain ⟨metrics, heq⟩ := connect_eq cp s
  rw [heq]
  show ((cp.sessions.ensure s cp.now).2.recordActivity s cp.now).activity? s = _
  unfold SessionTable.activity? SessionTable.recordActivity
  rw [SessionTable.find?_update, if_pos rfl, SessionTable.find?_ensure, if_pos rfl, hfind]
  rfl

/-- A session that was closed and is there again counts none of the requests that run in it from
before, and once it was quiet for long enough the sweep closes it. -/
theorem sweep_reestablished (cp : ControlPlane) (s : SessionId) (forced : Bool) {ms : Nat}
    (hms : cp.sessionTtl < ms) :
    let again := ((cp.obey (.close s forced)).obey (.connect s)).obey (.advance ms)
    again.sessions.contains s = true ∧ again.sweep.2.sessions.contains s = false := by
  intro again
  have hsteady : Steady cp (cp.obey (.close s forced)) := by
    simp only [obey]
    cases h : cp.closeSession s forced with
    | error e => exact Steady.refl cp
    | ok r => exact steady_closeSession h
  have hconnect : Steady (cp.obey (.close s forced)) ((cp.obey (.close s forced)).connect s) :=
    (Change.connect (P := Leeway.full)).steady
  have hactivity : again.sessions.activity? s = some ((cp.obey (.close s forced)).now, 0) :=
    activity?_connect_of_none (activity?_obey_close cp s forced)
  constructor
  · obtain ⟨e, he, -⟩ := Option.map_eq_some_iff.mp hactivity
    rw [SessionTable.contains_eq, he]
    rfl
  · refine sweep_of_idle hactivity ?_
    show ((cp.obey (.close s forced)).connect s).sessionTtl <
      ((cp.obey (.close s forced)).connect s).now + ms - (cp.obey (.close s forced)).now
    rw [hconnect.sessionTtl_eq, hsteady.sessionTtl_eq, hconnect.now_eq]
    omega

end ControlPlane

/-- A request runs in a session that is closed and established again, and the sweep closes the
session under it. -/
theorem busy_session_swept :
    let v := Sample.settings.run [Sample.lengthy, .command (.close Sample.owner false),
      .command (.connect Sample.owner), .command (.advance 60001)]
    0 < v.running Sample.owner ∧ v.plane.sessions.contains Sample.owner = true ∧
      (v.step (.command .sweep)).plane.sessions.contains Sample.owner = false := by
  intro v
  have hv : v = (((Sample.settings.run [Sample.lengthy]).step
      (.command (.close Sample.owner false))).step (.command (.connect Sample.owner))).step
        (.command (.advance 60001)) := by
    rw [← Settings.run_succ, ← Settings.run_succ, ← Settings.run_succ]
    rfl
  have httl : (Sample.settings.run [Sample.lengthy]).plane.sessionTtl < 60001 := by
    decide +kernel
  have hrunning := Sample.running_lengthy
  rw [hv]
  generalize Sample.settings.run [Sample.lengthy] = w at httl hrunning
  refine ⟨?_, ControlPlane.sweep_reestablished w.plane Sample.owner false httl⟩
  rw [Service.running_command, Service.running_command, Service.running_command, hrunning]
  decide

end MediaPlane
