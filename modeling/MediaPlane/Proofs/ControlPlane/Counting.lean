import MediaPlane.Proofs.ControlPlane.Settled
import MediaPlane.Proofs.Session.Activity

/-
  Requests are counted in their sessions. A request enters its session when it starts and leaves it
  when it ends, and what it does in between leaves every count as it was, unless a session is closed
  (`KeepsCounts`): also what a transport calls back enters and leaves in pairs. So a stage of a call
  changes the count of its own session only, by what the call is now against what it was before
  (`Tallies`).
-/

namespace MediaPlane

/-- How many requests wait in a session: one, if it is the request's own. -/
def Pending.runsIn : Pending → SessionId → Nat
  | duplicate .., _ => 0
  | running caller _ _, u => if caller.session = u then 1 else 0

def Progress.runsIn : Progress → SessionId → Nat
  | finished _, _ => 0
  | suspended pending, u => pending.runsIn u

namespace ControlPlane

variable {cp mid next : ControlPlane} {s u : SessionId} {P : Leeway}

/-! ## What keeps counts -/

/-- Each session counts as many requests as before; only if it may be closed it may count fewer. -/
def KeepsCounts (P : Leeway) (cp next : ControlPlane) : Prop :=
  ∀ u, next.sessions.inFlight u ≤ cp.sessions.inFlight u ∧
    ((∀ forced, ¬ P.closes u forced) → next.sessions.inFlight u = cp.sessions.inFlight u)

namespace KeepsCounts

theorem of_eq (h : ∀ u, next.sessions.inFlight u = cp.sessions.inFlight u) :
    KeepsCounts P cp next := fun u => ⟨Nat.le_of_eq (h u), fun _ => h u⟩

theorem of_holdings (h : next.holdings = cp.holdings) : KeepsCounts P cp next :=
  of_eq fun u => by rw [sessions, h, sessions]

theorem refl (cp : ControlPlane) : KeepsCounts P cp cp := of_eq fun _ => rfl

theorem trans (h : KeepsCounts P cp mid) (h' : KeepsCounts P mid next) : KeepsCounts P cp next :=
  fun u => ⟨Nat.le_trans (h' u).1 (h u).1, fun hu => ((h' u).2 hu).trans ((h u).2 hu)⟩

end KeepsCounts

theorem inFlight_enter (cp : ControlPlane) (s u : SessionId) :
    (cp.enter s).sessions.inFlight u = cp.sessions.inFlight u + if s = u then 1 else 0 := by
  obtain ⟨metrics, heq⟩ := enter_eq cp s
  rw [heq]
  exact SessionTable.inFlight_enter cp.sessions s u cp.now

theorem inFlight_leave (cp : ControlPlane) (s u : SessionId) :
    (cp.leave s).sessions.inFlight u = cp.sessions.inFlight u - if s = u then 1 else 0 :=
  SessionTable.inFlight_leave cp.sessions s u cp.now

/-- A request within a request counts for itself and no longer. -/
theorem KeepsCounts.nested (h : KeepsCounts P (cp.enter s) mid) :
    KeepsCounts P cp (mid.leave s) := by
  intro u
  obtain ⟨hle, heq⟩ := h u
  rw [inFlight_enter] at hle heq
  rw [inFlight_leave]
  refine ⟨by omega, fun hu => ?_⟩
  rw [heq hu, Nat.add_sub_cancel]

/-! ## Single steps -/

theorem keepsCounts_touch {x : ObjectId} {o : MediaObject} (h : cp.touch s x = .ok (o, next)) :
    KeepsCounts P cp next := by
  obtain ⟨-, rfl⟩ := touch_ok h
  exact KeepsCounts.of_eq fun u => SessionTable.inFlight_touch cp.sessions s u x .touched cp.now

theorem keepsCounts_register (cp : ControlPlane) (s : SessionId) (c : Construction) :
    KeepsCounts P cp (cp.register s c).2 := by
  rcases register_cases cp s c with heq | ⟨r, -, heq⟩
  · exact KeepsCounts.of_holdings heq
  · refine KeepsCounts.of_eq fun u => ?_
    rw [sessions, heq]
    exact SessionTable.inFlight_touch cp.sessions s u c.id .strong cp.now

theorem keepsCounts_dropReferences (cp : ControlPlane) (s : SessionId) (ids : List ObjectId)
    (reason : RemovalReason) : KeepsCounts P cp (cp.dropReferences s ids reason) := by
  refine KeepsCounts.of_eq fun u => SessionTable.inFlight_of_activity? ?_
  rw [sessions, holdings_dropReferences, Holdings.activity?_collect]
  exact SessionTable.activity?_dropReferences cp.sessions s u ids

theorem inFlight_closeSession {forced : Bool} {n : Nat}
    (h : cp.closeSession s forced = .ok (n, next)) (u : SessionId) :
    next.sessions.inFlight u = if s = u then 0 else cp.sessions.inFlight u := by
  obtain ⟨closure, holdings, hc, -, rfl⟩ := closeSession_ok h
  show (cp.closedBy s closure holdings).sessions.inFlight u = _
  unfold SessionTable.inFlight
  rw [sessions, holdings_closedBy, Holdings.activity?_close hc]
  split <;> rfl

theorem keepsCounts_closeSession {forced : Bool} {n : Nat}
    (h : cp.closeSession s forced = .ok (n, next)) (hP : P.closes s forced) :
    KeepsCounts P cp next := by
  intro u
  rw [inFlight_closeSession h]
  split
  · next hu =>
    subst hu
    exact ⟨Nat.zero_le _, fun hnot => absurd hP (hnot forced)⟩
  · exact ⟨Nat.le_refl _, fun _ => rfl⟩

theorem inFlight_connect (cp : ControlPlane) (s u : SessionId) :
    (cp.connect s).sessions.inFlight u = cp.sessions.inFlight u := by
  obtain ⟨metrics, heq⟩ := connect_eq cp s
  rw [heq]
  exact (SessionTable.inFlight_recordActivity _ s u cp.now).trans
    (SessionTable.inFlight_ensure cp.sessions s u cp.now)

/-! ## Operations -/

theorem keepsCounts_create (cp : ControlPlane) (s : SessionId) (typeName : String)
    (params : Value) : KeepsCounts P cp (cp.create s typeName params).2 := by
  unfold create
  split
  · exact KeepsCounts.of_holdings rfl
  · split
    · exact KeepsCounts.refl cp
    · next entry _ =>
      split
      · exact KeepsCounts.refl cp
      · unfold createUnder
        simp only
        split
        · exact KeepsCounts.of_holdings rfl
        · next element mid hc =>
          obtain ⟨mock, rfl⟩ := construct_ok hc
          split
          · exact KeepsCounts.of_holdings rfl
          · exact (KeepsCounts.of_holdings rfl).trans (keepsCounts_register _ s _)

theorem holdings_invokeMock (cp : ControlPlane) (o : MediaObject) (operation : String)
    (params : Value) : (cp.invokeMock o operation params).2.holdings = cp.holdings := by
  unfold invokeMock
  simp only
  split
  · rfl
  · rfl
  · rfl
  · split <;> rfl
  · rfl

/-- Elements change the registry alone. -/
theorem sessions_invokeLoopback {o : MediaObject} {properties : Members} {sinks : List ObjectId}
    {operation : String} {params value : Value}
    (h : cp.invokeLoopback o properties sinks operation params = .ok (value, next)) :
    next.sessions = cp.sessions := by
  unfold invokeLoopback at h
  split at h
  · split at h
    · cases h
    · cases h
      unfold connectSink
      simp only
      split <;> rfl
  · split at h
    · cases h
    · cases h
      unfold disconnectSink
      split <;> rfl
  · cases h
    rfl
  · split at h
    · cases h
    · cases h
      rfl
  · split at h
    · cases h
    · cases h
      rfl
  · cases h
    rfl
  · cases h

theorem sessions_invokeElement (cp : ControlPlane) (o : MediaObject) (operation : String)
    (params : Value) : (cp.invokeElement o operation params).2.sessions = cp.sessions := by
  unfold invokeElement
  split
  · exact congrArg Holdings.sessions (holdings_invokeMock cp o operation params)
  · split
    · rfl
    · next heq => exact sessions_invokeLoopback heq

theorem keepsCounts_invoke (cp : ControlPlane) (s : SessionId) (object : ObjectId)
    (operation : String) (params : Value) :
    KeepsCounts P cp (cp.invoke s object operation params).2 := by
  unfold invoke
  split
  · exact KeepsCounts.refl cp
  · next o mid ht =>
    refine (keepsCounts_touch ht).trans ?_
    split
    · exact KeepsCounts.refl mid
    · next heq =>
      rcases builtin?_ok heq with rfl | ⟨f, rfl, -⟩
      · exact KeepsCounts.refl _
      · exact KeepsCounts.of_eq fun _ => rfl
    · have he : (mid.invokeElement o operation params).2.sessions = mid.sessions :=
        sessions_invokeElement mid o operation params
      split <;>
      · next heq =>
        rw [heq] at he
        exact KeepsCounts.of_eq fun u => congrArg (SessionTable.inFlight · u) he

theorem keepsCounts_subscribeWith (cp : ControlPlane) (s : SessionId) (object : ObjectId)
    (eventType : String) {build : HandlerFactory → ControlPlane →
      Except Failure Receiver × ControlPlane}
    (hb : ∀ f cp', cp.dispatcher.factory = some f → KeepsCounts P cp' (build f cp').2) :
    KeepsCounts P cp (cp.subscribeWith s object eventType build).2 :=
  related_subscribeWith (KeepsCounts.refl cp) KeepsCounts.trans keepsCounts_touch
    (fun mid key receiver => KeepsCounts.of_holdings (holdings_subscribeUnder mid s key receiver))
    hb

theorem keepsCounts_buildHandler {plan : BuildPlan} (hP : plan.Within P) (cp : ControlPlane) :
    KeepsCounts P cp (buildHandler plan cp).2 := by
  induction plan generalizing cp with
  | done receiver =>
    cases receiver <;> exact KeepsCounts.of_holdings rfl
  | refuse reason => exact KeepsCounts.refl cp
  | lookFirst rest ih => exact ih _ (hP _) cp
  | subscribeFirst u object eventType inner rest ih ih' =>
    obtain ⟨-, hinner, hrest⟩ := hP
    have hasked : KeepsCounts P (cp.enter u) ((cp.enter u).subscribeWith u object eventType
        fun _ => buildHandler inner).2 :=
      keepsCounts_subscribeWith (cp.enter u) u object eventType fun _ cp' _ => ih hinner cp'
    have hmetrics : ∀ {mid : ControlPlane} {metrics : Metrics},
        KeepsCounts P mid { mid with metrics } := KeepsCounts.of_holdings rfl
    exact (hasked.nested.trans hmetrics).trans (ih' _ (hrest _) _)
  | closeFirst u forced rest ih =>
    unfold buildHandler
    split
    · exact ih _ (hP.2 _) cp
    · next heq => exact (keepsCounts_closeSession heq hP.1).trans (ih _ (hP.2 _) _)

theorem keepsCounts_unsubscribe (cp : ControlPlane) (s : SessionId) (object : ObjectId)
    (subscription : SubscriptionId) :
    KeepsCounts P cp (cp.unsubscribe s object subscription).2 := by
  unfold unsubscribe
  split
  · exact KeepsCounts.refl cp
  · next o mid ht =>
    have hmid : KeepsCounts P cp mid := keepsCounts_touch ht
    split
    · exact hmid
    · exact hmid.trans (KeepsCounts.of_holdings rfl)

theorem keepsCounts_settle (result : Value) {r : Except Failure ControlPlane}
    (h : ∀ next, r = .ok next → KeepsCounts P cp next) :
    KeepsCounts P cp (cp.settle result r).2 := by
  cases r with
  | error e => exact KeepsCounts.refl cp
  | ok next => exact h next rfl

/-- No operation that addresses objects changes a count, but by what it closes. -/
theorem keepsCounts_execute (hP : cp.dispatcher.Within P) (s : SessionId) (op : Operation) :
    KeepsCounts P cp (cp.execute s op).2 := by
  have hclaim : ∀ {object next}, cp.claim s object = .ok next → KeepsCounts P cp next := by
    intro object next h
    unfold claim at h
    split at h
    · cases h
      exact KeepsCounts.of_eq fun u =>
        SessionTable.inFlight_touch cp.sessions s u object .strong cp.now
    · cases h
  have hunref : ∀ {object next}, cp.unref s object = .ok next → KeepsCounts P cp next := by
    intro object next h
    unfold unref at h
    split at h
    · cases h
      exact keepsCounts_dropReferences cp s _ _
    · cases h
  have hrelease : ∀ {object next}, cp.release s object = .ok next → KeepsCounts P cp next := by
    intro object next h
    unfold release at h
    split at h
    · cases h
      exact keepsCounts_dropReferences cp s _ _
    · cases h
  unfold execute
  cases op with
  | create typeName params => exact keepsCounts_create cp s typeName params
  | invoke object operation params => exact keepsCounts_invoke cp s object operation params
  | ref object => exact keepsCounts_settle _ fun next h => hclaim h
  | unref object => exact keepsCounts_settle _ fun next h => hunref h
  | release object => exact keepsCounts_settle _ fun next h => hrelease h
  | describe object =>
    simp only
    split
    · exact KeepsCounts.refl cp
    · next heq => exact keepsCounts_touch heq
  | subscribe object eventType params =>
    exact keepsCounts_subscribeWith cp s object eventType fun f cp' hf =>
      keepsCounts_buildHandler (hP f hf object s eventType params) cp'
  | unsubscribe object subscription => exact keepsCounts_unsubscribe cp s object subscription
  | transaction | closeSession | keepAlive | connect | ping => exact KeepsCounts.refl cp

theorem keepsCounts_runEntries (hP : cp.dispatcher.Within P) (s : SessionId) (slots : Slots)
    (results entries : List Value) :
    KeepsCounts P cp (cp.runEntries s slots results entries).2 := by
  induction entries generalizing cp slots results with
  | nil => exact KeepsCounts.refl cp
  | cons entry rest ih =>
    unfold runEntries
    split
    · exact ih hP slots _
    · next method params _ =>
      have he : KeepsCounts P cp (cp.executeEntry s slots method params).2 ∧
          Steady cp (cp.executeEntry s slots method params).2 := by
        unfold executeEntry
        split
        · exact ⟨KeepsCounts.refl cp, Steady.refl cp⟩
        · exact ⟨keepsCounts_execute hP s _, (execute_stretch hP s _).steady⟩
      split
      · next heq =>
        rw [heq] at he
        exact he.1
      · next heq =>
        rw [heq] at he
        exact he.1.trans (ih (within_of_steady he.2 hP) _ _)

/-! ## Stages of a call -/

/-- The count of a session with the request that runs in it taken into account: what the call is
after a stage against what it was before. A session that may be closed may count fewer. -/
def Tallies (P : Leeway) (before : SessionId → Nat) (cp : ControlPlane)
    (r : Progress × ControlPlane) : Prop :=
  ∀ u, r.2.sessions.inFlight u ≤ cp.sessions.inFlight u + r.1.runsIn u - before u ∧
    ((∀ forced, ¬ P.closes u forced) →
      r.2.sessions.inFlight u = cp.sessions.inFlight u + r.1.runsIn u - before u)

/-- Nothing of the call runs before it starts. -/
def notYet : SessionId → Nat := fun _ => 0

/-- What a call that runs in a session counts for. -/
def ownIn (s : SessionId) : SessionId → Nat := fun u => if s = u then 1 else 0

theorem sessions_respond (cp : ControlPlane) (caller : Caller) (result : Except Failure Value) :
    (cp.respond caller result).2.sessions = cp.sessions :=
  congrArg Holdings.sessions (holdings_respond cp caller result)

theorem tallies_respond (h : KeepsCounts P cp mid) (caller : Caller)
    (result : Except Failure Value) : Tallies P notYet cp (mid.respond caller result) := by
  intro u
  rw [sessions_respond]
  exact h u

theorem tallies_leave (h : KeepsCounts P cp mid) (caller : Caller)
    (result : Except Failure Value) :
    Tallies P (ownIn caller.session) cp ((mid.leave caller.session).respond caller result) := by
  intro u
  obtain ⟨hle, heq⟩ := h u
  rw [sessions_respond, inFlight_leave]
  refine ⟨?_, fun hu => ?_⟩
  · exact Nat.sub_le_sub_right hle _
  · rw [heq hu]
    rfl

theorem tallies_suspended (h : KeepsCounts P cp mid) (caller : Caller) (w : Wait)
    (batch : Option Batch) :
    Tallies P (ownIn caller.session) cp (.suspended (.running caller w batch), mid) := by
  intro u
  obtain ⟨hle, heq⟩ := h u
  have hsame : cp.sessions.inFlight u + ownIn caller.session u - ownIn caller.session u =
    cp.sessions.inFlight u := Nat.add_sub_cancel _ _
  exact ⟨Nat.le_trans hle (Nat.le_of_eq hsame.symm), fun hu => (heq hu).trans hsame.symm⟩

theorem tallies_proceed (h : KeepsCounts P cp mid) (caller : Caller) (outcome : Outcome) :
    Tallies P (ownIn caller.session) cp (mid.proceed caller outcome) := by
  cases outcome with
  | settled result => exact tallies_leave h caller result
  | waiting w => exact tallies_suspended h caller w none

theorem tallies_proceedBatch (h : KeepsCounts P cp mid) (caller : Caller)
    (outcome : BatchOutcome) :
    Tallies P (ownIn caller.session) cp (mid.proceedBatch caller outcome) := by
  cases outcome with
  | completed results => exact tallies_leave h caller _
  | waiting w batch => exact tallies_suspended h caller w (some batch)

/-- Whoever enters a session counts in it from then on. -/
theorem tallies_enter {r : Progress × ControlPlane} (h : Tallies P (ownIn s) (cp.enter s) r) :
    Tallies P notYet cp r := by
  intro u
  have hin : (cp.enter s).sessions.inFlight u + r.1.runsIn u - ownIn s u =
      cp.sessions.inFlight u + r.1.runsIn u - notYet u := by
    rw [inFlight_enter]
    show cp.sessions.inFlight u + ownIn s u + r.1.runsIn u - ownIn s u =
      cp.sessions.inFlight u + r.1.runsIn u
    omega
  rw [← hin]
  exact h u

theorem tallies_perform (hP : cp.dispatcher.Within P) (caller : Caller) {op : Operation}
    (hclose : ∀ forced, op = .closeSession forced → P.closes caller.session forced) :
    Tallies P notYet cp (cp.perform caller op) := by
  have hP' : (cp.enter caller.session).dispatcher.Within P :=
    within_of_steady (Change.enter (s := caller.session) (P := P)).steady hP
  cases op with
  | ping => exact tallies_respond (KeepsCounts.refl cp) caller _
  | keepAlive =>
    unfold perform
    simp only
    split
    · exact tallies_respond (KeepsCounts.refl cp) caller _
    · next heq =>
      rw [keepAlive_ok heq]
      refine tallies_respond (KeepsCounts.of_eq fun u => ?_) caller _
      exact SessionTable.inFlight_recordActivity cp.sessions caller.session u cp.now
  | connect =>
    refine tallies_respond (KeepsCounts.of_eq fun u => ?_) caller _
    exact inFlight_connect cp caller.session u
  | closeSession forced =>
    unfold perform
    simp only
    split
    · exact tallies_respond (KeepsCounts.refl cp) caller _
    · next heq =>
      exact tallies_respond (keepsCounts_closeSession heq (hclose forced rfl)) caller _
  | transaction entries =>
    exact tallies_enter (tallies_proceedBatch (keepsCounts_runEntries hP' _ [] [] entries) caller _)
  | create | invoke | ref | unref | release | describe | subscribe | unsubscribe =>
    rw [perform_of_inTransaction cp caller rfl]
    exact tallies_enter (tallies_proceed (keepsCounts_execute hP' caller.session _) caller _)

theorem tallies_start (hP : cp.dispatcher.Within P) (r : Request) (guard : Option Guard)
    (hclose : ∀ forced, r.operation = .ok (.closeSession forced) →
      P.closes (cp.sessionOf r) forced) :
    Tallies P notYet cp (cp.start r guard) := by
  have hsession : ∃ mid, cp.sessionFor r.session = (cp.sessionOf r, mid) ∧
      mid.holdings = cp.holdings ∧ mid.dispatcher = cp.dispatcher := by
    unfold sessionFor sessionOf
    cases r.session with
    | some s => exact ⟨cp, rfl, rfl, rfl⟩
    | none => exact ⟨cp.drawName.2, rfl, rfl, rfl⟩
  obtain ⟨mid, heq, hholdings, hdispatcher⟩ := hsession
  have hsame : mid.sessions = cp.sessions := congrArg Holdings.sessions hholdings
  have hmid : Tallies P notYet mid (cp.start r guard) := by
    unfold start
    rw [heq]
    simp only
    cases hop : r.operation with
    | error e => exact tallies_respond (KeepsCounts.refl mid) _ _
    | ok op =>
      refine tallies_perform (hdispatcher ▸ hP) _ fun forced ho => ?_
      rw [ho] at hop
      exact hclose forced hop
  unfold Tallies at hmid ⊢
  rw [hsame] at hmid
  exact hmid

theorem tallies_begin (hP : cp.dispatcher.Within P) (r : Request)
    (hclose : ∀ forced, r.operation = .ok (.closeSession forced) →
      P.closes (cp.sessionOf r) forced) :
    Tallies P notYet cp (cp.begin r) := by
  unfold begin
  split
  · simp only
    split
    · next guard cache _ =>
      have hP' : (ControlPlane.dispatcher { cp with cache }).Within P := hP
      exact tallies_start hP' r (some guard) hclose
    · exact fun u => ⟨Nat.le_refl _, fun _ => rfl⟩
    · exact fun u => ⟨Nat.le_refl _, fun _ => rfl⟩
  · exact tallies_start hP r none hclose

theorem tallies_resume? (hP : cp.dispatcher.Within P) {tick : Nat} {p : Pending}
    {r : Progress × ControlPlane} (h : cp.resume? tick p = some r) :
    Tallies P p.runsIn cp r := by
  cases p with
  | duplicate key ticket =>
    obtain ⟨response, -, rfl⟩ := Option.map_eq_some_iff.mp h
    exact fun u => ⟨Nat.le_refl _, fun _ => rfl⟩
  | running caller wait batch =>
    have hfinish : KeepsCounts P cp (cp.finishWait caller.session wait).2 := by
      cases wait with
      | construction c ready => exact keepsCounts_register cp caller.session c
      | answer value ready => exact KeepsCounts.refl cp
    have hP' := within_of_steady (steady_finishWait cp caller.session wait) hP
    unfold resume? at h
    simp only at h
    split at h
    · cases h
    · cases batch with
      | none =>
        cases h
        exact tallies_proceed hfinish caller _
      | some b =>
        cases h
        exact tallies_proceedBatch (hfinish.trans (keepsCounts_runEntries hP' _ _ _ _)) caller _

theorem inFlight_cancel (cp : ControlPlane) (p : Pending) (u : SessionId) :
    (cp.cancel p).sessions.inFlight u = cp.sessions.inFlight u - p.runsIn u := by
  cases p with
  | duplicate key ticket => rfl
  | running caller wait batch =>
    unfold cancel
    simp only
    split <;> exact inFlight_leave cp caller.session u

end ControlPlane

end MediaPlane
