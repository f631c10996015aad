import MediaPlane.Proofs.ControlPlane.Lasting
import MediaPlane.Proofs.Session.Settling

/-
  The holdings stay settled, whatever is asked of the control plane (`lasting_settled`): every
  change that a request can make settles them again, and so do the idle sweep and the shutdown.
-/

namespace MediaPlane

/-- The journal once the elements of these objects were released, in their order. -/
def Journal.afterRelease (j : Journal) (ids : List ObjectId) : Journal :=
  { j with released := j.released ++ ids }

theorem Journal.afterRelease_append (j : Journal) (ids more : List ObjectId) :
    (j.afterRelease ids).afterRelease more = j.afterRelease (ids ++ more) :=
  congrArg (fun released => { j with released }) (List.append_assoc j.released ids more)

namespace ControlPlane

variable {cp mid next : ControlPlane} {s u : SessionId} {P : Leeway}

/-! ## What happens to the holdings -/

theorem settled_sessions (hs : cp.holdings.Settled) {t : SessionTable} (hm : t.Mirrored)
    (hr : ∀ u x, t.reference? u x = cp.sessions.reference? u x) :
    (cp.withSessions t).holdings.Settled := hs.withSessions hm hr

theorem settled_enter (hs : cp.holdings.Settled) (s : SessionId) :
    (cp.enter s).holdings.Settled := by
  obtain ⟨metrics, heq⟩ := enter_eq cp s
  rw [heq]
  exact settled_sessions hs (SessionTable.mirrored_enter hs.mirrored s cp.now)
    fun u x => SessionTable.reference?_enter cp.sessions s u cp.now x

theorem settled_leave (hs : cp.holdings.Settled) (s : SessionId) :
    (cp.leave s).holdings.Settled :=
  settled_sessions hs (SessionTable.mirrored_leave hs.mirrored s cp.now)
    fun u x => SessionTable.reference?_leave cp.sessions s u cp.now x

theorem settled_keepAlive (hs : cp.holdings.Settled) (h : cp.keepAlive s = .ok next) :
    next.holdings.Settled := by
  rw [keepAlive_ok h]
  exact settled_sessions hs (SessionTable.mirrored_recordActivity hs.mirrored s cp.now)
    fun u x => SessionTable.reference?_recordActivity cp.sessions s u cp.now x

theorem settled_connect (hs : cp.holdings.Settled) (s : SessionId) :
    (cp.connect s).holdings.Settled := by
  obtain ⟨metrics, heq⟩ := connect_eq cp s
  rw [heq]
  refine settled_sessions hs (SessionTable.mirrored_recordActivity
    (SessionTable.mirrored_ensure hs.mirrored s cp.now) s cp.now) fun u x => ?_
  rw [SessionTable.reference?_recordActivity, SessionTable.reference?_ensure]

theorem holdings_dropReferences (cp : ControlPlane) (s : SessionId) (ids : List ObjectId)
    (reason : RemovalReason) :
    (cp.dropReferences s ids reason).holdings =
      ((cp.holdings.dropped s ids).collect ids).2 := by
  unfold dropReferences
  simp only [holdings_teardown]
  rfl

theorem holdings_ensureLive (cp : ControlPlane) (x : ObjectId) :
    (cp.ensureLive x).2.holdings = cp.holdings := by
  unfold ensureLive
  split <;> rfl

theorem holdings_confirmed (cp : ControlPlane) (x : ObjectId) :
    (cp.confirmed x).holdings = cp.holdings := by
  have h := holdings_ensureLive cp x
  rcases confirmed_cases cp x with heq | heq <;> rw [heq]
  · exact h
  · exact h

theorem holdings_subscribeUnder (cp : ControlPlane) (s : SessionId) (key : HandlerKey)
    (receiver : Receiver) : (cp.subscribeUnder s key receiver).2.holdings = cp.holdings := by
  rw [subscribeUnder_snd]
  exact holdings_confirmed _ _

theorem Begins.holdings_eq {c : Construction} (h : cp.Begins c next) :
    next.holdings = cp.holdings := by
  obtain ⟨mock, rfl⟩ := h.eq
  rfl

/-- A registration adds the object and a strong reference, or leaves the holdings as they are. -/
theorem register_cases (cp : ControlPlane) (s : SessionId) (c : Construction) :
    (cp.register s c).2.holdings = cp.holdings ∨
      ∃ r, cp.registry.put (.new c.id c.type c.parent c.element cp.now) = .ok r ∧
        (cp.register s c).2.holdings =
          { registry := r, sessions := cp.sessions.touch s c.id .strong cp.now } := by
  unfold register
  cases hp : cp.registry.put (.new c.id c.type c.parent c.element cp.now) with
  | error e => exact Or.inl rfl
  | ok r => exact Or.inr ⟨r, rfl, rfl⟩

/-- An object that cannot be registered has its element released. -/
theorem register_error {s : SessionId} {c : Construction} {e : Failure}
    (h : (cp.register s c).1 = .error e) :
    (cp.register s c).2 = cp.releaseElement c.id c.element := by
  unfold register at h ⊢
  split at h
  · rfl
  · cases h

theorem settled_register (hs : cp.holdings.Settled) (s : SessionId) (c : Construction) :
    (cp.register s c).2.holdings.Settled := by
  rcases register_cases cp s c with heq | ⟨r, hp, heq⟩
  · rw [heq]
    exact hs
  · rw [heq]
    exact Holdings.settled_put hs hp s .strong cp.now

theorem journal_dismantleAll (cp : ControlPlane) (gone : List MediaObject) :
    (gone.foldl dismantle cp).journal = cp.journal.afterRelease (gone.map (·.id)) := by
  induction gone generalizing cp with
  | nil =>
    show cp.journal = { cp.journal with released := cp.journal.released ++ [] }
    rw [List.append_nil]
  | cons o gone ih =>
    rw [List.foldl_cons, ih]
    exact cp.journal.afterRelease_append [o.id] (gone.map (·.id))

/-- Taking elements down releases each of them, and leaves no other mark. -/
theorem journal_teardown (cp : ControlPlane) (reason : RemovalReason) (gone : List MediaObject) :
    (cp.teardown reason gone).journal = cp.journal.afterRelease (gone.map (·.id)) := by
  unfold teardown
  split
  · next hempty =>
    rw [List.isEmpty_iff.mp hempty]
    exact journal_dismantleAll cp []
  · exact journal_dismantleAll cp gone

/-- The state after a close, apart from the gauges. -/
def closedBy (cp : ControlPlane) (s : SessionId) (closure : Closure) (holdings : Holdings) :
    ControlPlane :=
  (({ cp with holdings }.dropSubscriptions s).teardown .forced closure.forced).teardown
    .unreferenced closure.collected

theorem holdings_closedBy (cp : ControlPlane) (s : SessionId) (closure : Closure)
    (holdings : Holdings) : (cp.closedBy s closure holdings).holdings = holdings := by
  unfold closedBy
  rw [holdings_teardown, holdings_teardown]
  rfl

theorem journal_closedBy (cp : ControlPlane) (s : SessionId) (closure : Closure)
    (holdings : Holdings) :
    (cp.closedBy s closure holdings).journal =
      cp.journal.afterRelease ((closure.forced ++ closure.collected).map (·.id)) := by
  unfold closedBy
  rw [journal_teardown, journal_teardown, Journal.afterRelease_append, List.map_append]
  rfl

theorem journal_dropAll (cp : ControlPlane) (ss : List SessionId) :
    (ss.foldl dropSubscriptions cp).journal = cp.journal := by
  induction ss generalizing cp with
  | nil => rfl
  | cons s ss ih => exact ih (cp.dropSubscriptions s)

/-- A shutdown releases the elements of the drained objects, in their order. -/
theorem journal_shutdown (cp : ControlPlane) :
    cp.shutdown.journal = cp.journal.afterRelease (cp.registry.drain.1.map (·.id)) := by
  unfold shutdown
  show (ControlPlane.teardown _ .shutdown _).journal = _
  rw [journal_teardown, journal_dropAll]
  rfl

theorem released_closedBy (cp : ControlPlane) (s : SessionId) (closure : Closure)
    (holdings : Holdings) :
    (cp.closedBy s closure holdings).journal.released =
      cp.journal.released ++ (closure.forced ++ closure.collected).map (·.id) :=
  congrArg Journal.released (journal_closedBy cp s closure holdings)

/-- How a close by request or command ends: with a failure where there is no such session, and else
with the closure that the holdings give. -/
theorem closeSession_cases (cp : ControlPlane) (s : SessionId) (forced : Bool) :
    (cp.sessions.contains s = false ∧ ∃ e, cp.closeSession s forced = .error e) ∨
      ∃ closure holdings,
        cp.holdings.close s (if forced then .forced else .soft) =
          .ok (some (closure, holdings)) ∧
        cp.closeSession s forced = .ok (closure.count,
          (cp.closedBy s closure holdings).gaugeSessions.gaugeSubscriptions) := by
  cases he : cp.holdings.sessions.find? s with
  | none =>
    refine Or.inl ⟨?_, .invalidSession s, ?_⟩
    · rw [SessionTable.contains_eq]
      show (cp.holdings.sessions.find? s).isSome = false
      rw [he]
      rfl
    · unfold closeSession Holdings.close
      rw [he]
  | some e =>
    obtain ⟨refs, t, hr⟩ : ∃ refs t, cp.holdings.sessions.removeSession? s = some (refs, t) := by
      simp [SessionTable.removeSession?, he]
    have hcloses : Holdings.closes (if forced then .forced else .soft) e = true := by
      cases forced <;> rfl
    have hc : cp.holdings.close s (if forced then .forced else .soft) = _ :=
      Holdings.close_of_removeSession? he hr
    rw [if_pos hcloses] at hc
    refine Or.inr ⟨_, _, hc, ?_⟩
    unfold closeSession
    rw [hc]
    rfl

theorem closeSession_ok {forced : Bool} {n : Nat} (h : cp.closeSession u forced = .ok (n, next)) :
    ∃ closure holdings,
      cp.holdings.close u (if forced then .forced else .soft) = .ok (some (closure, holdings)) ∧
        n = closure.count ∧
        next = (cp.closedBy u closure holdings).gaugeSessions.gaugeSubscriptions := by
  rcases closeSession_cases cp u forced with ⟨-, e, he⟩ | ⟨closure, holdings, hc, hok⟩
  · rw [he] at h
    cases h
  · rw [hok] at h
    cases h
    exact ⟨closure, holdings, hc, rfl, rfl⟩

theorem contains_of_closeSession {forced : Bool} {n : Nat}
    (h : cp.closeSession u forced = .ok (n, next)) : cp.sessions.contains u = true := by
  obtain ⟨closure, holdings, hc, -⟩ := closeSession_ok h
  obtain ⟨refs, t, hr, -⟩ := Holdings.close_ok hc
  obtain ⟨e, he, -⟩ := SessionTable.removeSession?_eq_some hr
  rw [SessionTable.contains_eq]
  exact Option.isSome_of_eq_some he

theorem settled_closeSession (hs : cp.holdings.Settled) {forced : Bool} {n : Nat}
    (h : cp.closeSession u forced = .ok (n, next)) : next.holdings.Settled := by
  obtain ⟨closure, holdings, hc, -, rfl⟩ := closeSession_ok h
  have hclosed : (cp.closedBy u closure holdings).holdings.Settled := by
    rw [holdings_closedBy]
    exact Holdings.settled_close hs hc
  exact hclosed

theorem holdings_respond (cp : ControlPlane) (caller : Caller) (result : Except Failure Value) :
    (cp.respond caller result).2.holdings = cp.holdings := by
  obtain ⟨metrics, cache, heq⟩ := respond_snd cp caller result
  rw [heq]

/-! ## Every change -/

theorem Change.holdings_settled (h : Change s P cp next) (hs : cp.holdings.Settled) :
    next.holdings.Settled := by
  cases h with
  | metrics | mock | draw | raise | unsubscribe => exact hs
  | built receiver => cases receiver <;> exact hs
  | enter => exact settled_enter hs s
  | leave => exact settled_leave hs s
  | keepAlive h => exact settled_keepAlive hs h
  | connect => exact settled_connect hs s
  | touch k h => exact Holdings.settled_touch hs h s k cp.now
  | annotate x f => exact Holdings.settled_update hs x f
  | create hb =>
    refine settled_register ?_ s _
    rw [hb.holdings_eq]
    exact hs
  | dropReferences ids reason =>
    rw [holdings_dropReferences]
    exact Holdings.settled_dropReferences hs s ids
  | subscribe key receiver =>
    rw [holdings_subscribeUnder]
    exact hs
  | close _ h => exact settled_closeSession hs h

/-! ## What only commands do -/

/-- An idle session is closed like any other, and nothing is destroyed by force. -/
theorem expire?_eq_some (h : cp.expire? s = some next) :
    ∃ closure holdings,
      cp.holdings.close s (.idle cp.now cp.sessionTtl) = .ok (some (closure, holdings)) ∧
        next = cp.closedBy s closure holdings := by
  unfold expire? at h
  split at h
  · next closure holdings hc =>
    cases h
    refine ⟨closure, holdings, hc, ?_⟩
    unfold closedBy
    rw [Holdings.forced_close hc nofun]
    rfl
  · cases h

theorem settled_expire? (hs : cp.holdings.Settled) (h : cp.expire? s = some next) :
    next.holdings.Settled := by
  obtain ⟨closure, holdings, hc, rfl⟩ := expire?_eq_some h
  rw [holdings_closedBy]
  exact Holdings.settled_close hs hc

theorem settled_shareHandler (hs : cp.holdings.Settled) (object : ObjectId) (s : SessionId)
    (id : SubscriptionId) (handler : Handler) :
    (cp.shareHandler object s id handler).2.holdings.Settled := by
  have hshares := shares cp object s id handler
  generalize (cp.shareHandler object s id handler).2 = next at hshares ⊢
  cases hshares with
  | missed => exact hs
  | touched hlive | shared hlive => exact Holdings.settled_touch hs hlive s .touched cp.now

theorem holdings_dropAll (cp : ControlPlane) (ss : List SessionId) :
    (ss.foldl dropSubscriptions cp).holdings = cp.holdings := by
  induction ss generalizing cp with
  | nil => rfl
  | cons s ss ih => exact ih (cp.dropSubscriptions s)

/-- A shutdown drains the registry and removes every session. -/
theorem holdings_shutdown (cp : ControlPlane) :
    cp.shutdown.holdings =
      { registry := cp.registry.drain.2,
        sessions := cp.sessions.removeSessions cp.sessions.ids } := by
  unfold shutdown
  show (ControlPlane.teardown _ .shutdown _).holdings = _
  rw [holdings_teardown, holdings_dropAll]
  rfl

theorem settled_shutdown (hs : cp.holdings.Settled) : cp.shutdown.holdings.Settled := by
  rw [holdings_shutdown]
  exact Holdings.settled_drained hs

theorem cut_shutdown (hs : cp.holdings.Settled) :
    Registry.Cut cp.registry cp.registry.drain.1 cp.shutdown.registry := by
  have hregistry : cp.shutdown.registry = cp.registry.drain.2 :=
    congrArg Holdings.registry cp.holdings_shutdown
  rw [hregistry]
  exact (hs.forest.removeAll cp.registry.roots).1

/-- Nobody is there after a shutdown. -/
theorem find?_shutdown (cp : ControlPlane) (u : SessionId) :
    cp.shutdown.sessions.find? u = none := by
  have hsessions : cp.shutdown.sessions = cp.sessions.removeSessions cp.sessions.ids :=
    congrArg Holdings.sessions cp.holdings_shutdown
  rw [hsessions]
  exact SessionTable.find?_removeSessions_ids cp.sessions u

theorem lasting_settled : Lasting fun cp => cp.holdings.Settled where
  change := fun h hs => h.holdings_settled hs
  begins := by
    intro cp next c hb hs
    rw [hb.holdings_eq]
    exact hs
  register := fun s c hs => settled_register hs s c
  expire := fun h hs => settled_expire? hs h
  shareHandler := fun object s id handler _ hs => settled_shareHandler hs object s id handler
  shutdown := fun hs => settled_shutdown hs
  set := fun _ _ _ hs => hs
  handlers := fun _ _ _ hs => hs

end ControlPlane

end MediaPlane
