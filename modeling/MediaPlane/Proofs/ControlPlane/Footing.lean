import MediaPlane.Proofs.ControlPlane.Counting
import MediaPlane.Proofs.ControlPlane.Enduring
import MediaPlane.Proofs.ControlPlane.Subscriptions

/-
  Subscriptions go with their sessions, as far as transports let them. A session that closes takes
  its subscriptions along, and who subscribes touches an object first, so that the session is there.
  But a transport can close the session between the two, while it builds the handler. What a build
  plan may leave behind is read off the plan (`BuildPlan.Leaves`): the session is still there, or it
  is gone without subscriptions, or one of its subscriptions may have stayed. As long as the plans
  exclude the last case, every operation keeps a session tidy (`tidy_execute`).
-/

namespace MediaPlane

/-! ## What a plan leaves behind -/

/-- How a session stands while handlers are built for it. -/
inductive Footing where
  /-- It is there. -/
  | present
  /-- It is there, or it has no subscriptions. -/
  | tidy
  /-- It may be gone and still have subscriptions. -/
  | stray
deriving DecidableEq, Repr

namespace Footing

/-- After a subscription was added for the session. -/
def subscribed : Footing → Footing
  | present => present
  | tidy | stray => stray

/-- After the session was closed if it was there. -/
def closed : Footing → Footing
  | present | tidy => tidy
  | stray => stray

end Footing

namespace BuildPlan

/-- Whatever a plan finds and is answered, `Q` holds in the end of how session `s` stands, and of
whether a handler was built. A request on the way enters its session. -/
def Leaves (s : SessionId) : BuildPlan → (Bool → Footing → Prop) → Footing → Prop
  | done _, Q, k => Q true k
  | refuse _, Q, k => Q false k
  | lookFirst rest, Q, k => ∀ answer, (rest answer).Leaves s Q k
  | subscribeFirst u _ _ inner rest, Q, k =>
    let entered := if u = s then Footing.present else k
    let goesOn : Footing → Prop := fun k => ∀ answer, (rest answer).Leaves s Q k
    -- the handler may be there already, and then `inner` is not asked
    goesOn entered ∧
      inner.Leaves s (fun built k => goesOn (if built ∧ u = s then k.subscribed else k)) entered
  | closeFirst u _ rest, Q, k =>
    ∀ answer, (rest answer).Leaves s Q (if u = s then k.closed else k)

/-- Session `s`, if it was tidy, is so after session `u` has subscribed with a handler that is built
as the plan says. -/
def Tidies (s u : SessionId) (plan : BuildPlan) : Prop :=
  plan.Leaves s (fun built k => (if built ∧ u = s then k.subscribed else k) ≠ .stray)
    (if u = s then .present else .tidy)

end BuildPlan

/-- No subscription of session `s` stays behind when the transport builds handlers. -/
def HandlerFactory.Tidies (f : HandlerFactory) (s : SessionId) : Prop :=
  ∀ object u eventType params, (f.plan object u eventType params).Tidies s u

namespace ControlPlane

variable {cp mid next : ControlPlane} {s t u : SessionId} {P : Leeway} {k : Footing}
  {p : Subscription → Prop}

/-- Session `s` is there if it has subscriptions. -/
def Tidy (cp : ControlPlane) (s : SessionId) : Prop :=
  ∀ id sub, cp.subscription? id = some sub → sub.session = s → cp.sessions.contains s = true

/-- Session `s` stands at least so. -/
def Stands (cp : ControlPlane) (s : SessionId) : Footing → Prop
  | .present => cp.sessions.contains s = true
  | .tidy => cp.Tidy s
  | .stray => True

theorem tidy_of_contains (h : cp.sessions.contains s = true) : cp.Tidy s := fun _ _ _ _ => h

theorem Stands.tidy (h : cp.Stands s k) (hk : k ≠ .stray) : cp.Tidy s := by
  cases k with
  | present => exact tidy_of_contains h
  | tidy => exact h
  | stray => exact absurd rfl hk

theorem Stands.closed (h : cp.Stands s k) : cp.Stands s k.closed := by
  cases k with
  | present => exact tidy_of_contains h
  | tidy => exact h
  | stray => trivial

/-! ## Plain steps -/

/-- No session goes, and no subscription comes. -/
structure Plain (cp next : ControlPlane) : Prop where
  stays : ∀ u, cp.sessions.contains u = true → next.sessions.contains u = true
  known : ∀ id sub, next.subscription? id = some sub → cp.subscription? id = some sub

namespace Plain

theorem tidy (h : Plain cp next) (ht : cp.Tidy s) : next.Tidy s :=
  fun id sub hsub hs => h.stays s (ht id sub (h.known id sub hsub) hs)

theorem stands (h : Plain cp next) (hk : cp.Stands s k) : next.Stands s k := by
  cases k with
  | present => exact h.stays s hk
  | tidy => exact h.tidy hk
  | stray => trivial

theorem refl (cp : ControlPlane) : Plain cp cp := ⟨fun _ hu => hu, fun _ _ hsub => hsub⟩

theorem trans (h : Plain cp mid) (h' : Plain mid next) : Plain cp next :=
  ⟨fun u hu => h'.stays u (h.stays u hu), fun id sub hsub => h.known id sub (h'.known id sub hsub)⟩

/-- Only the session table changes. -/
theorem of_sessions (hd : next.dispatcher = cp.dispatcher)
    (h : ∀ u, cp.sessions.contains u = true → next.sessions.contains u = true) : Plain cp next := by
  refine ⟨h, fun id sub hsub => ?_⟩
  unfold subscription? at hsub ⊢
  rw [hd] at hsub
  exact hsub

/-- Neither of the two changes. -/
theorem of_eq (hs : next.sessions = cp.sessions) (hd : next.dispatcher = cp.dispatcher) :
    Plain cp next := by
  refine of_sessions hd fun u hu => ?_
  rw [hs]
  exact hu

theorem of_sheds (hs : next.sessions = cp.sessions) (hd : Sheds cp p next) : Plain cp next := by
  refine ⟨fun u hu => ?_, fun id sub hsub => ((hd id sub).mp hsub).1⟩
  rw [hs]
  exact hu

end Plain

theorem plain_enter (cp : ControlPlane) (s : SessionId) : Plain cp (cp.enter s) := by
  obtain ⟨metrics, heq⟩ := enter_eq cp s
  rw [heq]
  refine Plain.of_sessions rfl fun u hu => ?_
  exact (SessionTable.contains_enter cp.sessions s u cp.now).mpr (Or.inr hu)

theorem plain_leave (cp : ControlPlane) (s : SessionId) : Plain cp (cp.leave s) :=
  Plain.of_sessions rfl fun u hu => (SessionTable.contains_update cp.sessions s u _).trans hu

theorem plain_keepAlive (h : cp.keepAlive s = .ok next) : Plain cp next := by
  rw [keepAlive_ok h]
  exact Plain.of_sessions rfl fun u hu => (SessionTable.contains_update cp.sessions s u _).trans hu

theorem plain_connect (cp : ControlPlane) (s : SessionId) : Plain cp (cp.connect s) := by
  obtain ⟨metrics, heq⟩ := connect_eq cp s
  rw [heq]
  refine Plain.of_sessions rfl fun u hu => ?_
  exact (SessionTable.contains_update _ s u _).trans
    ((SessionTable.contains_ensure cp.sessions s u cp.now).mpr (Or.inr hu))

theorem plain_withTouch (cp : ControlPlane) (s : SessionId) (x : ObjectId) (k : Strength) :
    Plain cp (cp.withSessions (cp.sessions.touch s x k cp.now)) :=
  Plain.of_sessions rfl fun u hu =>
    (SessionTable.contains_touch cp.sessions s u x k cp.now).mpr (Or.inr hu)

theorem plain_touch {x : ObjectId} {o : MediaObject} (h : cp.touch s x = .ok (o, next)) :
    Plain cp next := by
  obtain ⟨-, rfl⟩ := touch_ok h
  exact plain_withTouch cp s x .touched

/-- Who touches an object is there. -/
theorem contains_session_of_touch {x : ObjectId} {o : MediaObject}
    (h : cp.touch s x = .ok (o, next)) : next.sessions.contains s = true := by
  obtain ⟨-, rfl⟩ := touch_ok h
  exact (SessionTable.contains_touch cp.sessions s s x .touched cp.now).mpr (Or.inl rfl)

theorem plain_register (cp : ControlPlane) (s : SessionId) (c : Construction) :
    Plain cp (cp.register s c).2 := by
  refine Plain.of_sessions (dispatcher_register cp s c) fun u hu => ?_
  unfold sessions
  rcases register_cases cp s c with heq | ⟨r, -, heq⟩ <;> rw [heq]
  · exact hu
  · exact (SessionTable.contains_touch cp.sessions s u c.id .strong cp.now).mpr (Or.inr hu)

theorem contains_dropReferences (cp : ControlPlane) (s u : SessionId) (ids : List ObjectId)
    (reason : RemovalReason) :
    (cp.dropReferences s ids reason).sessions.contains u = cp.sessions.contains u := by
  refine SessionTable.contains_of_activity? ?_
  rw [sessions, holdings_dropReferences, Holdings.activity?_collect]
  exact SessionTable.activity?_dropReferences cp.sessions s u ids

theorem plain_dropReferences (cp : ControlPlane) (s : SessionId) (ids : List ObjectId)
    (reason : RemovalReason) : Plain cp (cp.dropReferences s ids reason) := by
  have hsheds := sheds_dropReferences cp s ids reason
  refine ⟨fun u hu => ?_, fun id sub hsub => ((hsheds id sub).mp hsub).1⟩
  rw [contains_dropReferences]
  exact hu

theorem plain_unsubscribed {x : ObjectId} {id : SubscriptionId} {dispatcher : Dispatcher}
    (h : cp.dispatcher.unsubscribe x s id = .ok dispatcher) :
    Plain cp { cp with dispatcher } := by
  obtain ⟨-, rfl⟩ := Dispatcher.unsubscribe_ok h
  exact Plain.of_sheds rfl (sheds_removeWhere cp _)

theorem plain_respond (cp : ControlPlane) (caller : Caller) (result : Except Failure Value) :
    Plain cp (cp.respond caller result).2 := by
  obtain ⟨metrics, cache, heq⟩ := respond_snd cp caller result
  rw [heq]
  exact Plain.of_eq rfl rfl

/-! ## Closing sessions -/

theorem contains_closedBy {kind : CloseKind} {closure : Closure} {holdings : Holdings}
    (hc : cp.holdings.close u kind = .ok (some (closure, holdings))) (hs : u ≠ s) :
    (cp.closedBy u closure holdings).sessions.contains s = cp.sessions.contains s := by
  refine SessionTable.contains_of_activity? ?_
  rw [sessions, holdings_closedBy, Holdings.activity?_close hc, if_neg hs]
  rfl

/-- A session that closes has no subscriptions, and the other ones stand as they stood. -/
theorem stands_closedBy {kind : CloseKind} {closure : Closure} {holdings : Holdings}
    (hc : cp.holdings.close u kind = .ok (some (closure, holdings))) (hk : cp.Stands s k) :
    (cp.closedBy u closure holdings).Stands s (if u = s then k.closed else k) := by
  have hsheds := sheds_closedBy cp u closure holdings
  split
  · next hu =>
    have htidy : (cp.closedBy u closure holdings).Tidy s := by
      intro id sub hsub hsession
      exact absurd (Or.inl (hsession.trans hu.symm)) ((hsheds id sub).mp hsub).2
    cases k with
    | present | tidy => exact htidy
    | stray => trivial
  · next hu =>
    have hsame := contains_closedBy hc hu
    cases k with
    | present => exact hsame.trans hk
    | tidy =>
      intro id sub hsub hsession
      exact hsame.trans (hk id sub ((hsheds id sub).mp hsub).1 hsession)
    | stray => trivial

theorem stands_closeSession {forced : Bool} {n : Nat}
    (h : cp.closeSession u forced = .ok (n, next)) (hk : cp.Stands s k) :
    next.Stands s (if u = s then k.closed else k) := by
  obtain ⟨closure, holdings, hc, -, rfl⟩ := closeSession_ok h
  have hgauge : Plain (cp.closedBy u closure holdings)
      (cp.closedBy u closure holdings).gaugeSessions.gaugeSubscriptions := Plain.of_eq rfl rfl
  exact hgauge.stands (stands_closedBy hc hk)

/-- A session that was tidy is tidy after any session has closed. -/
theorem tidy_of_closed (h : cp.Stands s (if u = s then Footing.tidy.closed else .tidy)) :
    cp.Tidy s := by
  have hk : (if u = s then Footing.tidy.closed else .tidy) = Footing.tidy := ite_self _
  rw [hk] at h
  exact h

theorem tidy_closedBy {kind : CloseKind} {closure : Closure} {holdings : Holdings}
    (hc : cp.holdings.close u kind = .ok (some (closure, holdings))) (ht : cp.Tidy s) :
    (cp.closedBy u closure holdings).Tidy s := by
  have hk : cp.Stands s .tidy := ht
  exact tidy_of_closed (stands_closedBy hc hk)

theorem tidy_closeSession {forced : Bool} {n : Nat}
    (h : cp.closeSession u forced = .ok (n, next)) (ht : cp.Tidy s) : next.Tidy s := by
  have hk : cp.Stands s .tidy := ht
  exact tidy_of_closed (stands_closeSession h hk)

theorem tidy_expire? (h : cp.expire? u = some next) (ht : cp.Tidy s) : next.Tidy s := by
  obtain ⟨closure, holdings, hc, rfl⟩ := expire?_eq_some h
  exact tidy_closedBy hc ht

/-- Who is there is closed by a shutdown, and nobody else has subscriptions. -/
theorem tidy_shutdown (ht : cp.Tidy s) : cp.shutdown.Tidy s := by
  intro id sub hsub hsession
  obtain ⟨hold, hkept⟩ := (sheds_shutdown cp id sub).mp hsub
  have hthere := ht id sub hold hsession
  refine absurd (Or.inl ?_) hkept
  rw [hsession]
  exact Std.ExtTreeMap.mem_keys.mpr (Std.ExtTreeMap.contains_iff_mem.mp hthere)

/-! ## Subscribing -/

theorem contains_subscribeUnder (cp : ControlPlane) (t : SessionId) (key : HandlerKey)
    (receiver : Receiver) (u : SessionId) :
    (cp.subscribeUnder t key receiver).2.sessions.contains u = cp.sessions.contains u := by
  unfold sessions
  rw [holdings_subscribeUnder]

theorem stands_subscribeUnder (hk : cp.Stands s k) (key : HandlerKey) (receiver : Receiver) :
    (cp.subscribeUnder s key receiver).2.Stands s k.subscribed := by
  cases k with
  | present => exact (contains_subscribeUnder cp s key receiver s).trans hk
  | tidy | stray => trivial

/-- A new subscription of another session, or of this one while it is there. -/
theorem tidy_of_insert (ht : cp.Tidy s) {sub : Subscription} {id : SubscriptionId}
    (hs : sub.session = s → cp.sessions.contains s = true) (hn : next.sessions = cp.sessions)
    (h : next.dispatcher.subscriptions = cp.dispatcher.subscriptions.insert id sub) :
    next.Tidy s := by
  intro k sub' hsub hsession
  rw [hn]
  unfold subscription? at hsub
  rw [h, getElem?_insert_lawful] at hsub
  split at hsub
  · cases hsub
    exact hs hsession
  · exact ht k sub' hsub hsession

theorem tidy_subscribeUnder (ht : cp.Tidy s) (hs : t = s → cp.sessions.contains s = true)
    (key : HandlerKey) (receiver : Receiver) : (cp.subscribeUnder t key receiver).2.Tidy s := by
  rw [subscribeUnder_snd]
  obtain ⟨h, -, hsubs, -⟩ :=
    cp.drawName.2.dispatcher.attach_eq ⟨cp.drawName.1⟩ t key receiver
  have hn : (cp.attached t key receiver).sessions = cp.sessions := rfl
  have hlook : Plain (cp.attached t key receiver)
      ((cp.attached t key receiver).confirmed key.object) :=
    Plain.of_sheds (congrArg Holdings.sessions (holdings_confirmed _ _)) (sheds_confirmed _ _)
  exact hlook.tidy (tidy_of_insert ht hs hn hsubs)

theorem tidy_connectHandler (ht : cp.Tidy s) (object : ObjectId) (t : SessionId)
    (eventType : String) (receiver : Receiver) :
    (cp.connectHandler object t eventType receiver).2.Tidy s := by
  rcases cp.touch_cases t object with ⟨-, e, hmissed⟩ | ⟨-, o, htouch⟩
  · unfold connectHandler
    rw [hmissed]
    exact ht
  · rw [connectHandler_of_touch htouch]
    refine subscribeUnder_snd _ t (cp.dispatcher.keyFor object t eventType) receiver ▸
      tidy_subscribeUnder ((plain_touch htouch).tidy ht) ?_ _ receiver
    rintro rfl
    exact contains_session_of_touch htouch

theorem tidy_shareHandler (ht : cp.Tidy s) (object : ObjectId) (t : SessionId)
    (id : SubscriptionId) (handler : Handler) :
    (cp.shareHandler object t id handler).2.Tidy s := by
  have hshares := shares cp object t id handler
  have htouch := (plain_withTouch cp t object .touched).tidy ht
  generalize (cp.shareHandler object t id handler).2 = next at hshares ⊢
  cases hshares with
  | missed => exact ht
  | touched => exact htouch
  | shared _ hd =>
    refine tidy_of_insert htouch ?_ rfl (Dispatcher.share_ok hd).1
    rintro rfl
    exact (cp.sessions.contains_touch t t object .touched cp.now).mpr (Or.inl rfl)

theorem stands_touch {x : ObjectId} {o : MediaObject} (h : cp.touch u x = .ok (o, next))
    (hk : cp.Stands s k) : next.Stands s (if u = s then .present else k) := by
  split
  · next hu => exact hu ▸ contains_session_of_touch h
  · exact (plain_touch h).stands hk

/-- A subscription of session `u`, which is there if it is session `s`. -/
theorem stands_subscribed (hk : cp.Stands s k) (u : SessionId) (key : HandlerKey)
    (receiver : Receiver) :
    (cp.subscribeUnder u key receiver).2.Stands s (if u = s then k.subscribed else k) := by
  split
  · next hu => exact hu ▸ stands_subscribeUnder hk key receiver
  · next hu =>
    cases k with
    | present => exact (contains_subscribeUnder cp u key receiver s).trans hk
    | tidy => exact tidy_subscribeUnder hk (fun heq => absurd heq hu) key receiver
    | stray => trivial

/-- Unless its object is not there, a subscription of session `u` leaves session `s` as building a
handler does. -/
theorem stands_subscribeWith {x : ObjectId} {eventType : String} {Q : Footing → Prop}
    {build : HandlerFactory → ControlPlane → Except Failure Receiver × ControlPlane}
    (hk : cp.Stands s k) (hQ : Q (if u = s then .present else k))
    (hbuild : ∀ f mid, cp.dispatcher.factory = some f →
      mid.Stands s (if u = s then .present else k) →
        ∃ k', Q (if (build f mid).1.isOk ∧ u = s then k'.subscribed else k') ∧
          (build f mid).2.Stands s k') :
    (cp.subscribeWith u x eventType build).2 = cp ∨
      ∃ k', Q k' ∧ (cp.subscribeWith u x eventType build).2.Stands s k' := by
  have hcases := cp.subscribesWith u x eventType build
  generalize cp.subscribeWith u x eventType build = r at hcases ⊢
  have hbuilt : ∀ {o mid key f}, cp.touch u x = .ok (o, mid) →
      mid.dispatcher.supply x u eventType = .ok (key, .built f) →
        ∃ k', Q (if (build f mid).1.isOk ∧ u = s then k'.subscribed else k') ∧
          (build f mid).2.Stands s k' := fun ht hs =>
    hbuild _ _ ((factory_touch ht).symm.trans (Dispatcher.supply_built hs).2.1)
      (stands_touch ht hk)
  cases hcases with
  | missed => exact Or.inl rfl
  | unheard ht => exact Or.inr ⟨_, hQ, stands_touch ht hk⟩
  | shared ht =>
    -- nothing is called back, so the session is there if the subscription is its own
    have hshared := stands_subscribed (stands_touch ht hk) u
    refine Or.inr ⟨_, hQ, ?_⟩
    by_cases hu : u = s
    · simp only [if_pos hu] at hshared ⊢
      exact hshared _ _
    · simp only [if_neg hu] at hshared ⊢
      exact hshared _ _
  | refused ht hs hb =>
    obtain ⟨k', hk', hstands⟩ := hbuilt ht hs
    rw [hb] at hk' hstands
    exact Or.inr ⟨k', by simpa [Except.isOk, Except.toBool] using hk', hstands⟩
  | built ht hs hb =>
    obtain ⟨k', hk', hstands⟩ := hbuilt ht hs
    rw [hb] at hk' hstands
    exact Or.inr ⟨_, by simpa [Except.isOk, Except.toBool] using hk',
      stands_subscribed hstands u _ _⟩

/-- Building a handler leaves the session as the plan says. -/
theorem stands_buildHandler {plan : BuildPlan} {Q : Bool → Footing → Prop}
    (hplan : plan.Leaves s Q k) (hk : cp.Stands s k) :
    ∃ k', Q (buildHandler plan cp).1.isOk k' ∧ (buildHandler plan cp).2.Stands s k' := by
  induction plan generalizing cp k Q with
  | done receiver =>
    have hplain : Plain cp (cp.noteBuilt receiver) := by
      cases receiver <;> exact Plain.of_eq rfl rfl
    exact ⟨k, hplan, hplain.stands hk⟩
  | refuse reason => exact ⟨k, hplan, hk⟩
  | lookFirst rest ih => exact ih _ (hplan _) hk
  | subscribeFirst u x eventType inner rest ih ih' =>
    obtain ⟨hnone, hinner⟩ := hplan
    have hentered : (cp.enter u).Stands s (if u = s then .present else k) := by
      split
      · next hu => exact hu ▸ contains_enter cp u
      · exact (plain_enter cp u).stands hk
    have hidem : (if u = s then Footing.present else if u = s then .present else k) =
        if u = s then .present else k := by
      split <;> rfl
    have hasked : ((cp.enter u).subscribeWith u x eventType fun _ =>
          buildHandler inner).2 = cp.enter u ∨
        ∃ k', (∀ answer, (rest answer).Leaves s Q k') ∧
          ((cp.enter u).subscribeWith u x eventType fun _ =>
            buildHandler inner).2.Stands s k' :=
      stands_subscribeWith hentered (hidem.symm ▸ hnone)
        fun _ mid _ hmid => ih hinner (hidem ▸ hmid)
    -- however far the request came, the plan goes on from there
    obtain ⟨k', hgoesOn, hstands⟩ : ∃ k', (∀ answer, (rest answer).Leaves s Q k') ∧
        ((cp.enter u).subscribeWith u x eventType fun _ => buildHandler inner).2.Stands s k' := by
      rcases hasked with heq | hstands
      · exact ⟨_, hnone, heq.symm ▸ hentered⟩
      · exact hstands
    have hcount : ∀ {mid : ControlPlane} {metrics : Metrics}, Plain mid { mid with metrics } :=
      Plain.of_eq rfl rfl
    exact ih' _ (hgoesOn _) (hcount.stands ((plain_leave _ u).stands hstands))
  | closeFirst u forced rest ih =>
    unfold buildHandler
    split
    · refine ih _ (hplan _) ?_
      split
      · exact hk.closed
      · exact hk
    · next heq => exact ih _ (hplan _) (stands_closeSession heq hk)

/-! ## Operations -/

theorem plain_create (cp : ControlPlane) (t : SessionId) (typeName : String) (params : Value) :
    Plain cp (cp.create t typeName params).2 := by
  unfold create
  split
  · exact Plain.of_eq rfl rfl
  · split
    · exact Plain.refl cp
    · split
      · exact Plain.refl cp
      · unfold createUnder
        simp only
        split
        · exact Plain.of_eq rfl rfl
        · next element mid hc =>
          have hbegun : Plain cp mid := by
            obtain ⟨mock, rfl⟩ := construct_ok hc
            exact Plain.of_eq rfl rfl
          split
          · exact hbegun
          · exact hbegun.trans (plain_register mid t _)

theorem dispatcher_invokeMock (cp : ControlPlane) (o : MediaObject) (operation : String)
    (params : Value) : (cp.invokeMock o operation params).2.dispatcher = cp.dispatcher := by
  unfold invokeMock
  simp only
  split
  · rfl
  · rfl
  · rfl
  · split <;> rfl
  · rfl

theorem dispatcher_invokeLoopback {o : MediaObject} {properties : Members} {sinks : List ObjectId}
    {operation : String} {params value : Value}
    (h : cp.invokeLoopback o properties sinks operation params = .ok (value, next)) :
    next.dispatcher = cp.dispatcher := by
  unfold invokeLoopback at h
  split at h
  · split at h
    · cases h
    · cases h
      unfold connectSink
      simp only
      split <;> rfl
  · split at h
    · cases h
    · cases h
      unfold disconnectSink
      split <;> rfl
  · cases h
    rfl
  · split at h
    · cases h
    · cases h
      rfl
  · split at h
    · cases h
    · cases h
      rfl
  · cases h
    rfl
  · cases h

/-- Elements raise events, and do not subscribe to any. -/
theorem dispatcher_invokeElement (cp : ControlPlane) (o : MediaObject) (operation : String)
    (params : Value) : (cp.invokeElement o operation params).2.dispatcher = cp.dispatcher := by
  unfold invokeElement
  split
  · exact dispatcher_invokeMock cp o operation params
  · split
    · rfl
    · next heq => exact dispatcher_invokeLoopback heq

theorem plain_invoke (cp : ControlPlane) (t : SessionId) (object : ObjectId) (operation : String)
    (params : Value) : Plain cp (cp.invoke t object operation params).2 := by
  unfold invoke
  split
  · exact Plain.refl cp
  · next o mid ht =>
    refine (plain_touch ht).trans ?_
    split
    · exact Plain.refl mid
    · next heq =>
      rcases builtin?_ok heq with rfl | ⟨f, rfl, -⟩
      · exact Plain.refl _
      · exact Plain.of_eq rfl rfl
    · have hs := sessions_invokeElement mid o operation params
      have hd := dispatcher_invokeElement mid o operation params
      split <;>
      · next heq =>
        rw [heq] at hs hd
        exact Plain.of_eq hs hd

theorem plain_unsubscribe (cp : ControlPlane) (t : SessionId) (object : ObjectId)
    (id : SubscriptionId) : Plain cp (cp.unsubscribe t object id).2 := by
  unfold unsubscribe
  split
  · exact Plain.refl cp
  · next o mid ht =>
    split
    · exact plain_touch ht
    · next dispatcher hd =>
      have hgauge : Plain { mid with dispatcher } ({ mid with dispatcher }.gaugeSubscriptions) :=
        Plain.of_eq rfl rfl
      exact ((plain_touch ht).trans (plain_unsubscribed hd)).trans hgauge

theorem plain_settle (result : Value) {r : Except Failure ControlPlane}
    (h : ∀ next, r = .ok next → Plain cp next) : Plain cp (cp.settle result r).2 := by
  cases r with
  | error e => exact Plain.refl cp
  | ok next => exact h next rfl

theorem plain_claim {object : ObjectId} (h : cp.claim t object = .ok next) : Plain cp next := by
  unfold claim at h
  split at h
  · cases h
    exact plain_withTouch cp t object .strong
  · cases h

theorem plain_unref {object : ObjectId} (h : cp.unref t object = .ok next) : Plain cp next := by
  unfold unref at h
  split at h
  · cases h
    exact plain_dropReferences cp t _ _
  · cases h

theorem plain_release {object : ObjectId} (h : cp.release t object = .ok next) :
    Plain cp next := by
  unfold release at h
  split at h
  · cases h
    exact plain_dropReferences cp t _ _
  · cases h

theorem tidy_subscribe (hs : cp.Tidy s)
    (hf : ∀ f, cp.dispatcher.factory = some f → f.Tidies s) (t : SessionId) (object : ObjectId)
    (eventType : String) (params : Value) : (cp.subscribe t object eventType params).2.Tidy s := by
  have hk : cp.Stands s .tidy := hs
  have hthere : (if t = s then Footing.present else .tidy) ≠ .stray := by
    split <;> decide
  rcases stands_subscribeWith (Q := (· ≠ .stray)) hk hthere fun f mid hfactory hmid =>
      stands_buildHandler (hf f hfactory object t eventType params) hmid with heq | hstands
  · exact heq.symm ▸ hs
  · obtain ⟨k', hk', hstands⟩ := hstands
    exact hstands.tidy hk'

/-- No operation leaves a subscription of a closed session behind, unless the transport makes it. -/
theorem tidy_execute (hs : cp.Tidy s) (hf : ∀ f, cp.dispatcher.factory = some f → f.Tidies s)
    (t : SessionId) (op : Operation) : (cp.execute t op).2.Tidy s := by
  unfold execute
  cases op with
  | create typeName params => exact (plain_create cp t typeName params).tidy hs
  | invoke object operation params => exact (plain_invoke cp t object operation params).tidy hs
  | ref object => exact (plain_settle _ fun next h => plain_claim h).tidy hs
  | unref object => exact (plain_settle _ fun next h => plain_unref h).tidy hs
  | release object => exact (plain_settle _ fun next h => plain_release h).tidy hs
  | describe object =>
    simp only
    split
    · exact hs
    · next heq => exact (plain_touch heq).tidy hs
  | subscribe object eventType params => exact tidy_subscribe hs hf t object eventType params
  | unsubscribe object id => exact (plain_unsubscribe cp t object id).tidy hs
  | transaction | closeSession | keepAlive | connect | ping => exact hs

/-! ## Between operations -/

/-- Session `s` is tidy, and the installed factory keeps it so. -/
structure KeptTidy (s : SessionId) (cp : ControlPlane) : Prop where
  tidy : cp.Tidy s
  factory : ∀ f, cp.dispatcher.factory = some f → f.Tidies s

theorem KeptTidy.steady (h : KeptTidy s cp) (hsteady : Steady cp next) (ht : next.Tidy s) :
    KeptTidy s next := by
  refine ⟨ht, fun f hf => h.factory f ?_⟩
  rw [← hsteady.factory_eq]
  exact hf

/-- A plain step that is a change of its own. -/
theorem KeptTidy.plain (h : KeptTidy s cp) (hc : Change t Leeway.full cp next)
    (hp : Plain cp next) : KeptTidy s next := h.steady hc.steady (hp.tidy h.tidy)

theorem enduring_keptTidy (s : SessionId) : Enduring (KeptTidy s) where
  execute := fun t op h => h.steady (execute_stretch (Dispatcher.within_full _) t op).steady
    (tidy_execute h.tidy h.factory t op)
  register := fun t c h => h.steady (steady_register _ t c) ((plain_register _ t c).tidy h.tidy)
  enter := fun t h => h.plain (t := t) .enter (plain_enter _ t)
  leave := fun t h => h.plain (t := t) .leave (plain_leave _ t)
  connect := fun t h => h.plain (t := t) .connect (plain_connect _ t)
  keepAlive := fun hok h => h.plain (.keepAlive hok) (plain_keepAlive hok)
  close := fun hok h => h.steady (steady_closeSession hok) (tidy_closeSession hok h.tidy)
  draw := fun h => h.plain (t := default) .draw (Plain.of_eq rfl rfl)
  record := fun _ _ h => ⟨h.tidy, h.factory⟩

end ControlPlane

end MediaPlane
