import MediaPlane.Proofs.ControlPlane.Steady
import MediaPlane.Proofs.Session.References

/-
  What an operation can do, said once and exactly. Everything but a creation is a chain of moves of
  a few kinds (`Move`): it touches live objects, drops references, raises events, subscribes, and so
  on, each with the gauges and counters that go with it. What can come of subscribing is said by
  `SubscribesWith`. A transport that is called back may subscribe in other sessions and close some
  on the way; its leeway is a parameter, and a chain says how many of its requests were answered
  (`Moves`). `moves_execute` says that every operation but a creation is such a chain, with as many
  requests as `requestsWithin` counts. A creation ends in one of five ways, according to how far it
  came (`Creates`).
-/

namespace MediaPlane

/-! ## Leeway -/

/-- How far a request may go: which sessions may be closed, and whether by force, and in which
sessions a transport that is called back may subscribe. -/
structure Leeway where
  closes : SessionId → Bool → Prop
  subscribes : SessionId → Prop

/-- Any session may be closed, and any one subscribed in. -/
abbrev Leeway.full : Leeway where
  closes _ _ := True
  subscribes _ := True

namespace BuildPlan

/-- Whatever it is answered, a plan keeps to what it may do. -/
def Within (P : Leeway) : BuildPlan → Prop
  | done _ | refuse _ => True
  | lookFirst rest => ∀ answer, (rest answer).Within P
  | subscribeFirst session _ _ inner rest =>
    P.subscribes session ∧ inner.Within P ∧ ∀ answer, (rest answer).Within P
  | closeFirst session forced rest =>
    P.closes session forced ∧ ∀ answer, (rest answer).Within P

theorem within_of_not_callsBack {P : Leeway} {plan : BuildPlan} (h : plan.callsBack = false) :
    plan.Within P := by
  cases plan with
  | done | refuse => trivial
  | lookFirst | subscribeFirst | closeFirst => cases h

theorem within_full (plan : BuildPlan) : plan.Within .full := by
  induction plan with
  | done | refuse => trivial
  | lookFirst rest ih => exact ih
  | subscribeFirst session object eventType inner rest ih ih' => exact ⟨trivial, ih, ih'⟩
  | closeFirst session forced rest ih => exact ⟨trivial, ih⟩

end BuildPlan

/-! ## What is waited for -/

/-- What an operation waits for. -/
def Outcome.wait? : Outcome → Option Wait
  | settled _ => none
  | waiting w => some w

/-- What a transaction waits for. -/
def BatchOutcome.wait? : BatchOutcome → Option Wait
  | completed _ => none
  | waiting w _ => some w

namespace Dispatcher

/-- Whatever the installed factory is to build, it keeps to what it may do. -/
def Within (d : Dispatcher) (P : Leeway) : Prop :=
  ∀ f, d.factory = some f → ∀ object session eventType params,
    (f.plan object session eventType params).Within P

theorem within_full (d : Dispatcher) : d.Within .full :=
  fun _ _ _ _ _ _ => BuildPlan.within_full _

end Dispatcher

namespace ControlPlane

variable {cp mid next : ControlPlane} {s : SessionId} {P : Leeway} {tacit : Prop} {n k : Nat}

theorem contains_enter (cp : ControlPlane) (s : SessionId) :
    (cp.enter s).sessions.contains s = true := by
  obtain ⟨metrics, heq⟩ := enter_eq cp s
  rw [heq]
  exact (SessionTable.contains_enter cp.sessions s s cp.now).mpr (Or.inl rfl)

/-! ## Moves -/

/-- One move of an operation in session `s`. `P` says which sessions may be closed, and `tacit`
whether a touch may bring its session about, which nobody is told of. -/
inductive Move (s : SessionId) (P : Leeway) (tacit : Prop) (cp : ControlPlane) :
    ControlPlane → Prop where
  | mock (mock : MockEngine) : Move s P tacit cp { cp with mock }
  | built (receiver : Receiver) : Move s P tacit cp (cp.noteBuilt receiver)
  | enter : Move s P tacit cp (cp.enter s)
  | touch {x : ObjectId} (k : Strength) (hs : tacit ∨ cp.sessions.contains s = true)
      (h : cp.registry.contains x = true) :
      Move s P tacit cp (cp.withSessions (cp.sessions.touch s x k cp.now))
  | annotate (x : ObjectId) (f : MediaObject → MediaObject) : Move s P tacit cp (cp.annotate x f)
  | raise (e : Event) : Move s P tacit cp (cp.raise e).2
  | dropReferences (ids : List ObjectId) (reason : RemovalReason) :
      Move s P tacit cp (cp.dropReferences s ids reason)
  | subscribe (key : HandlerKey) (receiver : Receiver) :
      Move s P tacit cp (cp.subscribeUnder s key receiver).2
  | unsubscribe {x : ObjectId} {id : SubscriptionId} {dispatcher : Dispatcher}
      (h : cp.dispatcher.unsubscribe x s id = .ok dispatcher) :
      Move s P tacit cp { cp with dispatcher }.gaugeSubscriptions
  | close {u : SessionId} {forced : Bool} {n : Nat} {next : ControlPlane} (hP : P.closes u forced)
      (h : cp.closeSession u forced = .ok (n, next)) : Move s P tacit cp next

/-- A chain of moves in session `s`, and in those where a transport may subscribe. The transport
enters them first, so that none of them comes about tacitly. So many of its requests are answered on
the way. -/
inductive Moves (s : SessionId) (P : Leeway) (tacit : Prop) (cp : ControlPlane) :
    Nat → ControlPlane → Prop where
  | refl : Moves s P tacit cp 0 cp
  | tail {n : Nat} {mid next : ControlPlane} (h : Moves s P tacit cp n mid)
      (hm : Move s P tacit mid next) : Moves s P tacit cp n next
  | aside {u : SessionId} (hu : P.subscribes u) {n : Nat} {mid next : ControlPlane}
      (h : Moves s P tacit cp n mid) (hm : Move u P False mid next) : Moves s P tacit cp n next
  | answered {u : SessionId} (hu : P.subscribes u) {n : Nat} {mid : ControlPlane}
      (h : Moves s P tacit cp n mid) (result : Except Failure Value) :
      Moves s P tacit cp (n + 1) ((mid.leave u).countRequest Method.subscribe.name result)

theorem Moves.one (h : Move s P tacit cp next) : Moves s P tacit cp 0 next := .tail .refl h

theorem Moves.trans (h : Moves s P tacit cp n mid) (h' : Moves s P tacit mid k next) :
    Moves s P tacit cp (n + k) next := by
  induction h' with
  | refl => exact h
  | tail _ hm ih => exact .tail ih hm
  | aside hu _ hm ih => exact .aside hu ih hm
  | answered hu _ result ih => exact .answered hu ih result

/-- What goes on in a session where a transport may subscribe may go on aside. -/
theorem Moves.lent {u : SessionId} (hu : P.subscribes u) (h : Moves u P False cp n next) :
    Moves s P tacit cp n next := by
  induction h with
  | refl => exact .refl
  | tail _ hm ih => exact .aside hu ih hm
  | aside hv _ hm ih => exact .aside hv ih hm
  | answered hv _ result ih => exact .answered hv ih result

/-- No requests come first. -/
theorem Moves.after (h : Moves s P tacit cp 0 mid) (h' : Moves s P tacit mid k next) :
    Moves s P tacit cp k next := by
  have htrans := h.trans h'
  rwa [Nat.zero_add] at htrans

theorem touch_ok {x : ObjectId} {o : MediaObject} (h : cp.touch s x = .ok (o, next)) :
    cp.registry.find? x = some o ∧
      next = cp.withSessions (cp.sessions.touch s x .touched cp.now) := by
  unfold ControlPlane.touch at h
  split at h
  · cases h
  · next heq =>
    cases h
    exact ⟨Registry.get_eq_ok_iff.mp heq, rfl⟩

theorem touch_of_gone {x : ObjectId} (hx : cp.registry.contains x = false) (s : SessionId) :
    cp.touch s x = .error (.objectNotFound x) := by
  rw [Registry.contains_eq, Option.isSome_eq_false_iff, Option.isNone_iff_eq_none] at hx
  unfold touch Registry.get
  rw [hx]

theorem contains_of_touch {x : ObjectId} {o : MediaObject} (h : cp.touch s x = .ok (o, next)) :
    next.registry.contains x = true := by
  obtain ⟨ho, rfl⟩ := touch_ok h
  show cp.registry.contains x = true
  rw [Registry.contains_eq]
  exact Option.isSome_of_eq_some ho

theorem touch_error {x : ObjectId} {e : Failure} (h : cp.touch s x = .error e) :
    e = .objectNotFound x := by
  unfold touch Registry.get at h
  cases hx : cp.registry.find? x with
  | none =>
    rw [hx] at h
    cases h
    rfl
  | some o =>
    rw [hx] at h
    cases h

theorem factory_touch {x : ObjectId} {o : MediaObject} (h : cp.touch s x = .ok (o, next)) :
    next.dispatcher.factory = cp.dispatcher.factory := by
  obtain ⟨-, rfl⟩ := touch_ok h
  rfl

theorem moves_touch (hs : tacit ∨ cp.sessions.contains s = true) {x : ObjectId} {o : MediaObject}
    (h : cp.touch s x = .ok (o, next)) : Moves s P tacit cp 0 next := by
  obtain ⟨ho, rfl⟩ := touch_ok h
  refine .one (.touch .touched hs ?_)
  rw [Registry.contains_eq, ho]
  rfl

/-! ## Invocations -/

theorem bind_eq_ok {ε α β : Type} {x : Except ε α} {f : α → Except ε β} {r : β}
    (h : (x >>= f) = .ok r) : ∃ a, x = .ok a ∧ f a = .ok r := by
  cases x with
  | error e => cases h
  | ok a => exact ⟨a, rfl, h⟩

/-- What every object can do changes nothing but what the registry keeps about it, its type and
its element apart. -/
theorem builtin?_ok {o : MediaObject} {operation : String} {params value : Value}
    (h : cp.builtin? o operation params = some (.ok (value, next))) :
    next = cp ∨ ∃ f, next = cp.annotate o.id f ∧
      ∀ o, (f o).type = o.type ∧ (f o).element = o.element := by
  unfold builtin? at h
  split at h
  · cases h
    exact Or.inl rfl
  · obtain ⟨name, -, hr⟩ := bind_eq_ok (Option.some.inj h)
    cases hr
    exact Or.inr ⟨_, rfl, fun _ => ⟨rfl, rfl⟩⟩
  · cases h
    exact Or.inl rfl
  · cases h
    exact Or.inl rfl
  · obtain ⟨root, -, hr⟩ := bind_eq_ok (Option.some.inj h)
    cases hr
    exact Or.inl rfl
  · cases h
    exact Or.inl rfl
  · obtain ⟨key, -, hr⟩ := bind_eq_ok (Option.some.inj h)
    obtain ⟨value, -, hr⟩ := bind_eq_ok hr
    cases hr
    exact Or.inr ⟨_, rfl, fun _ => ⟨rfl, rfl⟩⟩
  · obtain ⟨key, -, hr⟩ := bind_eq_ok (Option.some.inj h)
    cases hr
    exact Or.inr ⟨_, rfl, fun _ => ⟨rfl, rfl⟩⟩
  · obtain ⟨key, -, hr⟩ := bind_eq_ok (Option.some.inj h)
    split at hr
    · cases hr
      exact Or.inl rfl
    · cases hr
  · cases h
    exact Or.inl rfl
  · cases h

theorem moves_setElement (cp : ControlPlane) (x : ObjectId) (element : Element) :
    Moves s P tacit cp 0 (cp.setElement x element) := .one (.annotate x _)

theorem moves_setElement_raise (cp : ControlPlane) (x : ObjectId) (element : Element)
    (e : Event) : Moves s P tacit cp 0 ((cp.setElement x element).raise e).2 :=
  (moves_setElement cp x element).tail (.raise e)

theorem moves_invokeLoopback {o : MediaObject} {properties : Members} {sinks : List ObjectId}
    {operation : String} {params value : Value}
    (h : cp.invokeLoopback o properties sinks operation params = .ok (value, next)) :
    Moves s P tacit cp 0 next := by
  unfold invokeLoopback at h
  split at h
  · split at h
    · cases h
    · cases h
      unfold connectSink
      simp only
      split
      · exact moves_setElement cp _ _
      · exact moves_setElement_raise cp _ _ _
  · split at h
    · cases h
    · cases h
      unfold disconnectSink
      split
      · exact moves_setElement_raise cp _ _ _
      · exact .refl
  · cases h
    exact moves_setElement cp _ _
  · split at h
    · cases h
    · cases h
      exact moves_setElement cp _ _
  · split at h
    · cases h
    · cases h
      exact .refl
  · cases h
    exact .refl
  · cases h

theorem moves_invokeMock (cp : ControlPlane) (o : MediaObject) (operation : String)
    (params : Value) : Moves s P tacit cp 0 (cp.invokeMock o operation params).2 := by
  have hcount : Moves s P tacit cp 0
      { cp with mock := { cp.mock with invocations := cp.mock.invocations + 1 } } :=
    .one (.mock _)
  unfold invokeMock
  simp only
  split
  · exact hcount
  · exact hcount
  · exact hcount.tail (.raise _)
  · split <;> exact hcount
  · exact hcount

theorem moves_invokeElement (cp : ControlPlane) (o : MediaObject) (operation : String)
    (params : Value) : Moves s P tacit cp 0 (cp.invokeElement o operation params).2 := by
  unfold invokeElement
  split
  · exact moves_invokeMock cp o operation params
  · split
    · exact .refl
    · next heq => exact moves_invokeLoopback heq

theorem moves_invoke (hs : tacit ∨ cp.sessions.contains s = true) (object : ObjectId)
    (operation : String) (params : Value) :
    Moves s P tacit cp 0 (cp.invoke s object operation params).2 := by
  unfold invoke
  split
  · exact .refl
  · next o mid ht =>
    refine Moves.after (moves_touch hs ht) ?_
    split
    · exact .refl
    · next heq =>
      rcases builtin?_ok heq with rfl | ⟨f, rfl, -⟩
      · exact .refl
      · exact .one (.annotate o.id f)
    · have he : Moves s P tacit mid 0 (mid.invokeElement o operation params).2 :=
        moves_invokeElement mid o operation params
      split
      · next heq =>
        rw [heq] at he
        exact he
      · next heq =>
        rw [heq] at he
        exact he
      · next heq =>
        rw [heq] at he
        exact he

/-! ## Subscriptions -/

/-- What can come of subscribing, by how far it came. -/
inductive SubscribesWith (s : SessionId) (object : ObjectId) (eventType : String)
    (build : HandlerFactory → ControlPlane → Except Failure Receiver × ControlPlane)
    (cp : ControlPlane) : Except Failure Value × ControlPlane → Prop where
  /-- The object is not there. -/
  | missed {e : Failure} (ht : cp.touch s object = .error e) :
      SubscribesWith s object eventType build cp (.error e, cp)
  /-- Nobody builds handlers. -/
  | unheard {o : MediaObject} {mid : ControlPlane} {e : Failure}
      (ht : cp.touch s object = .ok (o, mid))
      (hs : mid.dispatcher.supply object s eventType = .error e) :
      SubscribesWith s object eventType build cp (.error e, mid)
  | shared {o : MediaObject} {mid : ControlPlane} {key : HandlerKey} {h : Handler}
      (ht : cp.touch s object = .ok (o, mid))
      (hs : mid.dispatcher.supply object s eventType = .ok (key, .shared h)) :
      SubscribesWith s object eventType build cp (mid.subscribeUnder s key h.receiver)
  /-- The transport refuses. -/
  | refused {o : MediaObject} {mid next : ControlPlane} {key : HandlerKey} {f : HandlerFactory}
      {e : Failure} (ht : cp.touch s object = .ok (o, mid))
      (hs : mid.dispatcher.supply object s eventType = .ok (key, .built f))
      (hb : build f mid = (.error e, next)) :
      SubscribesWith s object eventType build cp (.error e, next)
  | built {o : MediaObject} {mid next : ControlPlane} {key : HandlerKey} {f : HandlerFactory}
      {receiver : Receiver} (ht : cp.touch s object = .ok (o, mid))
      (hs : mid.dispatcher.supply object s eventType = .ok (key, .built f))
      (hb : build f mid = (.ok receiver, next)) :
      SubscribesWith s object eventType build cp (next.subscribeUnder s key receiver)

theorem subscribesWith (cp : ControlPlane) (s : SessionId) (object : ObjectId)
    (eventType : String)
    (build : HandlerFactory → ControlPlane → Except Failure Receiver × ControlPlane) :
    SubscribesWith s object eventType build cp (cp.subscribeWith s object eventType build) := by
  unfold subscribeWith
  split
  · next ht => exact .missed ht
  · next ht =>
    split
    · next hs => exact .unheard ht hs
    · next hs => exact .shared ht hs
    · next hs =>
      split
      · next hb => exact .refused ht hs hb
      · next hb => exact .built ht hs hb

/-- What holds between the states before and after a touch, a subscription and whatever builds a
handler, holds of all of it. -/
theorem related_subscribeWith {R : ControlPlane → ControlPlane → Prop} {object : ObjectId}
    {eventType : String}
    {build : HandlerFactory → ControlPlane → Except Failure Receiver × ControlPlane}
    (hrefl : R cp cp) (htrans : ∀ {a b c}, R a b → R b c → R a c)
    (htouch : ∀ {o mid}, cp.touch s object = .ok (o, mid) → R cp mid)
    (hsubscribe : ∀ mid key receiver, R mid (mid.subscribeUnder s key receiver).2)
    (hbuild : ∀ f mid, cp.dispatcher.factory = some f → R mid (build f mid).2) :
    R cp (cp.subscribeWith s object eventType build).2 := by
  have hcases := cp.subscribesWith s object eventType build
  generalize cp.subscribeWith s object eventType build = r at hcases ⊢
  have hasked : ∀ {o mid key f}, cp.touch s object = .ok (o, mid) →
      mid.dispatcher.supply object s eventType = .ok (key, .built f) → R cp (build f mid).2 :=
    fun ht hs => htrans (htouch ht)
      (hbuild _ _ ((factory_touch ht).symm.trans (Dispatcher.supply_built hs).2.1))
  cases hcases with
  | missed => exact hrefl
  | unheard ht => exact htouch ht
  | shared ht => exact htrans (htouch ht) (hsubscribe _ _ _)
  | refused ht hs hb =>
    have hbuilt := hasked ht hs
    rw [hb] at hbuilt
    exact hbuilt
  | built ht hs hb =>
    have hbuilt := hasked ht hs
    rw [hb] at hbuilt
    exact htrans hbuilt (hsubscribe _ _ _)

/-- How many requests are made on the way to a subscription; `calls` says how many are made while a
handler is built, if one has to be. -/
def subscribeCalls (cp : ControlPlane) (session : SessionId) (object : ObjectId)
    (eventType : String) (calls : HandlerFactory → ControlPlane → Nat) : Nat :=
  match cp.touch session object with
  | .error _ => 0
  | .ok (_, cp) =>
    match cp.dispatcher.supply object session eventType with
    | .error _ | .ok (_, .shared _) => 0
    | .ok (_, .built factory) => calls factory cp

/-- How many requests a plan makes: each subscription that comes first, and those on its way. -/
def buildCalls : BuildPlan → ControlPlane → Nat
  | .done _, _ | .refuse _, _ => 0
  | .lookFirst rest, cp => buildCalls (rest cp.snapshot) cp
  | .subscribeFirst session object eventType inner rest, cp =>
    let (result, next) := (cp.enter session).subscribeWith session object eventType fun _ =>
      buildHandler inner
    ((cp.enter session).subscribeCalls session object eventType fun _ => buildCalls inner) + 1 +
      buildCalls (rest result) ((next.leave session).countRequest Method.subscribe.name result)
  | .closeFirst session forced rest, cp =>
    match cp.closeSession session forced with
    | .error e => buildCalls (rest (.error e)) cp
    | .ok (n, cp) => buildCalls (rest (.ok n)) cp

/-- How many requests are made and answered on the way through an operation. -/
def requestsWithin (cp : ControlPlane) (session : SessionId) (op : Operation) : Nat :=
  match op with
  | .subscribe object eventType params =>
    cp.subscribeCalls session object eventType fun factory =>
      buildCalls (factory.plan object session eventType params)
  | _ => 0

theorem moves_subscribeWith (hs : tacit ∨ cp.sessions.contains s = true) (object : ObjectId)
    (eventType : String) {build : HandlerFactory → ControlPlane →
      Except Failure Receiver × ControlPlane} {calls : HandlerFactory → ControlPlane → Nat}
    (hb : ∀ f cp', cp.dispatcher.factory = some f →
      Moves s P tacit cp' (calls f cp') (build f cp').2) :
    Moves s P tacit cp (cp.subscribeCalls s object eventType calls)
      (cp.subscribeWith s object eventType build).2 := by
  unfold subscribeCalls
  have hcases := cp.subscribesWith s object eventType build
  generalize cp.subscribeWith s object eventType build = r at hcases ⊢
  cases hcases with
  | missed ht =>
    rw [ht]
    exact .refl
  | unheard ht hsupply =>
    simp only [ht, hsupply]
    exact moves_touch hs ht
  | shared ht hsupply =>
    simp only [ht, hsupply]
    exact (moves_touch hs ht).tail (.subscribe _ _)
  | @refused o mid _ _ f _ ht hsupply hbuild =>
    simp only [ht, hsupply]
    have hbuilt := hb f mid ((factory_touch ht).symm.trans (Dispatcher.supply_built hsupply).2.1)
    rw [hbuild] at hbuilt
    exact Moves.after (moves_touch hs ht) hbuilt
  | @built o mid _ _ f _ ht hsupply hbuild =>
    simp only [ht, hsupply]
    have hbuilt := hb f mid ((factory_touch ht).symm.trans (Dispatcher.supply_built hsupply).2.1)
    rw [hbuild] at hbuilt
    exact (Moves.after (moves_touch hs ht) hbuilt).tail (.subscribe _ _)

/-- A plan keeps to what it may do, whatever it finds and is answered. -/
theorem moves_buildHandler (s : SessionId) {plan : BuildPlan} (hP : plan.Within P)
    (cp : ControlPlane) :
    Moves s P tacit cp (buildCalls plan cp) (buildHandler plan cp).2 := by
  induction plan generalizing cp s tacit with
  | done receiver => exact .one (.built receiver)
  | refuse reason => exact .refl
  | lookFirst rest ih => exact ih cp.snapshot s (hP cp.snapshot) cp
  | subscribeFirst u object eventType inner rest ih ih' =>
    obtain ⟨hu, hinner, hrest⟩ := hP
    have hasked : Moves u P False (cp.enter u)
        ((cp.enter u).subscribeCalls u object eventType fun _ => buildCalls inner)
        ((cp.enter u).subscribeWith u object eventType fun _ => buildHandler inner).2 :=
      moves_subscribeWith (Or.inr (contains_enter cp u)) object eventType
        fun _ cp' _ => ih u hinner cp'
    have haside : Moves s P tacit cp _ _ := (Moves.after (.one .enter) hasked).lent hu
    exact (haside.answered hu _).trans (ih' _ s (hrest _) _)
  | closeFirst u forced rest ih =>
    unfold buildHandler buildCalls
    cases hclose : cp.closeSession u forced with
    | error e => exact ih _ s (hP.2 _) cp
    | ok r => exact Moves.after (.one (.close hP.1 hclose)) (ih _ s (hP.2 _) _)

theorem moves_unsubscribe (hs : tacit ∨ cp.sessions.contains s = true) (object : ObjectId)
    (subscription : SubscriptionId) :
    Moves s P tacit cp 0 (cp.unsubscribe s object subscription).2 := by
  unfold unsubscribe
  split
  · exact .refl
  · next o mid ht =>
    have hmid : Moves s P tacit cp 0 mid := moves_touch hs ht
    split
    · exact hmid
    · next dispatcher hd => exact hmid.tail (.unsubscribe hd)

/-! ## All operations but creations -/

theorem moves_settle (result : Value) {r : Except Failure ControlPlane}
    (h : ∀ next, r = .ok next → Move s P tacit cp next) :
    Moves s P tacit cp 0 (cp.settle result r).2 := by
  cases r with
  | error e => exact .refl
  | ok next => exact .one (h next rfl)

theorem move_claim (hs : tacit ∨ cp.sessions.contains s = true) {object : ObjectId}
    (h : cp.claim s object = .ok next) : Move s P tacit cp next := by
  unfold claim at h
  split at h
  · next hlive =>
    cases h
    exact .touch .strong hs hlive
  · cases h

theorem move_unref {object : ObjectId} (h : cp.unref s object = .ok next) :
    Move s P tacit cp next := by
  unfold unref at h
  split at h
  · cases h
    exact .dropReferences _ _
  · cases h

theorem move_release {object : ObjectId} (h : cp.release s object = .ok next) :
    Move s P tacit cp next := by
  unfold release at h
  split at h
  · cases h
    exact .dropReferences _ _
  · cases h

/-- Every operation that addresses objects is a chain of moves, unless it creates one. -/
theorem moves_execute (hP : cp.dispatcher.Within P)
    (hs : tacit ∨ cp.sessions.contains s = true) {op : Operation} (hop : op.method ≠ .create) :
    Moves s P tacit cp (cp.requestsWithin s op) (cp.execute s op).2 := by
  unfold execute
  cases op with
  | create typeName params => exact absurd rfl hop
  | invoke object operation params => exact moves_invoke hs object operation params
  | ref object => exact moves_settle _ fun next h => move_claim hs h
  | unref object => exact moves_settle _ fun next h => move_unref h
  | release object => exact moves_settle _ fun next h => move_release h
  | describe object =>
    simp only
    split
    · exact .refl
    · next heq => exact moves_touch hs heq
  | subscribe object eventType params =>
    exact moves_subscribeWith hs object eventType fun f cp' hf =>
      moves_buildHandler s (hP f hf object s eventType params) cp'
  | unsubscribe object subscription => exact moves_unsubscribe hs object subscription
  | transaction | closeSession | keepAlive | connect | ping => exact .refl

/-- Only a creation waits for a construction. -/
theorem wait?_execute {op : Operation} (hop : op.method ≠ .create) (cp : ControlPlane)
    (s : SessionId) (c : Construction) (ready : Nat) :
    (cp.execute s op).1.wait? ≠ some (.construction c ready) := by
  have hsettle : ∀ value r, (cp.settle value r).1.wait? ≠ some (.construction c ready) := by
    rintro value (e | next) h <;> cases h
  unfold execute
  cases op with
  | create typeName params => exact absurd rfl hop
  | invoke object operation params =>
    unfold invoke
    simp only
    split
    · exact nofun
    · split
      · exact nofun
      · exact nofun
      · split <;> exact nofun
  | ref object => exact hsettle _ _
  | unref object => exact hsettle _ _
  | release object => exact hsettle _ _
  | describe object =>
    simp only
    split <;> exact nofun
  | subscribe | unsubscribe | transaction | closeSession | keepAlive | connect | ping => exact nofun

/-! ## Creations -/

/-- The construction of `c` begins: a name is drawn, and an element is built for an object of that
name below the parent. -/
def Begins (cp : ControlPlane) (c : Construction) (next : ControlPlane) : Prop :=
  ∃ entry params,
    c.id = .below c.parent cp.drawName.1 entry.type.qualifiedName ∧ c.type = entry.type ∧
      cp.drawName.2.construct entry c.id params = .ok (c.element, next)

/-- How a creation ends, by how far it came. -/
inductive Creates (s : SessionId) (cp : ControlPlane) : Outcome → ControlPlane → Prop where
  /-- It is not admitted. -/
  | refused {e : Failure} (h : cp.admission.exceeded cp.registry.size = true)
      (he : e.code = .notEnoughResources) :
      Creates s cp (.settled (.error e)) { cp with metrics := cp.metrics.countRejected }
  /-- Its type or its parent is not there. -/
  | failed {e : Failure} (h : cp.admission.exceeded cp.registry.size = false)
      (he : e.code ≠ .notEnoughResources) : Creates s cp (.settled (.error e)) cp
  /-- The engine builds no element for it. -/
  | unbuilt (fault : EngineFault) (h : cp.admission.exceeded cp.registry.size = false) :
      Creates s cp (.settled (.error (.engine fault))) cp.drawName.2
  /-- Its element is built, and it is registered or not. -/
  | built {c : Construction} {mid : ControlPlane}
      (h : cp.admission.exceeded cp.registry.size = false) (hb : cp.Begins c mid) :
      Creates s cp (.settled (mid.register s c).1) (mid.register s c).2
  /-- Its element is not there yet. -/
  | begun {c : Construction} {next : ControlPlane}
      (h : cp.admission.exceeded cp.registry.size = false) (hb : cp.Begins c next) (ready : Nat) :
      Creates s cp (.waiting (.construction c ready)) next

/-- How a creation ends whose type and parent are known. -/
inductive CreatesUnder (s : SessionId) (type : ObjectType) (parent : Option ObjectId)
    (cp : ControlPlane) : Outcome → ControlPlane → Prop where
  | unbuilt (fault : EngineFault) :
      CreatesUnder s type parent cp (.settled (.error (.engine fault))) cp.drawName.2
  | built {c : Construction} {mid : ControlPlane} (hb : cp.Begins c mid) (ht : c.type = type)
      (hp : c.parent = parent) :
      CreatesUnder s type parent cp (.settled (mid.register s c).1) (mid.register s c).2
  | begun {c : Construction} {next : ControlPlane} (hb : cp.Begins c next) (ht : c.type = type)
      (hp : c.parent = parent) (ready : Nat) :
      CreatesUnder s type parent cp (.waiting (.construction c ready)) next

theorem createsUnder (cp : ControlPlane) (s : SessionId) (entry : CatalogEntry)
    (parent : Option ObjectId) (params : Value) :
    CreatesUnder s entry.type parent cp (cp.createUnder s entry parent params).1
      (cp.createUnder s entry parent params).2 := by
  unfold createUnder
  simp only
  split
  · exact .unbuilt _
  · next element mid hc =>
    have hb : cp.Begins ⟨.below parent cp.drawName.1 entry.type.qualifiedName, entry.type, parent,
        element⟩ mid := ⟨entry, params, rfl, rfl, hc⟩
    split
    · exact .begun hb rfl rfl _
    · exact .built hb rfl rfl

theorem CreatesUnder.creates {type : ObjectType} {parent : Option ObjectId} {outcome : Outcome}
    (hu : CreatesUnder s type parent cp outcome next)
    (h : cp.admission.exceeded cp.registry.size = false) : Creates s cp outcome next := by
  cases hu with
  | unbuilt fault => exact .unbuilt fault h
  | built hb => exact .built h hb
  | begun hb _ _ ready => exact .begun h hb ready

theorem find_error {catalog : Catalog} {typeName : String} {e : Failure}
    (h : catalog.find typeName = .error e) : e.code ≠ .notEnoughResources := by
  unfold Catalog.find at h
  split at h <;> cases h
  exact nofun

/-- A type of its own tree gets no parent, and any other one a live object of the right kind. -/
theorem parentFor_ok {type : ObjectType} {params : Value} {parent : Option ObjectId}
    (h : cp.parentFor type params = .ok parent) :
    (type.placement = .root ∧ parent = none) ∨
      ∃ param kind x o, type.placement = .under param kind ∧ cp.registry.find? x = some o ∧
        o.kind = kind ∧ parent = some o.id := by
  unfold parentFor at h
  split at h
  · next hplace =>
    cases h
    exact Or.inl ⟨hplace, rfl⟩
  · next param kind hplace =>
    split at h
    · cases h
    · split at h
      · cases h
      · next o hget =>
        cases h
        unfold Registry.getOfKind at hget
        split at hget
        · cases hget
        · next ho =>
          split at hget
          · next hkind =>
            cases hget
            exact Or.inr ⟨param, kind, _, o, hplace, ho, hkind, rfl⟩
          · cases hget

theorem code_of_parentFor {type : ObjectType} {params : Value} {e : Failure}
    (h : cp.parentFor type params = .error e) :
    e.code = .invalidParams ∨ e.code = .objectNotFound := by
  unfold parentFor at h
  split at h
  · cases h
  · split at h
    · cases h
      exact Or.inl rfl
    · split at h
      · next heq =>
        cases h
        unfold Registry.getOfKind at heq
        split at heq
        · cases heq
          exact Or.inr rfl
        · split at heq <;> cases heq
          exact Or.inr rfl
      · cases h

theorem parentFor_error {type : ObjectType} {params : Value} {e : Failure}
    (h : cp.parentFor type params = .error e) : e.code ≠ .notEnoughResources := by
  rcases code_of_parentFor h with hcode | hcode <;> rw [hcode] <;> exact nofun

theorem creates (cp : ControlPlane) (s : SessionId) (typeName : String) (params : Value) :
    Creates s cp (cp.create s typeName params).1 (cp.create s typeName params).2 := by
  unfold create AdmissionControl.check
  cases h : cp.admission.exceeded cp.registry.size with
  | true => exact .refused h rfl
  | false =>
    simp only [Bool.false_eq_true, if_false]
    split
    · next hfind => exact .failed h (find_error hfind)
    · split
      · next hparent => exact .failed h (parentFor_error hparent)
      · exact (createsUnder cp s _ _ params).creates h

/-! ## Handlers that the caller brings -/

/-- An object that is not there cannot be touched, and any other one can. -/
theorem touch_cases (cp : ControlPlane) (s : SessionId) (x : ObjectId) :
    (cp.registry.contains x = false ∧ ∃ e, cp.touch s x = .error e) ∨
      (cp.registry.contains x = true ∧
        ∃ o, cp.touch s x = .ok (o, cp.withSessions (cp.sessions.touch s x .touched cp.now))) := by
  unfold ControlPlane.touch Registry.get
  rw [Registry.contains_eq]
  cases cp.registry.find? x with
  | none => exact Or.inl ⟨rfl, _, rfl⟩
  | some o => exact Or.inr ⟨rfl, o, rfl⟩

theorem connectHandler_of_touch {object : ObjectId} {o : MediaObject}
    (ht : cp.touch s object = .ok (o, mid)) (eventType : String) (receiver : Receiver) :
    (cp.connectHandler object s eventType receiver).2 =
      (mid.attached s (mid.dispatcher.keyFor object s eventType) receiver).confirmed object := by
  unfold connectHandler
  rw [ht]
  simp only
  split
  · next heq => exact (confirmed_of_error heq).symm
  · next heq => exact (confirmed_of_ok heq).symm

/-- What `connectHandler` leaves. Its object was just touched, so that the subscription stays. -/
inductive Connects (s : SessionId) (object : ObjectId) (eventType : String) (receiver : Receiver)
    (cp : ControlPlane) : ControlPlane → Prop where
  | missed (h : cp.registry.contains object = false) :
      Connects s object eventType receiver cp cp
  | connected (h : cp.registry.contains object = true) :
      Connects s object eventType receiver cp
        ((cp.withSessions (cp.sessions.touch s object .touched cp.now)).attached s
          (cp.dispatcher.keyFor object s eventType) receiver).gaugeSubscriptions

theorem connects (cp : ControlPlane) (object : ObjectId) (s : SessionId) (eventType : String)
    (receiver : Receiver) :
    Connects s object eventType receiver cp (cp.connectHandler object s eventType receiver).2 := by
  rcases cp.touch_cases s object with ⟨hgone, e, ht⟩ | ⟨hlive, o, ht⟩
  · unfold connectHandler
    rw [ht]
    exact .missed hgone
  · rw [connectHandler_of_touch ht, confirmed_of_live]
    · exact .connected hlive
    · exact hlive

/-- A handler that the caller brings is subscribed like one that was built. -/
theorem moves_connectHandler (hs : tacit ∨ cp.sessions.contains s = true) (object : ObjectId)
    (eventType : String) (receiver : Receiver) :
    Moves s P tacit cp 0 (cp.connectHandler object s eventType receiver).2 := by
  rcases cp.touch_cases s object with ⟨hgone, e, ht⟩ | ⟨hlive, o, ht⟩
  · unfold connectHandler
    rw [ht]
    exact .refl
  · rw [connectHandler_of_touch ht]
    refine Moves.tail (moves_touch hs ht) ?_
    exact subscribeUnder_snd _ s (cp.dispatcher.keyFor object s eventType) receiver ▸
      .subscribe _ receiver

/-- What `shareHandler` leaves. Its object was just touched, so that a subscription that was added
stays. -/
inductive Shares (s : SessionId) (object : ObjectId) (id : SubscriptionId) (handler : Handler)
    (cp : ControlPlane) : ControlPlane → Prop where
  | missed (h : cp.registry.contains object = false) : Shares s object id handler cp cp
  | touched (h : cp.registry.contains object = true) :
      Shares s object id handler cp
        (cp.withSessions (cp.sessions.touch s object .touched cp.now))
  | shared {dispatcher : Dispatcher} (h : cp.registry.contains object = true)
      (hd : cp.dispatcher.share object s id handler = .ok dispatcher) :
      Shares s object id handler cp
        { cp.withSessions (cp.sessions.touch s object .touched cp.now) with
          dispatcher }.gaugeSubscriptions

theorem shares (cp : ControlPlane) (object : ObjectId) (s : SessionId) (id : SubscriptionId)
    (handler : Handler) :
    Shares s object id handler cp (cp.shareHandler object s id handler).2 := by
  unfold shareHandler
  rcases cp.touch_cases s object with ⟨hgone, e, ht⟩ | ⟨hlive, o, ht⟩
  · rw [ht]
    exact .missed hgone
  · have hshare : (cp.withSessions (cp.sessions.touch s object .touched cp.now)).dispatcher.share
        object s id handler = cp.dispatcher.share object s id handler := rfl
    rw [ht]
    simp only
    rw [hshare]
    cases hd : cp.dispatcher.share object s id handler with
    | error e => exact .touched hlive
    | ok dispatcher =>
      have hthere := ensureLive_of_live
        { cp.withSessions (cp.sessions.touch s object .touched cp.now) with dispatcher } hlive
      simp only
      rw [hthere]
      exact .shared hlive hd

end ControlPlane

end MediaPlane
