import MediaPlane.Proofs.ControlPlane.Completion
import MediaPlane.Proofs.ControlPlane.Custody

/-
  Operations that fail leave no trace (`Runs.traceless`). The points of failure lie all over an
  operation: before it touches anything, after it touched the object that it addresses, and after an
  element was built for an object that then could not be registered. What they have in common is
  `Traceless`: objects, subscriptions and handlers are as they were, an element that was built is
  released again, and the session has at most touched the object that it addressed. The transport
  is assumed not to call back while it builds a handler.
-/

namespace MediaPlane

/-- The object that an operation touches before it does anything with it. -/
def Operation.addressed? : Operation → Option ObjectId
  | invoke object .. | subscribe object .. | unsubscribe object .. => some object
  | _ => none

/-- The journal once these elements were built and released again. -/
def Journal.undone (j : Journal) (ids : List ObjectId) : Journal :=
  { j with constructed := j.constructed ++ ids, released := j.released ++ ids }

theorem Journal.undone_nil (j : Journal) : j.undone [] = j := by
  unfold undone
  rw [List.append_nil, List.append_nil]

theorem Journal.undone_trans {j mid last : Journal} (h : ∃ ids, mid = j.undone ids)
    (h' : ∃ ids, last = mid.undone ids) : ∃ ids, last = j.undone ids := by
  obtain ⟨ids, rfl⟩ := h
  obtain ⟨more, rfl⟩ := h'
  refine ⟨ids ++ more, ?_⟩
  unfold undone
  rw [← List.append_assoc, ← List.append_assoc]

namespace ControlPlane

variable {cp mid next : ControlPlane} {s : SessionId} {e : Failure} {addressed : Option ObjectId}

/-- What a failure leaves behind: the session may have touched the object that it addressed. -/
structure Traceless (s : SessionId) (addressed : Option ObjectId) (cp next : ControlPlane) :
    Prop where
  /-- All objects with their parents, names, tags and elements. -/
  registry_eq : next.registry = cp.registry
  /-- All subscriptions and handlers. -/
  dispatcher_eq : next.dispatcher = cp.dispatcher
  /-- Nothing happened but that elements were built and released again. -/
  journal_eq : ∃ ids, next.journal = cp.journal.undone ids
  reference?_eq : ∀ u x, next.sessions.reference? u x = cp.sessions.reference? u x ∨
    (u = s ∧ addressed = some x ∧ cp.registry.contains x = true ∧
      cp.sessions.reference? u x = none ∧ next.sessions.reference? u x = some .touched)

namespace Traceless

/-- Nothing that a failure could leave behind has changed. -/
theorem of_eq (hr : next.registry = cp.registry) (hd : next.dispatcher = cp.dispatcher)
    {ids : List ObjectId} (hj : next.journal = cp.journal.undone ids)
    (ht : ∀ u x, next.sessions.reference? u x = cp.sessions.reference? u x) :
    Traceless s addressed cp next := ⟨hr, hd, ⟨ids, hj⟩, fun u x => Or.inl (ht u x)⟩

/-- Neither the tables nor the journal change. -/
theorem of_holdings (hh : next.holdings = cp.holdings) (hd : next.dispatcher = cp.dispatcher)
    (hj : next.journal = cp.journal) : Traceless s addressed cp next :=
  of_eq (congrArg Holdings.registry hh) hd (hj.trans cp.journal.undone_nil.symm) fun u x =>
    congrArg (SessionTable.reference? · u x) (congrArg Holdings.sessions hh)

theorem refl (cp : ControlPlane) : Traceless s addressed cp cp := of_holdings rfl rfl rfl

theorem reference?_of_none (h : Traceless s none cp next) (u : SessionId) (x : ObjectId) :
    next.sessions.reference? u x = cp.sessions.reference? u x := by
  rcases h.reference?_eq u x with heq | ⟨-, hnone, -⟩
  · exact heq
  · cases hnone

/-- First nothing is addressed, and then an object. -/
theorem trans (h : Traceless s none cp mid) (h' : Traceless s addressed mid next) :
    Traceless s addressed cp next where
  registry_eq := h'.registry_eq.trans h.registry_eq
  dispatcher_eq := h'.dispatcher_eq.trans h.dispatcher_eq
  journal_eq := Journal.undone_trans h.journal_eq h'.journal_eq
  reference?_eq := by
    intro u x
    rw [← h.reference?_of_none u x, ← h.registry_eq]
    exact h'.reference?_eq u x

/-- First an object is addressed, and then nothing. -/
theorem andThen (h : Traceless s addressed cp mid) (h' : Traceless s none mid next) :
    Traceless s addressed cp next where
  registry_eq := h'.registry_eq.trans h.registry_eq
  dispatcher_eq := h'.dispatcher_eq.trans h.dispatcher_eq
  journal_eq := Journal.undone_trans h.journal_eq h'.journal_eq
  reference?_eq := by
    intro u x
    rw [h'.reference?_of_none u x]
    exact h.reference?_eq u x

end Traceless

theorem traceless_enter (cp : ControlPlane) (s : SessionId) : Traceless s none cp (cp.enter s) := by
  obtain ⟨metrics, heq⟩ := enter_eq cp s
  rw [heq]
  exact .of_eq rfl rfl cp.journal.undone_nil.symm fun u x =>
    SessionTable.reference?_enter cp.sessions s u cp.now x

theorem traceless_leave (cp : ControlPlane) (s : SessionId) : Traceless s none cp (cp.leave s) :=
  .of_eq rfl rfl cp.journal.undone_nil.symm fun u x =>
    SessionTable.reference?_leave cp.sessions s u cp.now x

theorem traceless_respond (cp : ControlPlane) (caller : Caller) (result : Except Failure Value) :
    Traceless s none cp (cp.respond caller result).2 := by
  obtain ⟨metrics, cache, heq⟩ := respond_snd cp caller result
  rw [heq]
  exact .of_holdings rfl rfl rfl

/-- A session that touches an object has a reference to it afterwards, and had it before or not. -/
theorem traceless_touch {x : ObjectId} {o : MediaObject} (h : cp.touch s x = .ok (o, next)) :
    Traceless s (some x) cp next := by
  obtain ⟨ho, rfl⟩ := touch_ok h
  have hlive : cp.registry.contains x = true := by
    rw [Registry.contains_eq]
    exact Option.isSome_of_eq_some ho
  refine ⟨rfl, rfl, ⟨[], cp.journal.undone_nil.symm⟩, fun u y => ?_⟩
  rw [sessions_withSessions, SessionTable.reference?_touch]
  split
  · next hsame =>
    obtain ⟨rfl, rfl⟩ := hsame
    cases hk : cp.sessions.reference? s x with
    | none => exact Or.inr ⟨rfl, rfl, hlive, rfl, rfl⟩
    | some k =>
      refine Or.inl ?_
      cases k <;> rfl
  · exact Or.inl rfl

/-! ## Creation -/

/-- However long its construction took. -/
theorem Begins.traceless {c : Construction} (h : cp.Begins c mid) {ms : Nat}
    (hfail : ((mid.advance ms).register s c).1 = .error e) :
    Traceless s addressed cp ((mid.advance ms).register s c).2 := by
  rw [register_error hfail]
  obtain ⟨mock, rfl⟩ := h.eq
  have hjournal : (({ cp.drawName.2 with
      mock, journal := { cp.journal with
        constructed := cp.journal.constructed ++ [c.id] } }.advance ms).releaseElement c.id
          c.element).journal = cp.journal.undone [c.id] := rfl
  exact .of_eq rfl rfl hjournal fun _ _ => rfl

theorem traceless_create {typeName : String} {params : Value}
    (h : cp.create s typeName params = (.settled (.error e), next)) :
    Traceless s addressed cp next := by
  have hc := creates cp s typeName params
  rw [h] at hc
  generalize hout : Outcome.settled (.error e) = outcome at hc
  cases hc with
  | refused | failed | unbuilt => exact .of_holdings rfl rfl rfl
  | @built c mid _ hb =>
    have hfail : ((mid.advance 0).register s c).1 = .error e := (Outcome.settled.inj hout).symm
    exact hb.traceless hfail
  | begun => cases hout

/-- A creation that waits has begun a construction. -/
theorem begins_of_create_waiting {typeName : String} {params : Value} {w : Wait}
    (h : cp.create s typeName params = (.waiting w, next)) :
    ∃ c ready, w = .construction c ready ∧ cp.Begins c next := by
  have hc := creates cp s typeName params
  rw [h] at hc
  cases hc with
  | begun _ hb ready => exact ⟨_, ready, rfl, hb⟩

/-! ## Invocation -/

/-- An element that fails has changed nothing, but that a mock engine counted the invocation. -/
theorem invokeElement_error {o : MediaObject} {operation : String} {params : Value}
    {fault : EngineFault}
    (h : cp.invokeElement o operation params = (.now (.error fault), next)) :
    ∃ mock, next = { cp with mock } := by
  unfold invokeElement at h
  split at h
  · unfold invokeMock at h
    simp only at h
    split at h
    · cases h
    · cases h
      exact ⟨_, rfl⟩
    · cases h
    · split at h <;> cases h
    · cases h
      exact ⟨_, rfl⟩
  · split at h
    · cases h
      exact ⟨cp.mock, rfl⟩
    · cases h

theorem traceless_invoke {object : ObjectId} {operation : String} {params : Value}
    (h : cp.invoke s object operation params = (.settled (.error e), next)) :
    Traceless s (some object) cp next := by
  unfold invoke at h
  split at h
  · cases h
    exact .refl cp
  · next o mid ht =>
    refine (traceless_touch ht).andThen ?_
    split at h
    · cases h
      exact .refl _
    · cases h
    · split at h
      · next heq =>
        cases h
        obtain ⟨mock, rfl⟩ := invokeElement_error heq
        exact .of_holdings rfl rfl rfl
      · cases h
      · cases h

/-- An invocation that waits has its answer on the way. -/
theorem answer_of_invoke_waiting {object : ObjectId} {operation : String} {params : Value}
    {w : Wait} (h : cp.invoke s object operation params = (.waiting w, next)) :
    ∃ value ready, w = .answer value ready := by
  unfold invoke at h
  split at h
  · cases h
  · split at h
    · cases h
    · cases h
    · split at h
      · cases h
      · cases h
      · cases h
        exact ⟨_, _, rfl⟩

/-! ## Subscriptions -/

/-- A subscription to a live object does not fail once its handler is there. -/
theorem subscribeUnder_of_live {key : HandlerKey} (h : cp.registry.contains key.object = true)
    (s : SessionId) (receiver : Receiver) :
    (cp.subscribeUnder s key receiver).1 = .ok (valueResult (.str cp.drawName.1)) := by
  have hattached : (cp.attached s key receiver).registry.contains key.object = true := h
  have hlook : ((cp.attached s key receiver).ensureLive key.object).1 = .ok () :=
    congrArg Prod.fst (ensureLive_of_live _ hattached)
  unfold subscribeUnder
  simp only
  split
  · next heq =>
    have he := (congrArg Prod.fst heq).symm.trans hlook
    cases he
  · rfl

/-- A plan without calls back comes to what it comes to alone, and at most a handler is noted. -/
theorem buildHandler_of_not_callsBack {plan : BuildPlan} (hquiet : plan.callsBack = false)
    (cp : ControlPlane) :
    (∃ receiver, plan.alone = .ok receiver ∧
        buildHandler plan cp = (.ok receiver, cp.noteBuilt receiver)) ∨
      ∃ e, plan.alone = .error e ∧ buildHandler plan cp = (.error e, cp) := by
  cases plan with
  | done receiver => exact Or.inl ⟨receiver, rfl, rfl⟩
  | refuse reason => exact Or.inr ⟨reason, rfl, rfl⟩
  | lookFirst | subscribeFirst | closeFirst => cases hquiet

theorem registry_noteBuilt (cp : ControlPlane) (receiver : Receiver) :
    (cp.noteBuilt receiver).registry = cp.registry := by
  cases receiver <;> rfl

/-- Where nobody is called back, a subscription needs what the dispatcher says that it needs. -/
theorem subscribe_of_not_callsBack {object : ObjectId} {o : MediaObject} {eventType : String}
    {params : Value}
    (hquiet : ∀ f, cp.dispatcher.factory = some f →
      (f.plan object s eventType params).callsBack = false)
    (ht : cp.touch s object = .ok (o, mid)) :
    cp.subscribe s object eventType params =
      match mid.dispatcher.receiverFor object s eventType params with
      | .error e => (.error e, mid)
      | .ok (key, receiver, built) =>
        (if built then mid.noteBuilt receiver else mid).subscribeUnder s key receiver := by
  unfold subscribe subscribeWith Dispatcher.receiverFor
  rw [ht]
  simp only
  cases hs : mid.dispatcher.supply object s eventType with
  | error e => rfl
  | ok r =>
    obtain ⟨key, _ | f⟩ := r
    · rfl
    · have hf : cp.dispatcher.factory = some f :=
        (factory_touch ht).symm.trans (Dispatcher.supply_built hs).2.1
      rcases buildHandler_of_not_callsBack (hquiet f hf) mid with
        ⟨receiver, halone, hbuilt⟩ | ⟨e, halone, hbuilt⟩
      · simp only [halone, hbuilt]
        rfl
      · simp only [halone, hbuilt]

/-- With the object there, only a transport that refuses makes the request fail. -/
theorem traceless_subscribe {object : ObjectId} {eventType : String} {params : Value}
    (hquiet : ∀ f, cp.dispatcher.factory = some f →
      (f.plan object s eventType params).callsBack = false)
    (h : cp.subscribe s object eventType params = (.error e, next)) :
    Traceless s (some object) cp next := by
  cases ht : cp.touch s object with
  | error failure =>
    unfold subscribe subscribeWith at h
    rw [ht] at h
    cases h
    exact .refl cp
  | ok r =>
    obtain ⟨o, mid⟩ := r
    rw [subscribe_of_not_callsBack hquiet ht] at h
    split at h
    · cases h
      exact traceless_touch ht
    · next key receiver built hr =>
      have hlive : (if built then mid.noteBuilt receiver else mid).registry.contains key.object =
          true := by
        rw [Dispatcher.object_of_receiverFor hr, ← contains_of_touch ht]
        split
        · rw [registry_noteBuilt]
        · rfl
      have hok := subscribeUnder_of_live hlive s receiver
      rw [h] at hok
      cases hok

theorem traceless_unsubscribe {object : ObjectId} {id : SubscriptionId}
    (h : cp.unsubscribe s object id = (.error e, next)) : Traceless s (some object) cp next := by
  unfold unsubscribe at h
  split at h
  · cases h
    exact .refl cp
  · next o mid ht =>
    split at h
    · cases h
      exact traceless_touch ht
    · cases h

/-! ## All operations -/

theorem traceless_settle {result : Value} {r : Except Failure ControlPlane}
    (h : cp.settle result r = (.settled (.error e), next)) : Traceless s addressed cp next := by
  cases r with
  | error e' =>
    cases h
    exact .refl cp
  | ok last => cases h

theorem settle_not_waiting {result : Value} {r : Except Failure ControlPlane} {w : Wait}
    (h : cp.settle result r = (.waiting w, next)) : False := by
  cases r <;> cases h

theorem traceless_execute (hquiet : ∀ f, cp.dispatcher.factory = some f →
      ∀ object eventType params, (f.plan object s eventType params).callsBack = false)
    {op : Operation} (h : cp.execute s op = (.settled (.error e), next)) :
    Traceless s op.addressed? cp next := by
  unfold execute at h
  cases op with
  | create typeName params => exact traceless_create h
  | invoke object operation params => exact traceless_invoke h
  | ref object => exact traceless_settle h
  | unref object => exact traceless_settle h
  | release object => exact traceless_settle h
  | describe object =>
    simp only at h
    split at h
    · cases h
      exact .refl cp
    · cases h
  | subscribe object eventType params =>
    obtain ⟨hsettled, rfl⟩ := Prod.mk.inj h
    have hfail : (cp.subscribe s object eventType params).1 = .error e :=
      Outcome.settled.inj hsettled
    exact traceless_subscribe (fun f hf => hquiet f hf object eventType params)
      (Prod.ext hfail rfl)
  | unsubscribe object id =>
    obtain ⟨hsettled, rfl⟩ := Prod.mk.inj h
    have hfail : (cp.unsubscribe s object id).1 = .error e := Outcome.settled.inj hsettled
    exact traceless_unsubscribe (Prod.ext hfail rfl)
  | transaction | closeSession | keepAlive | connect | ping =>
    cases h
    exact .refl cp

/-- What an operation waits for is an answer that will come, or a construction that it began. -/
theorem execute_waiting {op : Operation} {w : Wait} (h : cp.execute s op = (.waiting w, next)) :
    (∃ value ready, w = .answer value ready) ∨
      ∃ c ready, w = .construction c ready ∧ cp.Begins c next := by
  unfold execute at h
  cases op with
  | create typeName params => exact Or.inr (begins_of_create_waiting h)
  | invoke object operation params => exact Or.inl (answer_of_invoke_waiting h)
  | ref object => exact (settle_not_waiting h).elim
  | unref object => exact (settle_not_waiting h).elim
  | release object => exact (settle_not_waiting h).elim
  | describe object =>
    simp only at h
    split at h <;> cases h
  | subscribe | unsubscribe | transaction | closeSession | keepAlive | connect | ping => cases h

/-- An operation that runs to its end, with or without a wait, and fails. -/
theorem Runs.traceless (hquiet : ∀ f, cp.dispatcher.factory = some f →
      ∀ object eventType params, (f.plan object s eventType params).callsBack = false)
    {op : Operation} (h : Runs cp s op (.error e) next) :
    Traceless s op.addressed? cp next := by
  generalize hresult : (.error e : Except Failure Value) = result at h
  cases h with
  | settled heq =>
    subst hresult
    exact traceless_execute hquiet heq
  | waited ms heq hready =>
    rcases execute_waiting heq with ⟨value, ready, rfl⟩ | ⟨c, ready, rfl, hb⟩
    · cases hresult
    · exact hb.traceless hresult.symm

end ControlPlane

end MediaPlane
