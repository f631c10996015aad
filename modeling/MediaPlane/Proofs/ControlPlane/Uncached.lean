import MediaPlane.ControlPlane.Call

/-
  Nothing that runs in a session looks at the retry cache. With another cache in place, each step
  has the same result and leaves the same state, but for that other cache, which it does not touch.
  This is said function by function, in the order in which they are built on one another, up to
  transactions (`runEntries_withCache`) and to what only commands do. No step is excepted, so it
  also holds of transports that call back.
-/

namespace MediaPlane

namespace ControlPlane

/-- Puts another retry cache in place. -/
def withCache (cp : ControlPlane) (cache : RetryCache) : ControlPlane := { cp with cache }

/-- Puts another retry cache in place where a step ended. -/
def recache {α : Type} (cache : RetryCache) (r : α × ControlPlane) : α × ControlPlane :=
  (r.1, r.2.withCache cache)

variable (cp : ControlPlane) (cache : RetryCache) (s : SessionId) (x : ObjectId)

/-! ## Small steps -/

theorem holdings_withCache : (cp.withCache cache).holdings = cp.holdings := rfl

theorem registry_withCache : (cp.withCache cache).registry = cp.registry := rfl

theorem sessions_withCache : (cp.withCache cache).sessions = cp.sessions := rfl

theorem dispatcher_withCache : (cp.withCache cache).dispatcher = cp.dispatcher := rfl

theorem now_withCache : (cp.withCache cache).now = cp.now := rfl

theorem admission_withCache : (cp.withCache cache).admission = cp.admission := rfl

theorem catalog_withCache : (cp.withCache cache).catalog = cp.catalog := rfl

theorem sessionTtl_withCache : (cp.withCache cache).sessionTtl = cp.sessionTtl := rfl

theorem dispatcher_update_withCache (dispatcher : Dispatcher) :
    ({ cp.withCache cache with dispatcher } : ControlPlane) =
      ({ cp with dispatcher } : ControlPlane).withCache cache := rfl

theorem drawName_withCache : (cp.withCache cache).drawName = recache cache cp.drawName := rfl

theorem enter_withCache : (cp.withCache cache).enter s = (cp.enter s).withCache cache := by
  unfold enter
  simp only [sessions_withCache, now_withCache]
  split
  · next h => exact if_pos h
  · next h => exact if_neg h

theorem connect_withCache : (cp.withCache cache).connect s = (cp.connect s).withCache cache := by
  unfold connect
  simp only [sessions_withCache, now_withCache]
  split
  · next h => exact if_pos h
  · next h => exact if_neg h

theorem keepAlive_withCache :
    (cp.withCache cache).keepAlive s = (cp.keepAlive s).map (·.withCache cache) := by
  unfold keepAlive
  rw [sessions_withCache]
  split <;> rfl

theorem touch_withCache :
    (cp.withCache cache).touch s x = (cp.touch s x).map (recache cache) := by
  unfold touch
  rw [registry_withCache]
  cases cp.registry.get x <;> rfl

theorem ensureLive_withCache :
    (cp.withCache cache).ensureLive x = recache cache (cp.ensureLive x) := by
  unfold ensureLive
  rw [registry_withCache]
  split <;> rfl

theorem dismantleAll_withCache (removed : List MediaObject) :
    removed.foldl dismantle (cp.withCache cache) =
      (removed.foldl dismantle cp).withCache cache := by
  induction removed generalizing cp with
  | nil => rfl
  | cons o removed ih => exact ih (cp.dismantle o)

theorem teardown_withCache (reason : RemovalReason) (removed : List MediaObject) :
    (cp.withCache cache).teardown reason removed =
      (cp.teardown reason removed).withCache cache := by
  unfold teardown
  rw [dismantleAll_withCache]
  split <;> rfl

/-! ## Creation -/

theorem construct_withCache (entry : CatalogEntry) (params : Value) :
    (cp.withCache cache).construct entry x params =
      (cp.construct entry x params).map (recache cache) := by
  unfold construct
  simp only
  split
  · show (if cp.mock.refuses then _ else _) = _
    split <;> rfl
  · cases initialProperties params <;> rfl

theorem register_withCache (c : Construction) :
    (cp.withCache cache).register s c = recache cache (cp.register s c) := by
  unfold register
  rw [registry_withCache, now_withCache]
  cases cp.registry.put (.new c.id c.type c.parent c.element cp.now) <;> rfl

theorem createUnder_withCache (entry : CatalogEntry) (parent : Option ObjectId) (params : Value) :
    (cp.withCache cache).createUnder s entry parent params =
      recache cache (cp.createUnder s entry parent params) := by
  unfold createUnder
  rw [drawName_withCache]
  simp only [recache, construct_withCache]
  cases cp.drawName.2.construct entry
    (.below parent cp.drawName.1 entry.type.qualifiedName) params with
  | error fault => rfl
  | ok built =>
    simp only [Except.map, recache]
    cases constructionTime entry params with
    | some ms => rfl
    | none => simp only [register_withCache, recache]

theorem create_withCache (typeName : String) (params : Value) :
    (cp.withCache cache).create s typeName params =
      recache cache (cp.create s typeName params) := by
  have hparent : ∀ type, (cp.withCache cache).parentFor type params = cp.parentFor type params :=
    fun _ => rfl
  unfold create
  rw [registry_withCache, admission_withCache, catalog_withCache]
  cases cp.admission.check cp.registry.size with
  | error e => rfl
  | ok _ =>
    simp only
    cases cp.catalog.find typeName with
    | error e => rfl
    | ok entry =>
      simp only [hparent]
      cases cp.parentFor entry.type params with
      | error e => rfl
      | ok parent => exact createUnder_withCache cp cache s entry parent params

/-! ## Invocation -/

theorem connectSink_withCache (o : MediaObject) (properties : Members) (sinks : List ObjectId)
    (sink : ObjectId) :
    (cp.withCache cache).connectSink o properties sinks sink =
      (cp.connectSink o properties sinks sink).withCache cache := by
  unfold connectSink
  by_cases hlive : (liveSinks cp.registry sinks).contains sink = true
  · simp only [registry_withCache, hlive, if_true]
    rfl
  · simp only [registry_withCache, hlive]
    rfl

theorem disconnectSink_withCache (o : MediaObject) (properties : Members) (sinks : List ObjectId)
    (sink : ObjectId) :
    (cp.withCache cache).disconnectSink o properties sinks sink =
      (cp.disconnectSink o properties sinks sink).withCache cache := by
  unfold disconnectSink
  split <;> rfl

theorem invokeLoopback_withCache (o : MediaObject) (properties : Members) (sinks : List ObjectId)
    (operation : String) (params : Value) :
    (cp.withCache cache).invokeLoopback o properties sinks operation params =
      (cp.invokeLoopback o properties sinks operation params).map (recache cache) := by
  unfold invokeLoopback
  simp only [registry_withCache, connectSink_withCache, disconnectSink_withCache]
  split
  · cases connectionTarget cp.registry o params <;> rfl
  · cases textParam params "sink" <;> rfl
  · rfl
  · cases textParam params "name" <;> rfl
  · cases textParam params "name" <;> rfl
  · rfl
  · rfl

theorem invokeMock_withCache (o : MediaObject) (operation : String) (params : Value) :
    (cp.withCache cache).invokeMock o operation params =
      recache cache (cp.invokeMock o operation params) := by
  unfold invokeMock
  simp only
  split
  · rfl
  · rfl
  · rfl
  · split <;> rfl
  · rfl

theorem invokeElement_withCache (o : MediaObject) (operation : String) (params : Value) :
    (cp.withCache cache).invokeElement o operation params =
      recache cache (cp.invokeElement o operation params) := by
  unfold invokeElement
  cases o.element with
  | mock => exact invokeMock_withCache cp cache o operation params
  | loopback properties sinks =>
    simp only [invokeLoopback_withCache]
    cases cp.invokeLoopback o properties sinks operation params <;> rfl

theorem builtin?_withCache (o : MediaObject) (operation : String) (params : Value) :
    (cp.withCache cache).builtin? o operation params =
      (cp.builtin? o operation params).map (Except.map (recache cache)) := by
  unfold builtin?
  simp only [registry_withCache]
  split
  · rfl
  · cases argument "setName" params "name" <;> rfl
  · rfl
  · rfl
  · cases cp.registry.rootOf o.id <;> rfl
  · rfl
  · cases argument "addTag" params "key" with
    | error e => rfl
    | ok key => cases argument "addTag" params "value" <;> rfl
  · cases argument "removeTag" params "key" <;> rfl
  · cases argument "getTag" params "key" with
    | error e => rfl
    | ok key =>
      simp only [bind, Except.bind]
      cases o.tags[key]? <;> rfl
  · rfl
  · rfl

theorem invoke_withCache (object : ObjectId) (operation : String) (params : Value) :
    (cp.withCache cache).invoke s object operation params =
      recache cache (cp.invoke s object operation params) := by
  unfold invoke
  rw [touch_withCache]
  cases cp.touch s object with
  | error e => rfl
  | ok touched =>
    obtain ⟨o, mid⟩ := touched
    simp only [Except.map, recache, builtin?_withCache, invokeElement_withCache]
    rcases mid.builtin? o operation params with _ | e | ⟨value, last⟩
    · simp only [Option.map_none]
      rcases mid.invokeElement o operation params with ⟨⟨fault | value⟩ | ⟨value, after⟩, last⟩ <;>
        rfl
    · rfl
    · rfl

/-! ## References -/

theorem dropReferences_withCache (objects : List ObjectId) (reason : RemovalReason) :
    (cp.withCache cache).dropReferences s objects reason =
      (cp.dropReferences s objects reason).withCache cache :=
  teardown_withCache { cp with holdings := _ } cache reason _

theorem claim_withCache :
    (cp.withCache cache).claim s x = (cp.claim s x).map (·.withCache cache) := by
  unfold claim
  rw [registry_withCache]
  split <;> rfl

theorem unref_withCache :
    (cp.withCache cache).unref s x = (cp.unref s x).map (·.withCache cache) := by
  unfold unref
  rw [registry_withCache, dropReferences_withCache]
  split <;> rfl

theorem release_withCache :
    (cp.withCache cache).release s x = (cp.release s x).map (·.withCache cache) := by
  unfold release
  rw [registry_withCache, dropReferences_withCache]
  split <;> rfl

theorem closeSession_withCache (forced : Bool) :
    (cp.withCache cache).closeSession s forced =
      (cp.closeSession s forced).map (recache cache) := by
  unfold closeSession
  rw [holdings_withCache]
  cases cp.holdings.close s (if forced then .forced else .soft) with
  | error e => rfl
  | ok closed =>
    have hdropped : ∀ (holdings : Holdings),
        ({ cp.withCache cache with holdings } : ControlPlane).dropSubscriptions s =
          (({ cp with holdings } : ControlPlane).dropSubscriptions s).withCache cache :=
      fun _ => rfl
    simp only [hdropped, teardown_withCache]
    rfl

/-! ## Subscriptions -/

theorem subscribeUnder_withCache (key : HandlerKey) (receiver : Receiver) :
    (cp.withCache cache).subscribeUnder s key receiver =
      recache cache (cp.subscribeUnder s key receiver) := by
  unfold subscribeUnder
  simp only [drawName_withCache, recache, dispatcher_withCache]
  rw [dispatcher_update_withCache, ensureLive_withCache]
  rcases ControlPlane.ensureLive _ key.object with ⟨e | _, last⟩ <;> rfl

theorem subscribeWith_withCache (eventType : String)
    {build : HandlerFactory → ControlPlane → Except Failure Receiver × ControlPlane}
    (hbuild : ∀ f cp, build f (ControlPlane.withCache cp cache) = recache cache (build f cp)) :
    (cp.withCache cache).subscribeWith s x eventType build =
      recache cache (cp.subscribeWith s x eventType build) := by
  unfold subscribeWith
  rw [touch_withCache]
  cases cp.touch s x with
  | error e => rfl
  | ok touched =>
    obtain ⟨o, mid⟩ := touched
    simp only [Except.map, recache, dispatcher_withCache]
    rcases mid.dispatcher.supply x s eventType with e | ⟨key, h | factory⟩
    · rfl
    · exact subscribeUnder_withCache mid cache s key h.receiver
    · simp only [hbuild factory mid, recache]
      rcases build factory mid with ⟨e | receiver, last⟩
      · rfl
      · exact subscribeUnder_withCache last cache s key receiver

theorem buildHandler_withCache (plan : BuildPlan) :
    buildHandler plan (cp.withCache cache) = recache cache (buildHandler plan cp) := by
  induction plan generalizing cp with
  | done receiver => cases receiver <;> rfl
  | refuse reason => rfl
  | lookFirst rest ih => exact ih cp.snapshot cp
  | subscribeFirst u y eventType inner rest ih ih' =>
    unfold buildHandler
    rw [enter_withCache, subscribeWith_withCache _ cache u y eventType fun _ cp => ih cp]
    generalize (cp.enter u).subscribeWith u y eventType (fun _ => buildHandler inner) = subscribed
    exact ih' subscribed.1
      ((subscribed.2.leave u).countRequest Method.subscribe.name subscribed.1)
  | closeFirst u forced rest ih =>
    unfold buildHandler
    rw [closeSession_withCache]
    cases cp.closeSession u forced with
    | error e => exact ih (.error e) cp
    | ok closed => exact ih (.ok closed.1) closed.2

theorem subscribe_withCache (eventType : String) (params : Value) :
    (cp.withCache cache).subscribe s x eventType params =
      recache cache (cp.subscribe s x eventType params) :=
  subscribeWith_withCache cp cache s x eventType fun _ cp => buildHandler_withCache cp cache _

theorem unsubscribe_withCache (id : SubscriptionId) :
    (cp.withCache cache).unsubscribe s x id = recache cache (cp.unsubscribe s x id) := by
  unfold unsubscribe
  rw [touch_withCache]
  cases cp.touch s x with
  | error e => rfl
  | ok touched =>
    obtain ⟨o, mid⟩ := touched
    simp only [Except.map, recache, dispatcher_withCache]
    cases mid.dispatcher.unsubscribe x s id <;> rfl

/-! ## Operations and transactions -/

theorem settle_withCache (result : Value) (r : Except Failure ControlPlane) :
    (cp.withCache cache).settle result (r.map (·.withCache cache)) =
      recache cache (cp.settle result r) := by
  cases r <;> rfl

theorem execute_withCache (op : Operation) :
    (cp.withCache cache).execute s op = recache cache (cp.execute s op) := by
  unfold execute
  cases op with
  | create typeName params => exact create_withCache cp cache s typeName params
  | invoke object operation params => exact invoke_withCache cp cache s object operation params
  | ref object =>
    simp only [claim_withCache]
    exact settle_withCache cp cache _ _
  | unref object =>
    simp only [unref_withCache]
    exact settle_withCache cp cache _ _
  | release object =>
    simp only [release_withCache]
    exact settle_withCache cp cache _ _
  | describe object =>
    simp only [touch_withCache]
    cases cp.touch s object <;> rfl
  | subscribe object eventType params => simp only [subscribe_withCache, recache]
  | unsubscribe object id => simp only [unsubscribe_withCache, recache]
  | transaction | closeSession | keepAlive | connect | ping => rfl

theorem executeEntry_withCache (slots : Slots) (method : String) (params : Value) :
    (cp.withCache cache).executeEntry s slots method params =
      recache cache (cp.executeEntry s slots method params) := by
  unfold executeEntry
  cases entryOperation slots method params with
  | error e => rfl
  | ok op => exact execute_withCache cp cache s op

theorem runEntries_withCache (slots : Slots) (results entries : List Value) :
    (cp.withCache cache).runEntries s slots results entries =
      recache cache (cp.runEntries s slots results entries) := by
  induction entries generalizing cp slots results with
  | nil => rfl
  | cons entry rest ih =>
    unfold runEntries
    cases Operation.splitEntry entry with
    | error e => exact ih cp slots _
    | ok parts =>
      obtain ⟨method, params⟩ := parts
      simp only [executeEntry_withCache, recache]
      rcases cp.executeEntry s slots method params with ⟨result | w, mid⟩
      · exact ih mid _ _
      · rfl

theorem finishWait_withCache (w : Wait) :
    (cp.withCache cache).finishWait s w = recache cache (cp.finishWait s w) := by
  cases w with
  | construction c ready => exact register_withCache cp cache s c
  | answer value ready => rfl

/-! ## What only commands do -/

theorem expire?_withCache :
    (cp.withCache cache).expire? s = (cp.expire? s).map (·.withCache cache) := by
  unfold expire?
  rw [holdings_withCache, now_withCache, sessionTtl_withCache]
  rcases cp.holdings.close s (.idle cp.now cp.sessionTtl) with e | _ | ⟨closure, holdings⟩
  · rfl
  · rfl
  · exact congrArg some (teardown_withCache
      (({ cp with holdings } : ControlPlane).dropSubscriptions s) cache .unreferenced _)

theorem expireAll_withCache (ss : List SessionId) :
    (cp.withCache cache).expireAll ss = recache cache (cp.expireAll ss) := by
  induction ss generalizing cp with
  | nil => rfl
  | cons s ss ih =>
    unfold expireAll
    rw [expire?_withCache]
    cases cp.expire? s with
    | none => exact ih cp
    | some mid =>
      simp only [Option.map_some, ih]
      rfl

theorem sweep_withCache : (cp.withCache cache).sweep = recache cache cp.sweep := by
  unfold sweep
  have hidle : (cp.withCache cache).sessions.idle (cp.withCache cache).now
      (cp.withCache cache).sessionTtl = cp.sessions.idle cp.now cp.sessionTtl := rfl
  simp only [hidle, expireAll_withCache, recache]
  split <;> rfl

theorem shutdown_withCache : (cp.withCache cache).shutdown = cp.shutdown.withCache cache := by
  have hdrop : ∀ (ss : List SessionId) (cp : ControlPlane),
      ss.foldl dropSubscriptions (cp.withCache cache) =
        (ss.foldl dropSubscriptions cp).withCache cache := by
    intro ss
    induction ss with
    | nil => exact fun _ => rfl
    | cons s ss ih => exact fun cp => ih (cp.dropSubscriptions s)
  unfold shutdown
  have hdrained := hdrop cp.sessions.ids
    { cp with
      holdings :=
        { registry := cp.registry.drain.2,
          sessions := cp.sessions.removeSessions cp.sessions.ids } }
  have htorn := congrArg (·.teardown .shutdown cp.registry.drain.1) hdrained
  simp only [teardown_withCache] at htorn
  exact congrArg (fun cp : ControlPlane =>
    { cp with metrics := { cp.metrics with sessionsActive := some 0 } }.gaugeSubscriptions) htorn

theorem emit_withCache (eventType : String) (data : Value) :
    (cp.withCache cache).emit x eventType data =
      (cp.emit x eventType data).map (recache cache) := by
  unfold emit
  rw [registry_withCache]
  split <;> rfl

theorem connectHandler_withCache (eventType : String) (receiver : Receiver) :
    (cp.withCache cache).connectHandler x s eventType receiver =
      recache cache (cp.connectHandler x s eventType receiver) := by
  unfold connectHandler
  rw [touch_withCache]
  cases cp.touch s x with
  | error e => rfl
  | ok touched =>
    obtain ⟨o, mid⟩ := touched
    simp only [Except.map, recache, drawName_withCache, dispatcher_withCache]
    rw [dispatcher_update_withCache, ensureLive_withCache]
    rcases ControlPlane.ensureLive _ x with ⟨e | _, last⟩ <;> rfl

theorem shareHandler_withCache (id : SubscriptionId) (handler : Handler) :
    (cp.withCache cache).shareHandler x s id handler =
      recache cache (cp.shareHandler x s id handler) := by
  unfold shareHandler
  rw [touch_withCache]
  cases cp.touch s x with
  | error e => rfl
  | ok touched =>
    obtain ⟨o, mid⟩ := touched
    simp only [Except.map, recache, dispatcher_withCache]
    cases mid.dispatcher.share x s id handler with
    | error e => rfl
    | ok dispatcher =>
      simp only
      rw [dispatcher_update_withCache, ensureLive_withCache]
      rcases ControlPlane.ensureLive _ x with ⟨e | _, last⟩ <;> rfl

end ControlPlane

end MediaPlane
