import MediaPlane.Proofs.ControlPlane.Stage
import MediaPlane.Proofs.Session.Alike

/-
  Planes that no operation on objects tells apart: they agree in everything but the activity of
  sessions, the metrics and the retry cache (`ControlPlane.Alike`). In alike planes, an operation
  comes to the same result or waits for the same, and leaves alike planes behind (`Alike.execute`).
  Transports that close sessions are left out: they may close the session itself, and then it would
  count whether a request enters it again.
-/

namespace MediaPlane

/-- No session may be closed. -/
abbrev Leeway.unclosing : Leeway where
  closes _ _ := False
  subscribes _ := True

namespace ControlPlane

variable {cp cq cr : ControlPlane}

/-- The same but for the activity of sessions, the metrics and the retry cache. -/
structure Alike (cp cq : ControlPlane) : Prop where
  admission_eq : cq.admission = cp.admission
  sessionTtl_eq : cq.sessionTtl = cp.sessionTtl
  catalog_eq : cq.catalog = cp.catalog
  names_eq : cq.names = cp.names
  now_eq : cq.now = cp.now
  holdings : cp.holdings.Alike cq.holdings
  dispatcher_eq : cq.dispatcher = cp.dispatcher
  mock_eq : cq.mock = cp.mock
  journal_eq : cq.journal = cp.journal

/-- The same result, in planes that are alike. -/
inductive Agree {α : Type} : α × ControlPlane → α × ControlPlane → Prop where
  | mk (a : α) {cp cq : ControlPlane} (h : cp.Alike cq) : Agree (a, cp) (a, cq)

/-- The same failure, or success with the same result in planes that are alike. -/
inductive AgreeOr {ε α : Type} :
    Except ε (α × ControlPlane) → Except ε (α × ControlPlane) → Prop where
  | error (e : ε) : AgreeOr (.error e) (.error e)
  | ok (a : α) {cp cq : ControlPlane} (h : cp.Alike cq) : AgreeOr (.ok (a, cp)) (.ok (a, cq))

namespace Agree

variable {α : Type} {x y : α × ControlPlane}

theorem fst_eq (h : Agree x y) : y.1 = x.1 := by
  cases h
  rfl

theorem snd (h : Agree x y) : x.2.Alike y.2 := by
  cases h with
  | mk a h => exact h

/-- What only depends on the result may be put in its place. -/
theorem map {β : Type} (h : Agree x y) (f : α → β) : Agree (f x.1, x.2) (f y.1, y.2) := by
  cases h with
  | mk a h => exact .mk (f a) h

end Agree

/-- The planes may be made after something that fails alike. -/
theorem AgreeOr.bind {ε α β : Type} (r : Except ε β) {f g : β → Except ε (α × ControlPlane)}
    (h : ∀ b, AgreeOr (f b) (g b)) : AgreeOr (r >>= f) (r >>= g) := by
  cases r with
  | error e => exact .error e
  | ok b => exact h b

namespace Alike

theorem refl (cp : ControlPlane) : cp.Alike cp :=
  ⟨rfl, rfl, rfl, rfl, rfl, ⟨rfl, SessionTable.Alike.refl cp.sessions⟩, rfl, rfl, rfl⟩

theorem symm (h : cp.Alike cq) : cq.Alike cp where
  admission_eq := h.admission_eq.symm
  sessionTtl_eq := h.sessionTtl_eq.symm
  catalog_eq := h.catalog_eq.symm
  names_eq := h.names_eq.symm
  now_eq := h.now_eq.symm
  holdings := ⟨h.holdings.registry_eq.symm, h.holdings.sessions.symm⟩
  dispatcher_eq := h.dispatcher_eq.symm
  mock_eq := h.mock_eq.symm
  journal_eq := h.journal_eq.symm

theorem trans (h : cp.Alike cq) (h' : cq.Alike cr) : cp.Alike cr where
  admission_eq := h'.admission_eq.trans h.admission_eq
  sessionTtl_eq := h'.sessionTtl_eq.trans h.sessionTtl_eq
  catalog_eq := h'.catalog_eq.trans h.catalog_eq
  names_eq := h'.names_eq.trans h.names_eq
  now_eq := h'.now_eq.trans h.now_eq
  holdings := ⟨h'.holdings.registry_eq.trans h.holdings.registry_eq,
    h.holdings.sessions.trans h'.holdings.sessions⟩
  dispatcher_eq := h'.dispatcher_eq.trans h.dispatcher_eq
  mock_eq := h'.mock_eq.trans h.mock_eq
  journal_eq := h'.journal_eq.trans h.journal_eq

theorem registry_eq (h : cp.Alike cq) : cq.registry = cp.registry := h.holdings.registry_eq

theorem contains_eq (h : cp.Alike cq) (s : SessionId) :
    cq.sessions.contains s = cp.sessions.contains s := h.holdings.sessions.contains_eq s

theorem withSessions (h : cp.Alike cq) {t u : SessionTable} (ht : t.Alike u) :
    (cp.withSessions t).Alike (cq.withSessions u) :=
  { h with holdings := ⟨h.registry_eq, ht⟩ }

theorem advance (h : cp.Alike cq) (ms : Nat) : (cp.advance ms).Alike (cq.advance ms) :=
  { h with now_eq := congrArg (· + ms) h.now_eq }

/-! ## Small steps -/

theorem drawName (h : cp.Alike cq) : Agree cp.drawName cq.drawName := by
  unfold ControlPlane.drawName
  rw [h.names_eq]
  exact .mk _ { h with names_eq := rfl }

theorem raise (h : cp.Alike cq) (e : Event) : Agree (cp.raise e) (cq.raise e) := by
  unfold ControlPlane.raise
  rw [h.dispatcher_eq, h.journal_eq]
  exact .mk _ { h with dispatcher_eq := rfl, journal_eq := rfl }

theorem annotate (h : cp.Alike cq) (x : ObjectId) (f : MediaObject → MediaObject) :
    (cp.annotate x f).Alike (cq.annotate x f) :=
  { h with holdings := ⟨congrArg (Registry.update · x f) h.registry_eq, h.holdings.sessions⟩ }

theorem releaseElement (h : cp.Alike cq) (id : ObjectId) (element : Element) :
    (cp.releaseElement id element).Alike (cq.releaseElement id element) := by
  unfold ControlPlane.releaseElement
  rw [h.mock_eq, h.journal_eq]
  exact { h with mock_eq := rfl, journal_eq := rfl }

theorem dismantle (h : cp.Alike cq) (o : MediaObject) :
    (cp.dismantle o).Alike (cq.dismantle o) := by
  unfold ControlPlane.dismantle
  rw [h.dispatcher_eq]
  refine releaseElement ?_ o.id o.element
  exact { h with dispatcher_eq := rfl }

theorem teardown (h : cp.Alike cq) (reason : RemovalReason) (removed : List MediaObject) :
    (cp.teardown reason removed).Alike (cq.teardown reason removed) := by
  have hall : ∀ (os : List MediaObject) {cp cq : ControlPlane}, cp.Alike cq →
      (os.foldl ControlPlane.dismantle cp).Alike (os.foldl ControlPlane.dismantle cq) := by
    intro os
    induction os with
    | nil => exact fun h => h
    | cons o os ih => exact fun h => ih (h.dismantle o)
  unfold ControlPlane.teardown
  split
  · exact h
  · exact { hall removed h with }

theorem touch (h : cp.Alike cq) (s : SessionId) (x : ObjectId) :
    AgreeOr (cp.touch s x) (cq.touch s x) := by
  unfold ControlPlane.touch
  rw [h.registry_eq, h.now_eq]
  split
  · exact .error _
  · exact .ok _ (h.withSessions (h.holdings.sessions.touch s x .touched cp.now))

theorem ensureLive (h : cp.Alike cq) (x : ObjectId) :
    Agree (cp.ensureLive x) (cq.ensureLive x) := by
  unfold ControlPlane.ensureLive
  rw [h.registry_eq, h.dispatcher_eq]
  split
  · exact .mk _ h
  · exact .mk _ { h with dispatcher_eq := rfl }

/-! ## Creation -/

theorem construct (h : cp.Alike cq) (entry : CatalogEntry) (id : ObjectId) (params : Value) :
    AgreeOr (cp.construct entry id params) (cq.construct entry id params) := by
  unfold ControlPlane.construct
  rw [h.mock_eq, h.journal_eq]
  simp only
  split
  · split
    · exact .error _
    · exact .ok _ { h with mock_eq := rfl, journal_eq := rfl }
  · split
    · exact .error _
    · exact .ok _ { h with mock_eq := rfl, journal_eq := rfl }

theorem register (h : cp.Alike cq) (s : SessionId) (c : Construction) :
    Agree (cp.register s c) (cq.register s c) := by
  unfold ControlPlane.register
  rw [h.registry_eq, h.now_eq, h.journal_eq]
  split
  · exact .mk _ (h.releaseElement c.id c.element)
  · have ht := h.holdings.sessions.touch s c.id .strong cp.now
    exact .mk _ { h with now_eq := rfl, holdings := ⟨rfl, ht⟩, journal_eq := rfl }

theorem createUnder (h : cp.Alike cq) (s : SessionId) (entry : CatalogEntry)
    (parent : Option ObjectId) (params : Value) :
    Agree (cp.createUnder s entry parent params) (cq.createUnder s entry parent params) := by
  unfold ControlPlane.createUnder
  have hdraw := h.drawName
  generalize cp.drawName = x at hdraw ⊢
  generalize cq.drawName = y at hdraw ⊢
  obtain ⟨text, h⟩ := hdraw
  have hc := h.construct entry (.below parent text entry.type.qualifiedName) params
  simp only
  generalize ControlPlane.construct _ entry _ params = x at hc ⊢
  generalize ControlPlane.construct _ entry _ params = y at hc ⊢
  cases hc with
  | error fault => exact .mk _ h
  | ok element h =>
    simp only
    split
    · rw [h.now_eq]
      exact .mk _ h
    · exact (h.register s _).map Outcome.settled

theorem create (h : cp.Alike cq) (s : SessionId) (typeName : String) (params : Value) :
    Agree (cp.create s typeName params) (cq.create s typeName params) := by
  unfold ControlPlane.create parentFor
  rw [h.admission_eq, h.registry_eq, h.catalog_eq]
  split
  · exact .mk _ { h with admission_eq := rfl, catalog_eq := rfl }
  · split
    · exact .mk _ h
    · split
      · exact .mk _ h
      · exact h.createUnder s _ _ params

/-! ## Invocation -/

theorem invokeMock (h : cp.Alike cq) (o : MediaObject) (operation : String) (params : Value) :
    Agree (cp.invokeMock o operation params) (cq.invokeMock o operation params) := by
  have hcount : ∀ mock, ControlPlane.Alike { cp with mock } { cq with mock } :=
    fun mock => { h with mock_eq := rfl }
  unfold ControlPlane.invokeMock
  rw [h.mock_eq]
  simp only
  split
  · exact .mk _ (hcount _)
  · exact .mk _ (hcount _)
  · exact ((hcount _).raise _).map fun n => Reply.now (.ok (.nat n))
  · split <;> exact .mk _ (hcount _)
  · exact .mk _ (hcount _)

theorem connectSink (h : cp.Alike cq) (o : MediaObject) (properties : Members)
    (sinks : List ObjectId) (sink : ObjectId) :
    (cp.connectSink o properties sinks sink).Alike (cq.connectSink o properties sinks sink) := by
  unfold ControlPlane.connectSink
  rw [h.registry_eq]
  simp only
  split
  · exact h.annotate o.id _
  · exact ((h.annotate o.id _).raise _).snd

theorem disconnectSink (h : cp.Alike cq) (o : MediaObject) (properties : Members)
    (sinks : List ObjectId) (sink : ObjectId) :
    (cp.disconnectSink o properties sinks sink).Alike
      (cq.disconnectSink o properties sinks sink) := by
  unfold ControlPlane.disconnectSink
  split
  · exact ((h.annotate o.id _).raise _).snd
  · exact h

theorem invokeLoopback (h : cp.Alike cq) (o : MediaObject) (properties : Members)
    (sinks : List ObjectId) (operation : String) (params : Value) :
    AgreeOr (cp.invokeLoopback o properties sinks operation params)
      (cq.invokeLoopback o properties sinks operation params) := by
  unfold ControlPlane.invokeLoopback
  rw [h.registry_eq]
  split
  · split
    · exact .error _
    · exact .ok _ (h.connectSink o properties sinks _)
  · split
    · exact .error _
    · exact .ok _ (h.disconnectSink o properties sinks _)
  · exact .ok _ (h.annotate o.id _)
  · split
    · exact .error _
    · exact .ok _ (h.annotate o.id _)
  · split
    · exact .error _
    · exact .ok _ h
  · exact .ok _ h
  · exact .error _

theorem invokeElement (h : cp.Alike cq) (o : MediaObject) (operation : String)
    (params : Value) :
    Agree (cp.invokeElement o operation params) (cq.invokeElement o operation params) := by
  unfold ControlPlane.invokeElement
  cases o.element with
  | mock => exact h.invokeMock o operation params
  | loopback properties sinks =>
    have hloop := h.invokeLoopback o properties sinks operation params
    simp only
    generalize cp.invokeLoopback o properties sinks operation params = x at hloop ⊢
    generalize cq.invokeLoopback o properties sinks operation params = y at hloop ⊢
    cases hloop with
    | error e => exact .mk _ h
    | ok value h => exact .mk _ h

theorem builtin? (h : cp.Alike cq) (o : MediaObject) (operation : String) (params : Value) :
    Option.Rel AgreeOr (cp.builtin? o operation params) (cq.builtin? o operation params) := by
  unfold ControlPlane.builtin?
  rw [h.registry_eq]
  split
  · exact .some (.ok _ h)
  · exact .some (AgreeOr.bind _ fun name => .ok _ (h.annotate o.id _))
  · exact .some (.ok _ h)
  · exact .some (.ok _ h)
  · exact .some (AgreeOr.bind _ fun root => .ok _ h)
  · exact .some (.ok _ h)
  · exact .some (AgreeOr.bind _ fun key => AgreeOr.bind _ fun value => .ok _ (h.annotate o.id _))
  · exact .some (AgreeOr.bind _ fun key => .ok _ (h.annotate o.id _))
  · refine .some (AgreeOr.bind _ fun key => ?_)
    cases o.tags[key]? with
    | some value => exact .ok _ h
    | none => exact .error _
  · exact .some (.ok _ h)
  · exact .none

theorem invoke (h : cp.Alike cq) (s : SessionId) (object : ObjectId) (operation : String)
    (params : Value) :
    Agree (cp.invoke s object operation params) (cq.invoke s object operation params) := by
  unfold ControlPlane.invoke
  have ht := h.touch s object
  generalize cp.touch s object = x at ht ⊢
  generalize cq.touch s object = y at ht ⊢
  cases ht with
  | error e => exact .mk _ h
  | @ok o mid mid' h =>
    have hb := h.builtin? o operation params
    have he := h.invokeElement o operation params
    simp only
    generalize mid.builtin? o operation params = x at hb ⊢
    generalize mid'.builtin? o operation params = y at hb ⊢
    generalize mid.invokeElement o operation params = z at he ⊢
    generalize mid'.invokeElement o operation params = w at he ⊢
    cases hb with
    | none =>
      obtain ⟨reply, h⟩ := he
      match reply with
      | .now (.error fault) => exact .mk _ h
      | .now (.ok value) => exact .mk _ h
      | .later value after =>
        simp only
        rw [h.now_eq]
        exact .mk _ h
    | some hb =>
      cases hb with
      | error e => exact .mk _ h
      | ok value h => exact .mk _ h

/-! ## References -/

/-- What is done under a condition that both planes meet or fail. -/
theorem settle (h : cp.Alike cq) (result : Value) (e : Failure) (p : Prop) [Decidable p]
    {mid mid' : ControlPlane} (h' : mid.Alike mid') :
    Agree (cp.settle result (if p then .ok mid else .error e))
      (cq.settle result (if p then .ok mid' else .error e)) := by
  split
  · exact .mk _ h'
  · exact .mk _ h

theorem dropReferences (h : cp.Alike cq) (s : SessionId) (objects : List ObjectId)
    (reason : RemovalReason) :
    (cp.dropReferences s objects reason).Alike (cq.dropReferences s objects reason) := by
  have hdropped : Holdings.Alike
      { cp.holdings with sessions := objects.foldl (fun t o => t.dropReference s o) cp.sessions }
      { cq.holdings with sessions := objects.foldl (fun t o => t.dropReference s o) cq.sessions } :=
    ⟨h.registry_eq, h.holdings.sessions.dropReferences s objects⟩
  obtain ⟨hremoved, hleft⟩ := hdropped.collect objects
  unfold ControlPlane.dropReferences
  simp only
  rw [hremoved]
  refine teardown ?_ reason _
  exact { h with holdings := hleft }

/-! ## Subscriptions -/

theorem enter (h : cp.Alike cq) (s : SessionId) : (cp.enter s).Alike (cq.enter s) := by
  obtain ⟨metrics, heq⟩ := enter_eq cp s
  obtain ⟨metrics', heq'⟩ := enter_eq cq s
  rw [heq, heq', h.now_eq]
  exact { h.withSessions (h.holdings.sessions.enter s cp.now) with now_eq := h.now_eq }

theorem leave (h : cp.Alike cq) (s : SessionId) : (cp.leave s).Alike (cq.leave s) := by
  unfold ControlPlane.leave
  rw [h.now_eq]
  exact h.withSessions (h.holdings.sessions.leave s cp.now)

theorem subscribeUnder (h : cp.Alike cq) (s : SessionId) (key : HandlerKey)
    (receiver : Receiver) :
    Agree (cp.subscribeUnder s key receiver) (cq.subscribeUnder s key receiver) := by
  unfold ControlPlane.subscribeUnder
  have hdraw := h.drawName
  generalize cp.drawName = x at hdraw ⊢
  generalize cq.drawName = y at hdraw ⊢
  cases hdraw with | @mk text mid mid' h =>
  simp only
  rw [h.dispatcher_eq]
  have hattach : ∀ dispatcher,
      ControlPlane.Alike { mid with dispatcher } { mid' with dispatcher } :=
    fun dispatcher => { h with dispatcher_eq := rfl }
  have hlive := (hattach (mid.dispatcher.attach ⟨text⟩ s key receiver)).ensureLive key.object
  generalize ControlPlane.ensureLive _ key.object = x at hlive ⊢
  generalize ControlPlane.ensureLive _ key.object = y at hlive ⊢
  obtain ⟨r, h⟩ := hlive
  cases r with
  | error e => exact .mk _ h
  | ok _ => exact .mk _ { h with }

theorem subscribeWith (h : cp.Alike cq) (s : SessionId) (object : ObjectId) (eventType : String)
    {build : HandlerFactory → ControlPlane → Except Failure Receiver × ControlPlane}
    (hb : ∀ f, cp.dispatcher.factory = some f → ∀ mid mid' : ControlPlane, mid.Alike mid' →
      Agree (build f mid) (build f mid')) :
    Agree (cp.subscribeWith s object eventType build)
      (cq.subscribeWith s object eventType build) := by
  unfold ControlPlane.subscribeWith
  have ht := h.touch s object
  -- The factory that is asked is the one installed before the touch.
  have hfactory : ∀ o mid, cp.touch s object = .ok (o, mid) →
      mid.dispatcher.factory = cp.dispatcher.factory := fun o mid heq => factory_touch heq
  generalize cp.touch s object = x at ht hfactory ⊢
  generalize cq.touch s object = y at ht ⊢
  cases ht with
  | error e => exact .mk _ h
  | @ok o mid mid' h =>
    specialize hfactory o mid rfl
    simp only
    rw [h.dispatcher_eq]
    split
    · exact .mk _ h
    · exact h.subscribeUnder s _ _
    · next f hs =>
      have hr := hb f (hfactory ▸ (Dispatcher.supply_built hs).2.1) mid mid' h
      generalize build f mid = x at hr ⊢
      generalize build f mid' = y at hr ⊢
      obtain ⟨r, h⟩ := hr
      cases r with
      | error e => exact .mk _ h
      | ok receiver => exact h.subscribeUnder s _ receiver

theorem noteBuilt (h : cp.Alike cq) (receiver : Receiver) :
    (cp.noteBuilt receiver).Alike (cq.noteBuilt receiver) := by
  cases receiver with
  | silent => exact h
  | named =>
    unfold ControlPlane.noteBuilt
    rw [h.journal_eq]
    exact { h with journal_eq := rfl }

theorem snapshot_eq (h : cp.Alike cq) : cq.snapshot = cp.snapshot := by
  have hholders : cq.sessions.holders = cp.sessions.holders := h.holdings.sessions.holders_eq
  unfold ControlPlane.snapshot ControlPlane.objectValue SessionTable.holdersOf
  rw [h.registry_eq, hholders]

/-- A plan that closes no session. -/
theorem buildHandler {plan : BuildPlan} (hP : plan.Within Leeway.unclosing) (h : cp.Alike cq) :
    Agree (buildHandler plan cp) (buildHandler plan cq) := by
  induction plan generalizing cp cq with
  | done receiver => exact .mk _ (h.noteBuilt receiver)
  | refuse reason => exact .mk _ h
  | lookFirst rest ih =>
    unfold ControlPlane.buildHandler
    rw [h.snapshot_eq]
    exact ih _ (hP _) h
  | subscribeFirst u object eventType inner rest ih ih' =>
    obtain ⟨-, hinner, hrest⟩ := hP
    have hasked : Agree
        ((cp.enter u).subscribeWith u object eventType fun _ => ControlPlane.buildHandler inner)
        ((cq.enter u).subscribeWith u object eventType fun _ => ControlPlane.buildHandler inner) :=
      (h.enter u).subscribeWith u object eventType fun _ _ mid mid' h => ih hinner h
    unfold ControlPlane.buildHandler
    simp only
    rw [hasked.fst_eq]
    exact ih' _ (hrest _) { hasked.snd.leave u with }
  | closeFirst u forced rest => exact hP.1.elim

theorem subscribe (hP : cp.dispatcher.Within Leeway.unclosing) (h : cp.Alike cq) (s : SessionId)
    (object : ObjectId) (eventType : String) (params : Value) :
    Agree (cp.subscribe s object eventType params) (cq.subscribe s object eventType params) :=
  h.subscribeWith s object eventType fun f hf _ _ h =>
    h.buildHandler (hP f hf object s eventType params)

theorem unsubscribe (h : cp.Alike cq) (s : SessionId) (object : ObjectId)
    (subscription : SubscriptionId) :
    Agree (cp.unsubscribe s object subscription) (cq.unsubscribe s object subscription) := by
  unfold ControlPlane.unsubscribe
  have ht := h.touch s object
  generalize cp.touch s object = x at ht ⊢
  generalize cq.touch s object = y at ht ⊢
  cases ht with
  | error e => exact .mk _ h
  | ok o h =>
    simp only
    rw [h.dispatcher_eq]
    split
    · exact .mk _ h
    · exact .mk _ { h with dispatcher_eq := rfl }

/-! ## All operations -/

/-- In alike planes an operation comes to the same, and leaves alike planes. -/
theorem execute (hP : cp.dispatcher.Within Leeway.unclosing) (h : cp.Alike cq) (s : SessionId)
    (op : Operation) : Agree (cp.execute s op) (cq.execute s op) := by
  unfold ControlPlane.execute
  cases op with
  | create typeName params => exact h.create s typeName params
  | invoke object operation params => exact h.invoke s object operation params
  | ref object =>
    unfold ControlPlane.claim
    simp only
    rw [h.registry_eq, h.now_eq]
    exact h.settle _ _ _ (h.withSessions (h.holdings.sessions.touch s object .strong cp.now))
  | unref object =>
    unfold ControlPlane.unref
    simp only
    rw [h.registry_eq]
    exact h.settle _ _ _ (h.dropReferences s _ _)
  | release object =>
    unfold ControlPlane.release
    simp only
    rw [h.registry_eq]
    exact h.settle _ _ _ (h.dropReferences s _ _)
  | describe object =>
    have ht := h.touch s object
    simp only
    generalize cp.touch s object = x at ht ⊢
    generalize cq.touch s object = y at ht ⊢
    cases ht with
    | error e => exact .mk _ h
    | ok o h => exact .mk _ h
  | subscribe object eventType params =>
    exact (subscribe hP h s object eventType params).map Outcome.settled
  | unsubscribe object subscription =>
    exact (h.unsubscribe s object subscription).map Outcome.settled
  | transaction | closeSession | keepAlive | connect | ping => exact .mk _ h

theorem finishWait (h : cp.Alike cq) (s : SessionId) (w : Wait) :
    Agree (cp.finishWait s w) (cq.finishWait s w) := by
  cases w with
  | construction c ready => exact h.register s c
  | answer value ready => exact .mk _ h

end Alike

/-! ## What goes unnoticed -/

theorem alike_leave (cp : ControlPlane) (s : SessionId) : cp.Alike (cp.leave s) :=
  (Alike.refl cp).withSessions (SessionTable.alike_leave cp.sessions s cp.now)

end ControlPlane

end MediaPlane
