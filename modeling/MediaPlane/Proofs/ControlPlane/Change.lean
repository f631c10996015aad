import MediaPlane.Proofs.ControlPlane.Move

/-
  What a request can do. Everything that runs in a session is made of changes of a few kinds
  (`Change`): it enters and leaves the session, makes the moves of its operations, and creates
  objects. What is said of a change leaves statistics aside; these are the business of the moves.
  Sessions may be closed on the way, by the request itself or by a transport that is called back,
  and the transport may make changes in other sessions (`Changes`); how far they may go is a
  parameter. A stretch of an operation is a chain of changes, at whose end something
  may be waited for (`Stretch`). `execute_stretch`, `runEntries_stretch`: operations and
  transactions are such stretches. So whatever every change keeps is kept by every request.
-/

namespace MediaPlane

namespace ControlPlane

variable {cp mid next : ControlPlane} {s : SessionId} {P : Leeway}

/-! ## Changes -/

/-- One change by a request that runs in session `s`; `P` says which sessions may be closed. -/
inductive Change (s : SessionId) (P : Leeway) (cp : ControlPlane) : ControlPlane → Prop where
  | metrics (metrics : Metrics) : Change s P cp { cp with metrics }
  | mock (mock : MockEngine) : Change s P cp { cp with mock }
  | draw : Change s P cp cp.drawName.2
  | built (receiver : Receiver) : Change s P cp (cp.noteBuilt receiver)
  | enter : Change s P cp (cp.enter s)
  | leave : Change s P cp (cp.leave s)
  | keepAlive {next : ControlPlane} (h : cp.keepAlive s = .ok next) : Change s P cp next
  | connect : Change s P cp (cp.connect s)
  | touch {x : ObjectId} (k : Strength) (h : cp.registry.contains x = true) :
      Change s P cp (cp.withSessions (cp.sessions.touch s x k cp.now))
  | annotate (x : ObjectId) (f : MediaObject → MediaObject) : Change s P cp (cp.annotate x f)
  | raise (e : Event) : Change s P cp (cp.raise e).2
  /-- An object is created that does not have to wait for its element. -/
  | create {c : Construction} {mid : ControlPlane} (h : cp.Begins c mid) :
      Change s P cp (mid.register s c).2
  | dropReferences (ids : List ObjectId) (reason : RemovalReason) :
      Change s P cp (cp.dropReferences s ids reason)
  | subscribe (key : HandlerKey) (receiver : Receiver) :
      Change s P cp (cp.subscribeUnder s key receiver).2
  | unsubscribe {x : ObjectId} {id : SubscriptionId} {dispatcher : Dispatcher}
      (h : cp.dispatcher.unsubscribe x s id = .ok dispatcher) : Change s P cp { cp with dispatcher }
  | close {u : SessionId} {forced : Bool} {n : Nat} {next : ControlPlane} (hP : P.closes u forced)
      (h : cp.closeSession u forced = .ok (n, next)) : Change s P cp next

/-- A chain of changes in session `s`, and in those where a transport may subscribe. -/
inductive Changes (s : SessionId) (P : Leeway) (cp : ControlPlane) : ControlPlane → Prop where
  | refl : Changes s P cp cp
  | tail {mid next : ControlPlane} (h : Changes s P cp mid) (hc : Change s P mid next) :
      Changes s P cp next
  | aside {u : SessionId} (hu : P.subscribes u) {mid next : ControlPlane} (h : Changes s P cp mid)
      (hc : Change u P mid next) : Changes s P cp next

theorem Changes.one (h : Change s P cp next) : Changes s P cp next := .tail .refl h

theorem Changes.trans (h : Changes s P cp mid) (h' : Changes s P mid next) :
    Changes s P cp next := by
  induction h' with
  | refl => exact h
  | tail _ hc ih => exact .tail ih hc
  | aside hu _ hc ih => exact .aside hu ih hc

/-- What goes on in a session where a transport may subscribe may go on aside. -/
theorem Changes.lent {u : SessionId} (hu : P.subscribes u) (h : Changes u P cp next) :
    Changes s P cp next := by
  induction h with
  | refl => exact .refl
  | tail _ hc ih => exact .aside hu ih hc
  | aside hv _ hc ih => exact .aside hv ih hc

/-- A construction that begins has drawn a name, and left its mark where elements are built. -/
theorem Begins.eq {c : Construction} (h : cp.Begins c next) :
    ∃ mock, next = { cp.drawName.2 with
      mock, journal := { cp.journal with constructed := cp.journal.constructed ++ [c.id] } } := by
  obtain ⟨entry, params, -, -, hc⟩ := h
  exact construct_ok hc

theorem Begins.steady {c : Construction} (h : cp.Begins c next) : Steady cp next := by
  obtain ⟨mock, rfl⟩ := h.eq
  exact { steady_drawName cp with }

theorem Change.steady (h : Change s P cp next) : Steady cp next := by
  have hrefl := Steady.refl cp
  cases h with
  | metrics | mock | annotate | raise | touch | leave => exact { hrefl with }
  | draw => exact steady_drawName cp
  | built receiver =>
    cases receiver with
    | named name => exact { hrefl with }
    | silent => exact hrefl
  | enter =>
    obtain ⟨metrics, heq⟩ := enter_eq cp s
    rw [heq]
    exact { hrefl with }
  | keepAlive h =>
    rw [keepAlive_ok h]
    exact { hrefl with }
  | connect =>
    obtain ⟨metrics, heq⟩ := connect_eq cp s
    rw [heq]
    exact { hrefl with }
  | create h => exact h.steady.trans (steady_register _ _ _)
  | dropReferences ids reason => exact steady_dropReferences cp s ids reason
  | subscribe key receiver => exact steady_subscribeUnder cp s key receiver
  | unsubscribe h => exact { hrefl with factory_eq := Dispatcher.factory_unsubscribe h }
  | close _ h => exact steady_closeSession h

theorem Changes.steady (h : Changes s P cp next) : Steady cp next := by
  induction h with
  | refl => exact Steady.refl cp
  | tail _ hc ih | aside _ _ hc ih => exact ih.trans hc.steady

theorem within_of_steady (h : Steady cp next) (hP : cp.dispatcher.Within P) :
    next.dispatcher.Within P := by
  intro f hf
  rw [h.factory_eq] at hf
  exact hP f hf

/-! ## Moves are made of changes -/

variable {tacit : Prop} {n : Nat}

theorem Move.changes (h : Move s P tacit cp next) : Changes s P cp next := by
  cases h with
  | mock mock => exact .one (.mock mock)
  | built receiver => exact .one (.built receiver)
  | enter => exact .one .enter
  | touch k _ hlive => exact .one (.touch k hlive)
  | annotate x f => exact .one (.annotate x f)
  | raise e => exact .one (.raise e)
  | dropReferences ids reason => exact .one (.dropReferences ids reason)
  | subscribe key receiver => exact .one (.subscribe key receiver)
  | unsubscribe h => exact (Changes.one (.unsubscribe h)).tail (.metrics _)
  | close hP h => exact .one (.close hP h)

theorem Moves.changes (h : Moves s P tacit cp n next) : Changes s P cp next := by
  induction h with
  | refl => exact .refl
  | tail _ hm ih => exact ih.trans hm.changes
  | aside hu _ hm ih => exact ih.trans (hm.changes.lent hu)
  | answered hu _ result ih => exact (ih.aside hu .leave).tail (.metrics _)

theorem changes_connectHandler (cp : ControlPlane) (object : ObjectId) (s : SessionId)
    (eventType : String) (receiver : Receiver) :
    Changes s P cp (cp.connectHandler object s eventType receiver).2 :=
  (moves_connectHandler (Or.inl trivial) object eventType receiver).changes

/-! ## Operations are stretches -/

/-- How far a stretch of a request went: what it waits for at the end, and the state there. A
creation whose construction takes time ends the stretch between its two halves. -/
inductive Stretch (s : SessionId) (P : Leeway) (cp : ControlPlane) :
    Option Wait → ControlPlane → Prop where
  | settled {next : ControlPlane} (h : Changes s P cp next) : Stretch s P cp none next
  | answer {next : ControlPlane} {value : Value} {ready : Nat} (h : Changes s P cp next) :
      Stretch s P cp (some (.answer value ready)) next
  | construction {mid next : ControlPlane} {c : Construction} {ready : Nat}
      (h : Changes s P cp mid) (hb : mid.Begins c next) :
      Stretch s P cp (some (.construction c ready)) next

theorem Stretch.refl (cp : ControlPlane) : Stretch s P cp none cp :=
  .settled .refl

theorem Stretch.after {w : Option Wait} (h : Changes s P cp mid) (h' : Stretch s P mid w next) :
    Stretch s P cp w next := by
  cases h' with
  | settled hc => exact .settled (h.trans hc)
  | answer hc => exact .answer (h.trans hc)
  | construction hc hb => exact .construction (h.trans hc) hb

theorem Stretch.changes (h : Stretch s P cp none next) : Changes s P cp next := by
  cases h with
  | settled hc => exact hc

theorem Stretch.steady {w : Option Wait} (h : Stretch s P cp w next) : Steady cp next := by
  cases h with
  | settled hc | answer hc => exact hc.steady
  | construction hc hb => exact hc.steady.trans hb.steady

theorem Creates.stretch {outcome : Outcome} (h : Creates s cp outcome next) :
    Stretch s P cp outcome.wait? next := by
  cases h with
  | refused => exact .settled (Changes.one (.metrics _))
  | failed => exact Stretch.refl cp
  | unbuilt => exact .settled (Changes.one .draw)
  | built _ hb => exact .settled (Changes.one (.create hb))
  | begun _ hb ready => exact .construction .refl hb

/-- Every operation that addresses objects is a stretch of changes. -/
theorem execute_stretch (hP : cp.dispatcher.Within P) (s : SessionId) (op : Operation) :
    Stretch s P cp (cp.execute s op).1.wait? (cp.execute s op).2 := by
  by_cases hop : op.method = .create
  · cases op with
    | create typeName params => exact (creates cp s typeName params).stretch
    | _ => cases hop
  · have hmoves : Changes s P cp (cp.execute s op).2 :=
      (moves_execute hP (Or.inl trivial) hop).changes
    cases hw : (cp.execute s op).1.wait? with
    | none => exact .settled hmoves
    | some w =>
      cases w with
      | answer value ready => exact .answer hmoves
      | construction c ready => exact absurd hw (wait?_execute hop cp s c ready)

/-- So is a transaction, up to the entry that it waits for. -/
theorem runEntries_stretch (hP : cp.dispatcher.Within P) (s : SessionId) (slots : Slots)
    (results entries : List Value) :
    Stretch s P cp (cp.runEntries s slots results entries).1.wait?
      (cp.runEntries s slots results entries).2 := by
  induction entries generalizing cp slots results with
  | nil => exact Stretch.refl cp
  | cons entry rest ih =>
    unfold runEntries
    split
    · exact ih hP slots _
    · next method params _ =>
      have he : Stretch s P cp (cp.executeEntry s slots method params).1.wait?
          (cp.executeEntry s slots method params).2 := by
        unfold executeEntry
        split
        · exact Stretch.refl cp
        · exact execute_stretch hP s _
      split
      · next heq =>
        rw [heq] at he
        exact he
      · next heq =>
        rw [heq] at he
        have hc := Stretch.changes he
        exact Stretch.after hc (ih (within_of_steady hc.steady hP) _ _)

end ControlPlane

end MediaPlane
