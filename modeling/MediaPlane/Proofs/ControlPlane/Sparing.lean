import MediaPlane.Proofs.ControlPlane.Subscriptions

/-
  What a request spares. As long as nobody is closed by force, a request that runs in one session
  leaves the other ones alone: they are as they were, with everything that they reference and all
  above it, and with their subscriptions on what is left (`Advances.spares`). A subscription is only
  lost if its id is drawn again, or if its object goes and enters the registry anew.
-/

namespace MediaPlane

namespace NameSource

variable {n later : NameSource} {text : String}

/-- The text is still to be drawn. -/
def Ahead (n : NameSource) (text : String) : Prop := ∃ k, n.drawn < k ∧ n.name k = text

/-- The same names, of which more may have been drawn. -/
structure Onward (n later : NameSource) : Prop where
  name_eq : later.name = n.name
  drawn_le : n.drawn ≤ later.drawn

theorem Onward.trans {last : NameSource} (h : n.Onward later) (h' : later.Onward last) :
    n.Onward last :=
  ⟨h'.name_eq.trans h.name_eq, Nat.le_trans h.drawn_le h'.drawn_le⟩

theorem Onward.ahead (h : n.Onward later) (ha : later.Ahead text) : n.Ahead text := by
  obtain ⟨k, hk, hname⟩ := ha
  rw [h.name_eq] at hname
  have hle := h.drawn_le
  exact ⟨k, by omega, hname⟩

theorem ahead_draw (n : NameSource) : n.Ahead n.draw.1 := ⟨n.drawn + 1, Nat.lt_succ_self _, rfl⟩

end NameSource

namespace ControlPlane

open Registry (Cut)

variable {cp mid next : ControlPlane} {s u : SessionId} {P : Leeway}
  {gone : List MediaObject} {entered more : List ObjectId} {p : Subscription → Prop}

theorem Steady.onward (h : Steady cp next) : cp.names.Onward next.names :=
  ⟨h.name_eq, h.drawn_le⟩

/-! ## Registered objects -/

/-- These objects entered the registry on the way, and no others came to life. -/
structure Registers (cp : ControlPlane) (entered : List ObjectId) (next : ControlPlane) : Prop where
  registered_eq : next.journal.registered = cp.journal.registered ++ entered
  live : ∀ x, next.registry.contains x = true → cp.registry.contains x = true ∨ x ∈ entered

theorem registers_of_cut (hj : next.journal.registered = cp.journal.registered)
    (h : Cut cp.registry gone next.registry) : Registers cp [] next :=
  ⟨hj.trans (List.append_nil _).symm, fun _ hx => Or.inl (h.contains_iff.mp hx).1⟩

theorem registers_of_eq (hj : next.journal.registered = cp.journal.registered)
    (h : next.registry = cp.registry) : Registers cp [] next := by
  refine ⟨hj.trans (List.append_nil _).symm, fun x hx => ?_⟩
  rw [h] at hx
  exact Or.inl hx

theorem Registers.trans (h : Registers cp entered mid) (h' : Registers mid more next) :
    Registers cp (entered ++ more) next := by
  refine ⟨by rw [h'.registered_eq, h.registered_eq, List.append_assoc], fun x hx => ?_⟩
  rcases h'.live x hx with hmid | hmore
  · exact (h.live x hmid).imp_right (List.mem_append_left more)
  · exact Or.inr (List.mem_append_right entered hmore)

theorem cut_dropReferences (hs : cp.holdings.Settled) (s : SessionId) (ids : List ObjectId)
    (reason : RemovalReason) :
    Cut cp.registry ((cp.holdings.dropped s ids).collect ids).1
      (cp.dropReferences s ids reason).registry := by
  unfold registry
  rw [holdings_dropReferences]
  exact ((hs.toWellFormed.dropped s ids).collect ids).1.cut

theorem cut_closedBy (hs : cp.holdings.Settled) {kind : CloseKind} {closure : Closure}
    {holdings : Holdings} (hc : cp.holdings.close u kind = .ok (some (closure, holdings))) :
    Cut cp.registry (closure.forced ++ closure.collected)
      (cp.closedBy u closure holdings).registry := by
  obtain ⟨refs, t, hr, -⟩ := Holdings.close_ok hc
  unfold registry
  rw [holdings_closedBy]
  exact (Holdings.taken_close hs hr hc).cut

theorem registers_register (cp : ControlPlane) (s : SessionId) (c : Construction) :
    ∃ entered, Registers cp entered (cp.register s c).2 := by
  unfold register
  split
  · exact ⟨[], registers_of_eq rfl rfl⟩
  · next hput =>
    refine ⟨[c.id], rfl, fun x hx => ?_⟩
    rcases (Registry.contains_put hput x).mp hx with hnew | hold
    · exact Or.inr (List.mem_singleton.mpr hnew.symm)
    · exact Or.inl hold

/-! ## Spared sessions -/

/-- No session but `s` notices a difference: the others are as they were, what they reference and
everything above it is where it was, and they keep their subscriptions on what is left. These
objects entered the registry. -/
structure Spares (s : SessionId) (cp : ControlPlane) (entered : List ObjectId)
    (next : ControlPlane) : Prop where
  onward : cp.names.Onward next.names
  registers : Registers cp entered next
  find?_eq : ∀ u, u ≠ s → next.sessions.find? u = cp.sessions.find? u
  kept : ∀ u x k, u ≠ s → cp.sessions.reference? u x = some k → ∀ a, cp.registry.Within x a →
    next.registry.contains a = true ∧ next.registry.Within x a
  subscription?_eq : ∀ id sub, cp.subscription? id = some sub → sub.session ≠ s →
    ¬ cp.names.Ahead id.text → sub.object ∉ entered →
    next.registry.contains sub.object = true → next.subscription? id = some sub

theorem reference?_eq_of_find?_eq
    (h : next.sessions.find? u = cp.sessions.find? u) (x : ObjectId) :
    next.sessions.reference? u x = cp.sessions.reference? u x := by
  unfold SessionTable.reference?
  rw [h]

theorem Spares.refl (hs : cp.holdings.Settled) (s : SessionId) : Spares s cp [] cp where
  onward := ⟨rfl, Nat.le_refl _⟩
  registers := registers_of_eq rfl rfl
  find?_eq := fun _ _ => rfl
  kept := fun _ _ _ _ hk _ ha =>
    ⟨hs.forest.contains_of_within (hs.held_live ⟨_, _, hk⟩) ha, ha⟩
  subscription?_eq := fun _ _ hsub _ _ _ _ => hsub

theorem Spares.trans (h : Spares s cp entered mid) (h' : Spares s mid more next) :
    Spares s cp (entered ++ more) next where
  onward := h.onward.trans h'.onward
  registers := h.registers.trans h'.registers
  find?_eq := fun u hu => (h'.find?_eq u hu).trans (h.find?_eq u hu)
  kept := by
    intro u x k hu hk a ha
    have hmid : mid.sessions.reference? u x = some k := by
      rw [reference?_eq_of_find?_eq (h.find?_eq u hu)]
      exact hk
    exact h'.kept u x k hu hmid a (h.kept u x k hu hk a ha).2
  subscription?_eq := by
    intro id sub hsub hses hid hobj hlive
    obtain ⟨hfirst, hlast⟩ := not_or.mp (mt List.mem_append.mpr hobj)
    have hmid : mid.registry.contains sub.object = true :=
      (h'.registers.live _ hlive).resolve_right hlast
    have hsub' := h.subscription?_eq id sub hsub hses hid hfirst hmid
    exact h'.subscription?_eq id sub hsub' hses (fun ha => hid (h.onward.ahead ha)) hlast hlive

/-- Tables, subscriptions, names and the journal are all that matters. -/
theorem Spares.congr {last : ControlPlane} (h : Spares s cp entered next)
    (hholdings : last.holdings = next.holdings) (hdispatcher : last.dispatcher = next.dispatcher)
    (hnames : last.names = next.names) (hjournal : last.journal = next.journal) :
    Spares s cp entered last := by
  obtain ⟨honward, ⟨hregistered, hlive⟩, hfind, hkept, hsubscription⟩ := h
  unfold sessions registry subscription? at *
  rw [← hholdings] at hlive hfind hkept hsubscription
  rw [← hdispatcher] at hsubscription
  rw [← hnames] at honward
  rw [← hjournal] at hregistered
  exact ⟨honward, ⟨hregistered, hlive⟩, hfind, hkept, hsubscription⟩

/-- The same from a state with these tables and subscriptions before which names were drawn. -/
theorem Spares.before (h : Spares s mid entered next) (hholdings : mid.holdings = cp.holdings)
    (hdispatcher : mid.dispatcher = cp.dispatcher) (ho : cp.names.Onward mid.names)
    (hjournal : mid.journal.registered = cp.journal.registered) : Spares s cp entered next := by
  obtain ⟨honward, ⟨hregistered, hlive⟩, hfind, hkept, hsubscription⟩ := h
  unfold sessions registry subscription? at *
  rw [hholdings] at hlive hfind hkept
  rw [hdispatcher] at hsubscription
  rw [hjournal] at hregistered
  exact ⟨ho.trans honward, ⟨hregistered, hlive⟩, hfind, hkept,
    fun id sub hsub hses hid => hsubscription id sub hsub hses fun ha => hid (ho.ahead ha)⟩

/-- Where the other sessions are as they were and the holdings settled, it is enough that what is
left stands where it stood, and that the subscriptions that go are the session's own or on objects
that go. -/
theorem spares_of_sheds (hs : next.holdings.Settled) (ho : cp.names.Onward next.names)
    (hr : Registers cp entered next)
    (hf : ∀ u, u ≠ s → next.sessions.find? u = cp.sessions.find? u)
    (hw : ∀ x a, next.registry.contains x = true → cp.registry.Within x a →
      next.registry.Within x a)
    (hd : Sheds cp p next)
    (hp : ∀ id sub, cp.subscription? id = some sub → p sub →
      sub.session = s ∨ next.registry.contains sub.object = false) :
    Spares s cp entered next where
  onward := ho
  registers := hr
  find?_eq := hf
  kept := by
    intro u x k hu hk a ha
    have hstill : next.sessions.reference? u x = some k := by
      rw [reference?_eq_of_find?_eq (hf u hu)]
      exact hk
    have hlive : next.registry.contains x = true := hs.held_live ⟨u, k, hstill⟩
    have hwithin := hw x a hlive ha
    exact ⟨hs.forest.contains_of_within hlive hwithin, hwithin⟩
  subscription?_eq := by
    intro id sub hsub hses _ _ hlive
    refine (hd id sub).mpr ⟨hsub, fun hpsub => ?_⟩
    rcases hp id sub hsub hpsub with hown | hgone
    · exact hses hown
    · rw [hgone] at hlive
      cases hlive

/-- A change that only concerns the session's own entry and the gauges. -/
theorem spares_of_sessions (hs : next.holdings.Settled) (ho : cp.names.Onward next.names)
    (hj : next.journal.registered = cp.journal.registered)
    (hf : ∀ u, u ≠ s → next.sessions.find? u = cp.sessions.find? u)
    (hr : next.registry = cp.registry) (hd : next.dispatcher = cp.dispatcher) :
    Spares s cp [] next := by
  refine spares_of_sheds hs ho (registers_of_eq hj hr) hf ?_
    (sheds_of_eq (congrArg Dispatcher.subscriptions hd)) ?_
  · intro x a _ ha
    rw [hr]
    exact ha
  · intro id sub _ hfalse
    exact hfalse.elim

/-- What is taken out of the registry takes its subscriptions along. -/
theorem spares_of_cut (hs : next.holdings.Settled) (ho : cp.names.Onward next.names)
    (hj : next.journal.registered = cp.journal.registered)
    (hf : ∀ u, u ≠ s → next.sessions.find? u = cp.sessions.find? u)
    (hc : Cut cp.registry gone next.registry) (hd : Sheds cp p next)
    (hp : ∀ sub, p sub → sub.session = s ∨ sub.object ∈ gone.map (·.id)) :
    Spares s cp [] next := by
  refine spares_of_sheds hs ho (registers_of_cut hj hc) hf
    (fun x a hx ha => (hc.within_iff hs.forest hx).mpr ha) hd ?_
  intro id sub _ hpsub
  refine (hp sub hpsub).imp_right fun hgone => ?_
  rw [← Bool.not_eq_true, hc.contains_iff]
  exact fun hlive => hlive.2 hgone

/-! ## Changes that spare the others -/

theorem find?_enter (t : SessionTable) (now : Nat) (hu : u ≠ s) :
    (t.enter s now).2.find? u = t.find? u := by
  unfold SessionTable.enter
  simp only
  rw [SessionTable.find?_update, if_neg hu.symm, SessionTable.find?_ensure, if_neg hu.symm]

theorem find?_leave (t : SessionTable) (now : Nat) (hu : u ≠ s) :
    (t.leave s now).find? u = t.find? u := by
  unfold SessionTable.leave
  rw [SessionTable.find?_update, if_neg hu.symm]

theorem find?_recordActivity (t : SessionTable) (now : Nat) (hu : u ≠ s) :
    (t.recordActivity s now).find? u = t.find? u := by
  unfold SessionTable.recordActivity
  rw [SessionTable.find?_update, if_neg hu.symm]

theorem find?_touch (t : SessionTable) (x : ObjectId) (k : Strength) (now : Nat) (hu : u ≠ s) :
    (t.touch s x k now).find? u = t.find? u := by
  rw [SessionTable.find?_touch, if_neg hu.symm]

theorem spares_annotate (hs : cp.holdings.Settled) (s : SessionId) (x : ObjectId)
    (f : MediaObject → MediaObject) : Spares s cp [] (cp.annotate x f) := by
  have hnext : (cp.annotate x f).holdings.Settled := Holdings.settled_update hs x f
  have hsame : Sheds cp (fun _ => False) (cp.annotate x f) := sheds_of_eq rfl
  have hregisters : Registers cp [] (cp.annotate x f) :=
    ⟨(List.append_nil _).symm, fun y hy =>
      Or.inl ((Registry.contains_update cp.registry x y f).symm.trans hy)⟩
  refine spares_of_sheds hnext ⟨rfl, Nat.le_refl _⟩ hregisters (fun _ _ => rfl) ?_ hsame ?_
  · intro y a _ ha
    refine ha.congr fun c p _ _ hp => ?_
    exact (Registry.parentOf_update cp.registry x c f).trans hp
  · intro id sub _ hfalse
    exact hfalse.elim

/-- Registering an object is nobody else's business, whenever its construction began. -/
theorem spares_register (hs : cp.holdings.Settled) (s : SessionId) (c : Construction) :
    ∃ entered, Spares s cp entered (cp.register s c).2 := by
  have ho := (steady_register cp s c).onward
  have hsame := sheds_of_eq (congrArg Dispatcher.subscriptions (dispatcher_register cp s c))
  obtain ⟨entered, hregisters⟩ := registers_register cp s c
  refine ⟨entered, spares_of_sheds (settled_register hs s c) ho hregisters ?_ ?_ hsame ?_⟩
  · intro u hu
    unfold sessions
    rcases register_cases cp s c with heq | ⟨r, hput, heq⟩ <;> rw [heq]
    exact find?_touch _ _ _ _ hu
  · intro x a _ ha
    unfold registry at ha ⊢
    rcases register_cases cp s c with heq | ⟨r, hput, heq⟩ <;> rw [heq]
    · exact ha
    · -- The new object was not there, so it is on nobody's way to the top.
      have hnew := (Registry.put_ok hput).1
      refine ha.congr fun y p _ _ hp => ?_
      have hlive := Registry.contains_of_parentOf hp
      rw [Registry.parentOf_put hput, if_neg]
      · exact hp
      · intro hy
        have hid : c.id = y := hy
        rw [← hid] at hlive
        exact absurd hlive (Bool.eq_false_iff.mp hnew)
  · intro id sub _ hfalse
    exact hfalse.elim

theorem spares_dropReferences (hs : cp.holdings.Settled) (s : SessionId) (ids : List ObjectId)
    (reason : RemovalReason) : Spares s cp [] (cp.dropReferences s ids reason) := by
  have hnext : (cp.dropReferences s ids reason).holdings.Settled := by
    rw [holdings_dropReferences]
    exact Holdings.settled_dropReferences hs s ids
  have hcollect := (hs.toWellFormed.dropped s ids).collect ids
  have hjournal : (cp.dropReferences s ids reason).journal.registered = cp.journal.registered := by
    unfold dropReferences
    simp only [journal_teardown]
    rfl
  refine spares_of_cut hnext (steady_dropReferences cp s ids reason).onward hjournal ?_
    (cut_dropReferences hs s ids reason) (sheds_dropReferences cp s ids reason)
    fun sub hgone => Or.inr hgone
  intro u hu
  unfold sessions
  rw [holdings_dropReferences, hcollect.2.2]
  exact Holdings.find?_dropReferences cp.holdings.sessions ids hu

/-- A new subscription comes under a new name. -/
theorem spares_attached (hs : cp.holdings.Settled) (s : SessionId) (key : HandlerKey)
    (receiver : Receiver) : Spares s cp [] (cp.attached s key receiver) where
  onward := (steady_attached cp s key receiver).onward
  registers := registers_of_eq rfl rfl
  find?_eq := fun _ _ => rfl
  kept := (Spares.refl hs s).kept
  subscription?_eq := by
    intro id sub hsub _ hid _ _
    obtain ⟨new, -, hnew⟩ := subscription?_attached cp s key receiver
    rw [hnew, if_neg]
    · exact hsub
    · intro heq
      apply hid
      rw [← heq]
      exact NameSource.ahead_draw cp.names

theorem spares_confirmed (hs : cp.holdings.Settled) (s : SessionId) (x : ObjectId) :
    Spares s cp [] (cp.confirmed x) := by
  have hkeep : (cp.confirmed x).holdings = cp.holdings := holdings_confirmed cp x
  have hregistry : (cp.confirmed x).registry = cp.registry :=
    congrArg Holdings.registry hkeep
  have hsessions : (cp.confirmed x).sessions = cp.sessions := congrArg Holdings.sessions hkeep
  have hjournal : (cp.confirmed x).journal = cp.journal := journal_confirmed cp x
  refine spares_of_sheds (hkeep ▸ hs) (steady_confirmed cp x).onward
    (registers_of_eq (congrArg Journal.registered hjournal) hregistry) ?_ ?_
    (sheds_confirmed cp x) ?_
  · intro u _
    rw [hsessions]
  · intro y a _ ha
    rw [hregistry]
    exact ha
  · intro id sub _ hgone
    rw [hregistry, hgone.2]
    exact Or.inr hgone.1

theorem spares_subscribeUnder (hs : cp.holdings.Settled) (s : SessionId) (key : HandlerKey)
    (receiver : Receiver) : Spares s cp [] (cp.subscribeUnder s key receiver).2 := by
  have hattached : (cp.attached s key receiver).holdings.Settled := hs
  rw [subscribeUnder_snd]
  exact (spares_attached hs s key receiver).trans (spares_confirmed hattached s key.object)

/-- Who unsubscribes takes out a subscription of its own, and by its id no other. -/
theorem spares_unsubscribe (hs : cp.holdings.Settled) (hk : cp.Keyed) {x : ObjectId}
    {id : SubscriptionId} {dispatcher : Dispatcher}
    (h : cp.dispatcher.unsubscribe x s id = .ok dispatcher) :
    Spares s cp [] { cp with dispatcher } := by
  obtain ⟨⟨own, hown, hsession⟩, rfl⟩ := Dispatcher.unsubscribe_ok h
  refine spares_of_sheds hs ⟨rfl, Nat.le_refl _⟩ (registers_of_eq rfl rfl) (fun _ _ => rfl)
    (fun _ _ _ ha => ha) (sheds_removeWhere cp _) ?_
  intro k sub hsub hid
  have hkey : k = id := (hk k sub hsub).symm.trans (of_decide_eq_true hid)
  rw [hkey] at hsub
  have hsame : some own = some sub := hown.symm.trans hsub
  cases hsame
  exact Or.inl hsession

/-- A soft close costs nobody else anything. -/
theorem spares_closeSession (hs : cp.holdings.Settled) {n : Nat}
    (h : cp.closeSession s false = .ok (n, next)) : Spares s cp [] next := by
  have hnext := settled_closeSession hs h
  have ho := (steady_closeSession h).onward
  obtain ⟨closure, holdings, hc, -, rfl⟩ := closeSession_ok h
  obtain ⟨refs, t, hr, -⟩ := Holdings.close_ok hc
  have hjournal := congrArg Journal.registered (journal_closedBy cp s closure holdings)
  refine spares_of_cut hnext ho hjournal ?_ (cut_closedBy hs hc)
    (sheds_closedBy cp s closure holdings) fun sub hgone => hgone
  intro u hu
  have hkept : (cp.closedBy s closure holdings).holdings = holdings := holdings_closedBy _ _ _ _
  have ht : holdings.sessions = t := Holdings.sessions_close hs hr hc nofun
  show (cp.closedBy s closure holdings).holdings.sessions.find? u = cp.sessions.find? u
  rw [hkept, ht, SessionTable.find?_removeSession? hr, if_neg hu.symm]
  rfl

/-- Only the session itself may be closed, and not by force; and no other one subscribed in. -/
def softly (s : SessionId) : Leeway where
  closes u forced := u = s ∧ forced = false
  subscribes u := u = s

theorem Change.spares (h : Change s (softly s) cp next) (hs : cp.holdings.Settled)
    (hk : cp.Keyed) : ∃ entered, Spares s cp entered next := by
  have hnext := h.holdings_settled hs
  have ho := h.steady.onward
  cases h with
  | metrics | mock | draw | raise =>
    exact ⟨[], spares_of_sessions hnext ho rfl (fun _ _ => rfl) rfl rfl⟩
  | built receiver =>
    cases receiver <;> exact ⟨[], spares_of_sessions hnext ho rfl (fun _ _ => rfl) rfl rfl⟩
  | enter =>
    obtain ⟨metrics, heq⟩ := enter_eq cp s
    rw [heq] at hnext ho ⊢
    have hfind := fun u hu => find?_enter (s := s) (u := u) cp.sessions cp.now hu
    exact ⟨[], spares_of_sessions hnext ho rfl hfind rfl rfl⟩
  | leave =>
    have hfind := fun u hu => find?_leave (s := s) (u := u) cp.sessions cp.now hu
    exact ⟨[], spares_of_sessions hnext ho rfl hfind rfl rfl⟩
  | keepAlive h =>
    rw [keepAlive_ok h] at hnext ho ⊢
    have hfind := fun u hu => find?_recordActivity (s := s) (u := u) cp.sessions cp.now hu
    exact ⟨[], spares_of_sessions hnext ho rfl hfind rfl rfl⟩
  | connect =>
    obtain ⟨metrics, heq⟩ := connect_eq cp s
    rw [heq] at hnext ho ⊢
    refine ⟨[], spares_of_sessions hnext ho rfl (fun u hu => ?_) rfl rfl⟩
    refine (find?_recordActivity _ cp.now hu).trans ?_
    rw [SessionTable.find?_ensure, if_neg hu.symm]
  | @touch x k _ =>
    have hfind := fun u hu => find?_touch (s := s) (u := u) cp.sessions x k cp.now hu
    exact ⟨[], spares_of_sessions hnext ho rfl hfind rfl rfl⟩
  | annotate x f => exact ⟨[], spares_annotate hs s x f⟩
  | @create c mid hb =>
    have hmid : mid.holdings.Settled := by
      rw [hb.holdings_eq]
      exact hs
    obtain ⟨entered, hspares⟩ := spares_register hmid s c
    exact ⟨entered, hspares.before hb.holdings_eq hb.dispatcher_eq hb.steady.onward
      hb.registered_eq⟩
  | dropReferences ids reason => exact ⟨[], spares_dropReferences hs s ids reason⟩
  | subscribe key receiver => exact ⟨[], spares_subscribeUnder hs s key receiver⟩
  | unsubscribe h => exact ⟨[], spares_unsubscribe hs hk h⟩
  | close hP h =>
    obtain ⟨rfl, rfl⟩ : _ = s ∧ _ = false := hP
    exact ⟨[], spares_closeSession hs h⟩

theorem Changes.spares (h : Changes s (softly s) cp next) (hs : cp.holdings.Settled)
    (hk : cp.Keyed) : ∃ entered, Spares s cp entered next := by
  induction h with
  | refl => exact ⟨[], Spares.refl hs s⟩
  | tail hm hc ih =>
    obtain ⟨entered, hspares⟩ := ih
    obtain ⟨more, hmore⟩ := hc.spares (lasting_settled.changes hm hs) (lasting_keyed.changes hm hk)
    exact ⟨entered ++ more, hspares.trans hmore⟩
  | @aside u hu mid next hm hc ih =>
    obtain rfl : u = s := hu
    obtain ⟨entered, hspares⟩ := ih
    obtain ⟨more, hmore⟩ := hc.spares (lasting_settled.changes hm hs) (lasting_keyed.changes hm hk)
    exact ⟨entered ++ more, hspares.trans hmore⟩

theorem Stretch.spares {w : Option Wait} (h : Stretch s (softly s) cp w next)
    (hs : cp.holdings.Settled) (hk : cp.Keyed) : ∃ entered, Spares s cp entered next := by
  cases h with
  | settled hc | answer hc => exact hc.spares hs hk
  | construction hc hb =>
    have hnext : next.holdings.Settled := by
      rw [hb.holdings_eq]
      exact lasting_settled.changes hc hs
    obtain ⟨entered, hspares⟩ := hc.spares hs hk
    exact ⟨entered ++ [], hspares.trans ((Spares.refl hnext s).before hb.holdings_eq
      hb.dispatcher_eq hb.steady.onward hb.registered_eq)⟩

/-! ## Stages of a call -/

theorem Advances.spares {caller : Caller} {r : Progress × ControlPlane}
    (h : cp.Advances caller (softly caller.session) r) (hs : cp.holdings.Settled)
    (hk : cp.Keyed) : ∃ entered, Spares caller.session cp entered r.2 := by
  obtain ⟨w, mid, hst, hc⟩ := h
  obtain ⟨metrics, cache, heq⟩ := hc.snd_eq
  obtain ⟨entered, hspares⟩ := hst.spares hs hk
  rw [heq]
  exact ⟨entered, hspares.congr rfl rfl rfl rfl⟩

end ControlPlane

end MediaPlane
