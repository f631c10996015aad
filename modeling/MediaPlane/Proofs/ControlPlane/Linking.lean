import MediaPlane.Proofs.ControlPlane.Links
import MediaPlane.Proofs.ControlPlane.Waning

/-
  What happens to the sinks of elements. Most steps are calm: objects may go, but those that stay
  keep their elements and their parents, and no event tells of a connection (`Calm`). All else is
  the answer of a loopback element to an invocation (`Rewires`): it comes to keep other sinks, in
  one of the ways that `Relinks` lists, and raises the event of the change. `invokes` says which of
  the two an invocation is, and that it succeeds in asking for a change only if an element answers
  so.
-/

namespace MediaPlane

/-! ## Sinks -/

/-- The sinks that an element keeps. -/
def Element.sinks? : Element → Option (List ObjectId)
  | mock => none
  | loopback _ sinks => some sinks

/-- An element that keeps no sinks yet. -/
def Element.Fresh (e : Element) : Prop := ∀ sinks, e.sinks? = some sinks → sinks = []

namespace Registry

variable {r : Registry} {x : ObjectId} {sinks : List ObjectId}

/-- The sinks that a live loopback element keeps. -/
def sinks? (r : Registry) (x : ObjectId) : Option (List ObjectId) :=
  (r.find? x).bind (·.element.sinks?)

/-- A live loopback element in the same tree. -/
structure Joined (r : Registry) (a b : ObjectId) : Prop where
  loopback : (r.sinks? b).isSome = true
  root_eq : r.rootOf b = r.rootOf a

theorem sinks?_eq_some : r.sinks? x = some sinks ↔
    ∃ o properties, r.find? x = some o ∧ o.element = .loopback properties sinks := by
  unfold sinks?
  rw [Option.bind_eq_some_iff]
  refine exists_congr fun o => ?_
  rw [exists_and_left]
  refine and_congr_right fun _ => ?_
  cases o.element <;> simp [Element.sinks?]

theorem contains_of_sinks? (h : r.sinks? x = some sinks) : r.contains x = true := by
  obtain ⟨o, properties, ho, -⟩ := sinks?_eq_some.mp h
  exact contains_iff.mpr ⟨o, ho⟩

theorem contains_of_isSome_sinks? (h : (r.sinks? x).isSome = true) : r.contains x = true := by
  obtain ⟨sinks, hsinks⟩ := Option.isSome_iff_exists.mp h
  exact contains_of_sinks? hsinks

theorem Joined.contains {a b : ObjectId} (h : r.Joined a b) : r.contains b = true :=
  contains_of_isSome_sinks? h.loopback

theorem sinks?_update (r : Registry) (x k : ObjectId) (f : MediaObject → MediaObject) :
    (r.update x f).sinks? k =
      if x = k then (r.find? x).bind fun o => (f o).element.sinks? else r.sinks? k := by
  unfold sinks?
  rw [find?_update]
  split
  · cases r.find? x <;> rfl
  · rfl

end Registry

namespace ControlPlane

variable {cp mid next : ControlPlane} {s : SessionId} {a b : ObjectId} {o : MediaObject}
  {sinks kept : List ObjectId} {asked raised : SinkChange}

theorem resolveLoopback_ok {r : Registry} (h : resolveLoopback r b = .ok o) :
    r.find? b = some o ∧ (r.sinks? b).isSome = true := by
  unfold resolveLoopback at h
  unfold Registry.sinks?
  split at h
  · cases h
  · next o ho =>
    split at h
    · next he =>
      cases h
      rw [ho, Option.bind_some, he]
      exact ⟨rfl, rfl⟩
    · cases h

theorem isOk_resolveLoopback (r : Registry) (b : ObjectId) :
    (resolveLoopback r b).isOk = (r.sinks? b).isSome := by
  unfold resolveLoopback Registry.sinks?
  cases r.find? b with
  | none => rfl
  | some o => cases he : o.element <;> simp [he, Element.sinks?, Except.isOk, Except.toBool]

/-- Where live sinks are loopback elements, those that are looked for are the live ones. -/
theorem liveSinks_eq {r : Registry}
    (h : ∀ b ∈ sinks, r.contains b = true → (r.sinks? b).isSome = true) :
    liveSinks r sinks = sinks.filter r.contains := by
  refine List.filter_congr fun b hb => ?_
  rw [isOk_resolveLoopback, Bool.eq_iff_iff]
  exact ⟨Registry.contains_of_isSome_sinks?, h b hb⟩

/-- A sink to connect to is named, and stands in the same tree. -/
theorem connectionTarget_ok (hf : cp.registry.Forest) {params : Value}
    (h : connectionTarget cp.registry o params = .ok b) :
    textParam params "sink" = .ok b.text ∧ cp.registry.Joined o.id b := by
  unfold connectionTarget at h
  split at h
  · cases h
  · next text htext =>
    split at h
    · cases h
    · next sink hsink =>
      obtain ⟨hfind, hloopback⟩ := resolveLoopback_ok hsink
      have hid := hf.id_eq hfind
      split at h
      · cases h
      · split at h
        · cases h
        · next hroot =>
          cases h
          rw [hid] at hroot ⊢
          refine ⟨htext, hloopback, ?_⟩
          unfold sameRoot at hroot
          split at hroot
          · cases hroot
          · cases hroot
          · next hx hy =>
            rw [Except.ok.injEq, decide_eq_true_eq] at hroot
            rw [hx, hy, hroot]
        · cases h

/-! ## What happens to sinks -/

/-- Objects may go, nothing comes, and nothing happens to the sinks and the parents of those that
stay; events may be raised, but not of connections. -/
structure Calm (cp next : ControlPlane) : Prop where
  registered_eq : next.journal.registered = cp.journal.registered
  raised_eq : ∃ events, next.journal.raised = cp.journal.raised ++ events ∧
    ∀ e ∈ events, LinkChange.ofEventType? e.eventType = none
  origin : ∀ {x o}, next.registry.find? x = some o → ∃ o', cp.registry.find? x = some o' ∧
    o'.element = o.element ∧ o'.parent = o.parent

/-- The element of an object keeps other sinks, and raises an event of a change. -/
structure Relinked (cp : ControlPlane) (source : ObjectId) (kept : List ObjectId)
    (raised : SinkChange) (next : ControlPlane) : Prop where
  registered_eq : next.journal.registered = cp.journal.registered
  raised_eq : next.journal.raised = cp.journal.raised ++ raised.events source
  contains_eq : ∀ x, next.registry.contains x = cp.registry.contains x
  parentOf_eq : ∀ x, next.registry.parentOf x = cp.registry.parentOf x
  sinks?_eq : ∀ x, next.registry.sinks? x =
    if source = x then some kept else cp.registry.sinks? x

theorem Wanes.calm (h : Wanes cp next) : Calm cp next where
  registered_eq := by
    obtain ⟨built, released, hj⟩ := h.journal_eq
    rw [hj]
  raised_eq := by
    obtain ⟨built, released, hj⟩ := h.journal_eq
    refine ⟨[], ?_, fun e he => by cases he⟩
    rw [hj, List.append_nil]
  origin := fun ho => ⟨_, h.fewer _ _ ho, rfl, rfl⟩

theorem Calm.trans (h : Calm cp mid) (h' : Calm mid next) : Calm cp next where
  registered_eq := h'.registered_eq.trans h.registered_eq
  raised_eq := by
    obtain ⟨events, hmid, hforeign⟩ := h.raised_eq
    obtain ⟨more, hnext, hforeign'⟩ := h'.raised_eq
    refine ⟨events ++ more, by rw [hnext, hmid, List.append_assoc], fun e he => ?_⟩
    rcases List.mem_append.mp he with he | he
    · exact hforeign e he
    · exact hforeign' e he
  origin := by
    intro x o ho
    obtain ⟨o', ho', helement', hparent'⟩ := h'.origin ho
    obtain ⟨o'', ho'', helement, hparent⟩ := h.origin ho'
    exact ⟨o'', ho'', helement.trans helement', hparent.trans hparent'⟩

theorem Calm.refl (cp : ControlPlane) : Calm cp cp := (Wanes.refl cp).calm

theorem calm_of_eq (hj : next.journal = cp.journal) (hr : next.registry = cp.registry) :
    Calm cp next := (wanes_of_eq hj hr).calm

theorem calm_raise {e : Event} (h : LinkChange.ofEventType? e.eventType = none) :
    Calm cp (cp.raise e).2 where
  registered_eq := rfl
  raised_eq := ⟨[e], rfl, fun e' he => by rwa [List.mem_singleton.mp he]⟩
  origin := fun ho => ⟨_, ho, rfl, rfl⟩

theorem calm_annotate (cp : ControlPlane) (x : ObjectId) {f : MediaObject → MediaObject}
    (hf : ∀ o, (f o).element = o.element) : Calm cp (cp.annotate x f) where
  registered_eq := rfl
  raised_eq := ⟨[], (List.append_nil _).symm, fun e he => by cases he⟩
  origin := by
    intro k o ho
    have hupdated : (cp.registry.update x f).find? k = some o := ho
    rw [Registry.find?_update] at hupdated
    split at hupdated
    · next hk =>
      subst hk
      obtain ⟨o', ho', rfl⟩ := Option.map_eq_some_iff.mp hupdated
      exact ⟨o', ho', (hf o').symm, rfl⟩
    · exact ⟨o, hupdated, rfl, rfl⟩

theorem calm_builtin? {operation : String} {params value : Value}
    (h : cp.builtin? o operation params = some (.ok (value, next))) : Calm cp next := by
  rcases builtin?_ok h with rfl | ⟨f, rfl, hf⟩
  · exact Calm.refl next
  · exact calm_annotate cp o.id fun o => (hf o).2

theorem relinked_refl (h : cp.registry.sinks? a = some sinks) : Relinked cp a sinks none cp where
  registered_eq := rfl
  raised_eq := (List.append_nil _).symm
  contains_eq := fun x => rfl
  parentOf_eq := fun x => rfl
  sinks?_eq := by
    intro x
    split
    · next hx => rw [← hx, h]
    · rfl

theorem relinked_setElement (h : cp.registry.find? a = some o) (properties : Members)
    (kept : List ObjectId) :
    Relinked cp a kept none (cp.setElement a (.loopback properties kept)) where
  registered_eq := rfl
  raised_eq := (List.append_nil _).symm
  contains_eq := fun x => Registry.contains_update cp.registry a x _
  parentOf_eq := fun x => Registry.parentOf_update cp.registry a x _
  sinks?_eq := by
    intro x
    refine (Registry.sinks?_update cp.registry a x _).trans ?_
    rw [h]
    rfl

theorem Relinked.raise (h : Relinked cp a kept none next) (b : ObjectId) (k : LinkChange) :
    Relinked cp a kept (some (k, b)) (next.raise (connectionEvent a b k.eventType)).2 where
  registered_eq := h.registered_eq
  raised_eq := by
    have hraised := h.raised_eq
    rw [SinkChange.events, List.append_nil] at hraised
    rw [← hraised]
    rfl
  contains_eq := h.contains_eq
  parentOf_eq := h.parentOf_eq
  sinks?_eq := h.sinks?_eq

/-- The answer of an element to a request about its sinks. -/
inductive Rewires (cp : ControlPlane) (source : ObjectId) (sinks : List ObjectId)
    (asked : SinkChange) (next : ControlPlane) : Prop where
  | intro {kept : List ObjectId} {raised : SinkChange}
      (hr : Relinks cp.registry.contains (cp.registry.Joined source) sinks asked kept raised)
      (h : Relinked cp source kept raised next) : Rewires cp source sinks asked next

theorem rewires_connectSink (ho : cp.registry.find? o.id = some o)
    (hsinks : ∀ b ∈ sinks, cp.registry.contains b = true →
      (cp.registry.sinks? b).isSome = true) (properties : Members)
    (ht : cp.registry.Joined o.id b) :
    Rewires cp o.id sinks (some (.made, b)) (cp.connectSink o properties sinks b) := by
  have hlive := liveSinks_eq hsinks
  unfold connectSink
  simp only [hlive, List.contains_iff_mem]
  split
  · next hb => exact ⟨.found ht hb, relinked_setElement ho properties _⟩
  · next hb =>
    exact ⟨.made ht hb, (relinked_setElement ho properties _).raise b .made⟩

theorem rewires_disconnectSink (ho : cp.registry.find? o.id = some o) {properties : Members}
    (he : o.element = .loopback properties sinks) (b : ObjectId) :
    Rewires cp o.id sinks (some (.undone, b)) (cp.disconnectSink o properties sinks b) := by
  have hsinks := Registry.sinks?_eq_some.mpr ⟨o, properties, ho, he⟩
  unfold disconnectSink
  simp only [List.contains_iff_mem]
  split
  · next hb => exact ⟨.undone hb, (relinked_setElement ho properties _).raise b .undone⟩
  · next hb => exact ⟨.absent hb, relinked_refl hsinks⟩

theorem rewires_invokeLoopback (hf : cp.registry.Forest) (ho : cp.registry.find? o.id = some o)
    {properties : Members} (he : o.element = .loopback properties sinks)
    (hlive : ∀ b ∈ sinks, cp.registry.contains b = true → (cp.registry.sinks? b).isSome = true)
    {operation : String} {params value : Value}
    (h : cp.invokeLoopback o properties sinks operation params = .ok (value, next)) :
    Rewires cp o.id sinks (SinkChange.requested operation params) next := by
  have hsinks := Registry.sinks?_eq_some.mpr ⟨o, properties, ho, he⟩
  unfold invokeLoopback at h
  split at h
  · split at h
    · cases h
    · next sink htarget =>
      cases h
      obtain ⟨htext, hjoined⟩ := connectionTarget_ok hf htarget
      have hasked : SinkChange.requested "connect" params = some (.made, sink) :=
        SinkChange.requested_operation (k := .made) htext
      rw [hasked]
      exact rewires_connectSink ho hlive properties hjoined
  · split at h
    · cases h
    · next text htext =>
      cases h
      have hasked : SinkChange.requested "disconnect" params = some (.undone, ⟨text⟩) :=
        SinkChange.requested_operation (k := .undone) htext
      rw [hasked]
      exact rewires_disconnectSink ho he ⟨text⟩
  · cases h
    rw [liveSinks_eq hlive]
    exact ⟨.looked, relinked_setElement ho properties _⟩
  · split at h
    · cases h
    · cases h
      exact ⟨.same, relinked_setElement ho _ sinks⟩
  · split at h
    · cases h
    · cases h
      exact ⟨.same, relinked_refl hsinks⟩
  · cases h
    exact ⟨.same, relinked_refl hsinks⟩
  · cases h

end ControlPlane

/-! ## Invocations -/

/-- The change of a connection that an event would tell of which a client makes an element raise. -/
def Operation.forged? : Operation → Option LinkChange
  | .invoke _ "emit" params =>
    ((params.get? "type").bind Value.str?).bind LinkChange.ofEventType?
  | _ => none

namespace ControlPlane

variable {cp mid next : ControlPlane} {s : SessionId} {a b : ObjectId} {o : MediaObject}
  {sinks kept : List ObjectId} {asked raised : SinkChange}

/-- A mock element has no sinks, and raises events of connections only if it is told to. -/
theorem calm_invokeMock (cp : ControlPlane) (o : MediaObject) {operation : String} {params : Value}
    (hgenuine : (Operation.invoke a operation params).forged? = none) :
    Calm cp (cp.invokeMock o operation params).2 := by
  have hcount : Calm cp
      { cp with mock := { cp.mock with invocations := cp.mock.invocations + 1 } } :=
    calm_of_eq rfl rfl
  unfold invokeMock
  simp only
  split
  · exact hcount
  · exact hcount
  · have htype : LinkChange.ofEventType?
        (((params.get? "type").bind Value.str?).getD "MockEvent") = none := by
      have hgenuine : ((params.get? "type").bind Value.str?).bind LinkChange.ofEventType? =
        none := hgenuine
      cases ht : (params.get? "type").bind Value.str? with
      | none => rfl
      | some t =>
        rw [ht] at hgenuine
        exact hgenuine
    exact hcount.trans (calm_raise htype)
  · split <;> exact hcount
  · exact hcount

/-- What every object can do is not a change of connections. -/
theorem requested_of_builtin? {operation : String} {params : Value}
    {r : Except Failure (Value × ControlPlane)} (h : cp.builtin? o operation params = some r) :
    SinkChange.requested operation params = none := by
  cases hk : LinkChange.ofOperation? operation with
  | none => exact SinkChange.requested_of_none hk params
  | some k =>
    rw [LinkChange.eq_operation hk] at h
    cases k <;> cases h

/-- Nor is what a mock element does. -/
theorem requested_of_invokeMock {operation : String} {params value : Value}
    (h : (cp.invokeMock o operation params).1 = .now (.ok value)) :
    SinkChange.requested operation params = none := by
  cases hk : LinkChange.ofOperation? operation with
  | none => exact SinkChange.requested_of_none hk params
  | some k =>
    rw [LinkChange.eq_operation hk] at h
    cases k <;> cases h

/-- What the element of an object does to its connections: nothing, and then it succeeds in
answering only what is not about them; or it answers what is. -/
theorem rewires_invokeElement (hf : cp.registry.Forest) (ho : cp.registry.find? o.id = some o)
    {operation : String} {params : Value}
    (hgenuine : (Operation.invoke a operation params).forged? = none)
    (hlive : ∀ sinks, cp.registry.sinks? o.id = some sinks → ∀ b ∈ sinks,
      cp.registry.contains b = true → (cp.registry.sinks? b).isSome = true) :
    (Calm cp (cp.invokeElement o operation params).2 ∧
      ∀ value, (cp.invokeElement o operation params).1 = .now (.ok value) →
        SinkChange.requested operation params = none) ∨
      ∃ sinks value, cp.registry.sinks? o.id = some sinks ∧
        (cp.invokeElement o operation params).1 = .now (.ok value) ∧
        Rewires cp o.id sinks (SinkChange.requested operation params)
          (cp.invokeElement o operation params).2 := by
  unfold invokeElement
  cases he : o.element with
  | mock =>
    exact Or.inl ⟨calm_invokeMock cp o hgenuine, fun value hv => requested_of_invokeMock hv⟩
  | loopback properties sinks =>
    have hsinks := Registry.sinks?_eq_some.mpr ⟨o, properties, ho, he⟩
    simp only
    split
    · exact Or.inl ⟨Calm.refl cp, nofun⟩
    · next value next heq =>
      exact Or.inr ⟨sinks, value, hsinks, rfl,
        rewires_invokeLoopback hf ho he (hlive sinks hsinks) heq⟩

theorem Rewires.of_touched {t : SessionTable} (h : Rewires (cp.withSessions t) a sinks asked next) :
    Rewires cp a sinks asked next := by
  obtain ⟨hr, h⟩ := h
  exact ⟨hr, ⟨h.registered_eq, h.raised_eq, h.contains_eq, h.parentOf_eq, h.sinks?_eq⟩⟩

/-- What an invocation does to the connections of its object. -/
inductive Invokes (cp : ControlPlane) (source : ObjectId) (asked : SinkChange) :
    Outcome → ControlPlane → Prop where
  | calm {outcome : Outcome} {next : ControlPlane} (h : Calm cp next)
      (hnone : ∀ value, outcome = .settled (.ok value) → asked = none) :
      Invokes cp source asked outcome next
  | rewired {sinks : List ObjectId} {value : Value} {next : ControlPlane}
      (hsinks : cp.registry.sinks? source = some sinks) (h : Rewires cp source sinks asked next) :
      Invokes cp source asked (.settled (.ok value)) next

theorem invokes (hf : cp.registry.Forest) (s : SessionId) {operation : String} {params : Value}
    (hgenuine : (Operation.invoke a operation params).forged? = none)
    (hlive : ∀ sinks, cp.registry.sinks? a = some sinks → ∀ b ∈ sinks,
      cp.registry.contains b = true → (cp.registry.sinks? b).isSome = true) :
    Invokes cp a (SinkChange.requested operation params) (cp.invoke s a operation params).1
      (cp.invoke s a operation params).2 := by
  unfold invoke
  split
  · exact .calm (Calm.refl cp) nofun
  · next o mid htouch =>
    obtain ⟨ho, rfl⟩ := touch_ok htouch
    have hid := hf.id_eq ho
    subst hid
    have htouched : Calm cp (cp.withSessions (cp.sessions.touch s o.id .touched cp.now)) :=
      calm_of_eq rfl rfl
    split
    · exact .calm htouched nofun
    · next heq =>
      exact .calm (htouched.trans (calm_builtin? heq)) fun _ _ => requested_of_builtin? heq
    · have hf' : (cp.withSessions (cp.sessions.touch s o.id .touched cp.now)).registry.Forest := hf
      rcases rewires_invokeElement hf' ho hgenuine hlive with
        ⟨hcalm, hnone⟩ | ⟨sinks, value, hsinks, hvalue, hrewires⟩
      · have hcalm := htouched.trans hcalm
        split
        · next heq =>
          rw [heq] at hcalm
          exact .calm hcalm nofun
        · next value next heq =>
          rw [heq] at hcalm hnone
          exact .calm hcalm fun _ _ => hnone value rfl
        · next heq =>
          rw [heq] at hcalm
          exact .calm hcalm nofun
      · have hrewires := hrewires.of_touched
        split
        · next heq =>
          rw [heq] at hvalue
          cases hvalue
        · next heq =>
          rw [heq] at hrewires
          exact .rewired hsinks hrewires
        · next heq =>
          rw [heq] at hvalue
          cases hvalue

/-- An element that is asked for its sinks names the live ones. -/
theorem execute_getSinkConnections (hsinks : cp.registry.sinks? a = some sinks)
    (hlive : ∀ b ∈ sinks, cp.registry.contains b = true → (cp.registry.sinks? b).isSome = true)
    (s : SessionId) (params : Value) :
    (cp.execute s (.invoke a "getSinkConnections" params)).1 =
      .settled (.ok (valueResult (.arr
        ((sinks.filter cp.registry.contains).map (.str ·.text))))) := by
  obtain ⟨o, properties, ho, he⟩ := Registry.sinks?_eq_some.mp hsinks
  have htouch : cp.touch s a =
      .ok (o, cp.withSessions (cp.sessions.touch s a .touched cp.now)) := by
    rw [ControlPlane.touch, Registry.get_eq_ok_iff.mpr ho]
  have hanswer : (cp.withSessions (cp.sessions.touch s a .touched cp.now)).invokeElement o
      "getSinkConnections" params =
        (.now (.ok (.arr ((liveSinks cp.registry sinks).map (.str ·.text)))),
          (cp.withSessions (cp.sessions.touch s a .touched cp.now)).setElement o.id
            (.loopback properties (liveSinks cp.registry sinks))) := by
    unfold invokeElement
    rw [he]
    rfl
  show (cp.invoke s a "getSinkConnections" params).1 = _
  have hbuiltin : (cp.withSessions (cp.sessions.touch s a .touched cp.now)).builtin? o
      "getSinkConnections" params = none := rfl
  unfold invoke
  rw [htouch, ← liveSinks_eq hlive]
  simp only [hbuiltin, hanswer]

end ControlPlane

end MediaPlane
