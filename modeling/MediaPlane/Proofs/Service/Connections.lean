import MediaPlane.Proofs.ControlPlane.Tracking
import MediaPlane.Proofs.Service.TypedForest
import MediaPlane.Proofs.Service.Uniqueness

/-
  Connections follow their history (`connections_follow`). The sinks that a live loopback element
  keeps have no duplicates, and the live ones among them stand in its tree. Asked for its sinks, it
  names exactly the live objects that it was connected to without being disconnected since, in the
  order in which those connections were last reported. An event reports a connection exactly if a
  connect succeeds where there was none; and the events of two elements alternate.

  An element keeps dead sinks until it looks at them, so this needs that no dead one comes back,
  which unique ids see to; and that nobody forges events of connections (`Genuine`). The history is
  kept up with performance by performance (`Chronicle`), and so from step to step of a run.
-/

namespace MediaPlane

namespace ControlPlane

variable {cp mid next : ControlPlane} {s : SessionId} {a : ObjectId} {n : Nat}
  {history ps : List Performance} {p : Performance}

/-! ## Acts -/

/-- As long as no id was registered twice, the connections follow the history, now and wherever
something was performed. -/
def Chronicle (history : List Performance) (cp : ControlPlane) : Prop :=
  cp.journal.registered.Nodup → Tracks history cp ∧
    ∀ before p after, history = before ++ p :: after → Tracks before p.plane

/-- What is on record stays on record. -/
theorem Rears.nodup_registered {building after : List Construction}
    (h : Rears cp building next after) (hn : next.journal.registered.Nodup) :
    cp.journal.registered.Nodup := by
  obtain ⟨entered, hregistered, -⟩ := h.entered
  rw [hregistered] at hn
  exact (List.nodup_append.mp hn).1

namespace Chronicle

theorem calm (h : Chronicle history cp) (hc : Calm cp next) (hf : cp.registry.Forest)
    (hf' : next.registry.Forest) : Chronicle history next := by
  intro hn
  rw [hc.registered_eq] at hn
  exact ⟨(h hn).1.calm hc hf hf', (h hn).2⟩

theorem perform (h : Chronicle history p.plane) (hs : p.plane.holdings.Settled)
    (hgenuine : p.op.forged? = none) : Chronicle (history ++ [p]) p.next := by
  intro hn
  have hrears : Rears p.plane [] p.next (p.outcome.constructions ++ []) :=
    rears_execute hs rfl []
  obtain ⟨htracks, hearlier⟩ := h (hrears.nodup_registered hn)
  refine ⟨htracks.perform hs hgenuine hn, fun before q after hsplit => ?_⟩
  rcases split_concat hsplit with ⟨-, rfl, rfl⟩ | ⟨rest, -, hrest⟩
  · exact htracks
  · exact hearlier before q rest hrest

/-- An act performs an operation, or is calm. -/
theorem act (h : Chronicle history cp) (ha : Act cp ps n next) (hs : cp.holdings.Settled)
    (hgenuine : ∀ p ∈ ps, p.op.forged? = none) : Chronicle (history ++ ps) next := by
  have hs' := lasting_settled.act ha hs
  have hcalm : Calm cp next → Chronicle (history ++ []) next := fun hc => by
    rw [List.append_nil]
    exact h.calm hc hs.forest hs'.forest
  cases ha with
  | @perform s op _ _ he =>
    have h : Chronicle history (Performance.plane ⟨cp, s, op⟩) := h
    have hnext := h.perform hs (hgenuine _ (List.mem_singleton.mpr rfl))
    rwa [Performance.next, he] at hnext
  | enter s => exact hcalm (wanes_enter cp s).calm
  | keepAlive h => exact hcalm (wanes_keepAlive h).calm
  | connect s => exact hcalm (wanes_connect cp s).calm
  | close h => exact hcalm (wanes_closeSession h).calm
  | draw | leave | cache | count | replay => exact hcalm (calm_of_eq rfl rfl)

theorem acts (h : Chronicle history cp) (ha : Acts cp ps n next) (hs : cp.holdings.Settled)
    (hgenuine : ∀ p ∈ ps, p.op.forged? = none) : Chronicle (history ++ ps) next := by
  induction ha with
  | refl => rwa [List.append_nil]
  | tail ha hact ih =>
    rw [← List.append_assoc]
    exact (ih fun p hp => hgenuine p (List.mem_append_left _ hp)).act hact
      (lasting_settled.acts ha hs) fun p hp => hgenuine p (List.mem_append_right _ hp)

theorem passes {progress : Progress} (h : Chronicle history cp) (hp : Passes cp ps progress next)
    (hs : cp.holdings.Settled) (hgenuine : ∀ p ∈ ps, p.op.forged? = none) :
    Chronicle (history ++ ps) next := by
  cases hp with
  | finished ha | repeated ha => exact h.acts ha hs hgenuine
  | @suspended ps mid _ op w ha caller batch hw =>
    have hmid := h.acts ha hs fun p hp => hgenuine p (List.mem_append_left _ hp)
    have hmid : Chronicle (history ++ ps) (Performance.plane ⟨mid, caller.session, op⟩) := hmid
    have hnext := hmid.perform (lasting_settled.acts ha hs)
      (hgenuine _ (List.mem_append_right _ (List.mem_singleton.mpr rfl)))
    rwa [Performance.next, hw, List.append_assoc] at hnext

theorem finishWait (h : Chronicle history cp) (hs : cp.holdings.Settled) (s : SessionId)
    {wait : Wait} (hfresh : ∀ c ∈ wait.constructions, c.element.Fresh) :
    Chronicle history (cp.finishWait s wait).2 := by
  cases wait with
  | answer => exact h
  | construction c ready =>
    intro hn
    have hrears : Rears cp [c] (cp.register s c).2 [] := Rears.refl.register s
    obtain ⟨htracks, hearlier⟩ := h (hrears.nodup_registered hn)
    exact ⟨htracks.register hs s (hfresh c (List.mem_singleton.mpr rfl)) hn, hearlier⟩

end Chronicle

/-- Elements under construction keep no sinks. -/
theorem Rears.fresh {building after : List Construction} (h : Rears cp building next after)
    (hfresh : ∀ c ∈ building, c.element.Fresh) : ∀ c ∈ after, c.element.Fresh := by
  induction h with
  | refl => exact hfresh
  | barren _ _ ih => exact ih
  | begins _ hb _ ih =>
    intro c hc
    rcases List.mem_cons.mp hc with rfl | hc
    · exact hb.fresh
    · exact ih c hc
  | register _ _ ih => exact fun c hc => ih c (List.mem_cons_of_mem _ hc)
  | giveUp _ hsub ih => exact fun c hc => ih c (hsub.subset hc)

end ControlPlane

/-! ## Runs -/

/-- The change of a connection that an event would tell of which a command raises. -/
def Input.forged? : Input → Option LinkChange
  | command (.emit _ eventType _) => LinkChange.ofEventType? eventType
  | _ => none

/-- Nobody but the elements raises events of connections. -/
structure Settings.Genuine (c : Settings) (inputs : List Input) : Prop where
  commands : ∀ i ∈ inputs, i.forged? = none
  operations : ∀ p ∈ c.history inputs, p.op.forged? = none

open ControlPlane (Chronicle)

namespace Service

variable {v : Service} {history : List Performance}

theorem chronicle_obey (h : Chronicle history v.plane) (hs : v.plane.holdings.Settled)
    {c : Command} (hgenuine : (Input.command c).forged? = none) :
    Chronicle history (v.plane.obey c) := by
  have hs' : (v.plane.obey c).holdings.Settled := ControlPlane.lasting_settled.obey hs c
  refine h.calm ?_ hs.forest hs'.forest
  rcases v.plane.waning_obey c with hw | ⟨object, eventType, data, rfl, heq⟩
  · exact hw.calm
  · rw [heq]
    exact ControlPlane.calm_raise hgenuine

theorem chronicle_step (h : Chronicle history v.plane) (hs : v.plane.holdings.Settled)
    (hfresh : ∀ c ∈ v.constructions, c.element.Fresh) {i : Input} (hi : i.forged? = none)
    (hgenuine : ∀ p ∈ v.performed i, p.op.forged? = none) :
    Chronicle (history ++ v.performed i) (v.step i).plane := by
  cases i with
  | arrive r => exact h.passes (v.passes_arrive r) hs hgenuine
  | resume i tick =>
    have hr := v.resumes i tick
    show Chronicle _ (v.resume i tick).plane
    generalize v.performed (.resume i tick) = ps at hr hgenuine ⊢
    generalize v.resume i tick = next at hr ⊢
    cases hr with
    | idle | followed =>
      rw [List.append_nil]
      exact h
    | @advanced caller wait batch ps progress plane hp _ hpasses =>
      have hwait : ∀ c ∈ wait.constructions, c.element.Fresh := by
        obtain ⟨others, hbefore, -⟩ := perm_constructions hp v.plane .cancelled
        exact fun c hc => hfresh c (hbefore.mem_iff.mpr (List.mem_append_left _ hc))
      exact (h.finishWait hs caller.session hwait).passes hpasses
        (ControlPlane.lasting_settled.finishWait hs caller.session wait) hgenuine
  | cancel i =>
    show Chronicle (history ++ []) (v.cancel i).plane
    rw [List.append_nil]
    unfold cancel
    split
    · exact h
    · next p _ =>
      have hs' := ControlPlane.lasting_settled.cancel hs p
      exact h.calm (ControlPlane.wanes_cancel v.plane p).calm hs.forest hs'.forest
  | command c =>
    show Chronicle (history ++ []) (v.plane.obey c)
    rw [List.append_nil]
    exact chronicle_obey h hs hi

end Service

namespace Settings

variable (c : Settings)

theorem fresh_run (inputs : List Input) :
    ∀ d ∈ (c.run inputs).constructions, d.element.Fresh :=
  (c.rears_run [] inputs).fresh fun d hd => by cases hd

theorem find?_start (x : ObjectId) : c.plane.registry.find? x = none := by
  simp [Settings.plane, ControlPlane.registry, Registry.find?]

theorem tracks_start : c.plane.Tracks [] := by
  have hsinks : ∀ {a sinks}, c.plane.registry.sinks? a = some sinks → False := by
    intro a sinks h
    rw [Registry.sinks?, c.find?_start] at h
    cases h
  refine { live_registered := fun hx => ?_, agrees := fun h => (hsinks h).elim,
           joined := fun h => (hsinks h).elim, kept_registered := fun h => (hsinks h).elim,
           linked_registered := fun hb => (List.not_mem_nil hb).elim,
           news_registered := fun hne => absurd rfl hne,
           alternates := fun _ _ => LinkChange.alternates_nil, news_eq := fun _ _ => rfl,
           reported := reported_nil }
  rw [Registry.contains_eq, c.find?_start] at hx
  cases hx

theorem chronicle_run {inputs : List Input} (hgenuine : c.Genuine inputs) :
    Chronicle (c.history inputs) (c.run inputs).plane := by
  induction inputs using List.reverseRecOn with
  | nil =>
    refine fun _ => ⟨c.tracks_start, fun before p after h => ?_⟩
    have h : [] = before ++ p :: after := h
    simp at h
  | append_singleton inputs i ih =>
    obtain ⟨hcommands, hoperations⟩ := hgenuine
    rw [c.history_succ] at hoperations ⊢
    rw [c.run_succ]
    have hbefore : c.Genuine inputs :=
      ⟨fun j hj => hcommands j (List.mem_append_left _ hj),
        fun p hp => hoperations p (List.mem_append_left _ hp)⟩
    exact Service.chronicle_step (ih hbefore) (c.settled_run inputs) (c.fresh_run inputs)
      (hcommands i (List.mem_append_right _ (List.mem_singleton.mpr rfl)))
      fun p hp => hoperations p (List.mem_append_right _ hp)

end Settings

/-! ## Connections -/

/-- A live object has a root. -/
theorem Registry.Forest.exists_rootOf {r : Registry} (hf : r.Forest) {x : ObjectId}
    (hx : r.contains x = true) : ∃ root, r.rootOf x = .ok root := by
  obtain ⟨root, -, -, hroot⟩ := (hf.ascent hx).ends
  exact ⟨root, hroot⟩

namespace ControlPlane

variable {cp : ControlPlane} {history : List Performance}

/-- The connections of a state follow from the history that led to it. -/
structure Follows (cp : ControlPlane) (history : List Performance) : Prop where
  /-- An element keeps no sink twice. -/
  nodup : ∀ a sinks, cp.registry.sinks? a = some sinks → sinks.Nodup
  /-- The live sinks that it keeps have the same root. -/
  same_root : ∀ a sinks b, cp.registry.sinks? a = some sinks → b ∈ sinks →
    cp.registry.contains b = true →
    ∃ root, cp.registry.rootOf a = .ok root ∧ cp.registry.rootOf b = .ok root
  /-- Asked for its sinks, it names the live objects whose last connection was not followed by a
  disconnection, in the order in which those connections were last reported. -/
  answers : ∀ s a params, (cp.registry.sinks? a).isSome = true → ∃ ids : List ObjectId,
    (cp.execute s (.invoke a "getSinkConnections" params)).1 =
        .settled (.ok (valueResult (.arr (ids.map (.str ·.text))))) ∧
      ids.Nodup ∧
      (∀ b, b ∈ ids ↔ cp.registry.contains b = true ∧ Linked history a b) ∧
      ids.Pairwise (RaisedBefore history a)
  /-- The events on record of two elements alternate, and a connection comes first. -/
  alternates : ∀ a b, LinkChange.Alternates (cp.journal.news a b)
  /-- They are those that were raised in what was performed. -/
  news_eq : ∀ a b, cp.journal.news a b = history.flatMap fun p => p.news a b

theorem Tracks.follows (h : Tracks history cp) (hf : cp.registry.Forest) :
    cp.Follows history where
  nodup _ _ hsinks := (h.agrees hsinks).nodup
  same_root := by
    intro a sinks b hsinks hb hlive
    obtain ⟨root, hroot⟩ := hf.exists_rootOf (Registry.contains_of_sinks? hsinks)
    exact ⟨root, hroot, (h.joined hsinks hb hlive).root_eq.trans hroot⟩
  answers := by
    intro s a params hloopback
    obtain ⟨sinks, hsinks⟩ := Option.isSome_iff_exists.mp hloopback
    have hagrees := h.agrees hsinks
    refine ⟨sinks.filter cp.registry.contains, ?_, hagrees.nodup.filter _, fun b => ?_, ?_⟩
    · exact execute_getSinkConnections hsinks
        (fun b hb hlive => (h.joined hsinks hb hlive).loopback) s params
    · rw [hagrees.filter_eq, List.mem_filter, mem_linksFrom, and_comm]
    · rw [hagrees.filter_eq]
      exact (h.reported.pairwise_linksFrom a).filter _
  alternates := h.alternates
  news_eq := h.news_eq

end ControlPlane

/-- Connections follow their history, at the end of a run and wherever something was performed; and
each performance reports a connection exactly if it succeeds in connecting what was not
connected. -/
structure Settings.ConnectionsFollow (c : Settings) (inputs : List Input) : Prop where
  now : (c.run inputs).plane.Follows (c.history inputs)
  performed : ∀ before p after, c.history inputs = before ++ p :: after →
    p.plane.Follows before ∧ p.Reports before

/-- In every run in which unique identifiers are drawn and nobody forges events of connections,
connections follow their history. -/
theorem connections_follow (c : Settings) (inputs : List Input)
    (hu : (c.run inputs).plane.names.UniqueSince c.names.drawn) (hgenuine : c.Genuine inputs) :
    c.ConnectionsFollow inputs := by
  have hregistered := c.nodup_registered_run hu
  obtain ⟨htracks, hearlier⟩ := c.chronicle_run hgenuine hregistered
  refine ⟨htracks.follows (c.settled_run inputs).forest, fun before p after hsplit => ?_⟩
  have hmem : p ∈ c.history inputs := by
    rw [hsplit]
    exact List.mem_append_right _ List.mem_cons_self
  exact ⟨(hearlier before p after hsplit).follows (c.settled_history inputs p hmem).forest,
    htracks.reported before p after hsplit⟩

/-! ## A small run -/

namespace Sample

/-- Endpoints that stand alone and keep connections. -/
def standalone : Settings where
  admission := ⟨.fixed .nan, .ofNat 1⟩
  sessionTtl := 60000
  catalog := Catalog.empty.registerAll .loopback true [.inModule "kurento" "Endpoint" .endpoint]
  names := { name := NamingScheme.ascending.name }
  retention := 60000

def loner : ObjectId := .root (NamingScheme.ascending.name 1) "kurento.Endpoint"

/-- A change of the endpoint's connection to itself. -/
def rewire (s : SessionId) (k : LinkChange) : Input :=
  .arrive (.inSession s (.invoke loner k.operation (.object [("sink", .str loner.text)])))

/-- The endpoint is connected to itself, disconnected by another session, and connected again. -/
def rewired : List Input :=
  [.arrive (.inSession owner (.create "Endpoint" .null)), rewire owner .made, rewire guest .undone,
    rewire owner .made]

end Sample

/-- The endpoint ends up connected, and its events alternate. -/
theorem connections_follow_rewired :
    (Sample.standalone.run Sample.rewired).plane.names.UniqueSince Sample.standalone.names.drawn ∧
      Sample.standalone.Genuine Sample.rewired ∧
      Sample.standalone.ConnectionsFollow Sample.rewired ∧
      (Sample.standalone.run Sample.rewired).plane.registry.sinks? Sample.loner =
        some [Sample.loner] ∧
      (Sample.standalone.run Sample.rewired).plane.journal.news Sample.loner Sample.loner =
        [.made, .undone, .made] := by
  -- One evaluation of the run gives all that is looked at.
  obtain ⟨hdrawn, hoperations, hsinks, hnews⟩ :
      (Sample.standalone.run Sample.rewired).plane.names.since Sample.standalone.names.drawn =
          [NamingScheme.ascending.name 1] ∧
        (∀ p ∈ Sample.standalone.history Sample.rewired, p.op.forged? = none) ∧
        (Sample.standalone.run Sample.rewired).plane.registry.sinks? Sample.loner =
          some [Sample.loner] ∧
        (Sample.standalone.run Sample.rewired).plane.journal.news Sample.loner Sample.loner =
          [.made, .undone, .made] := by
    decide +kernel
  have hu : (Sample.standalone.run Sample.rewired).plane.names.UniqueSince
      Sample.standalone.names.drawn := by
    constructor <;> rw [hdrawn] <;> decide +kernel
  have hgenuine : Sample.standalone.Genuine Sample.rewired := ⟨by decide, hoperations⟩
  exact ⟨hu, hgenuine, connections_follow Sample.standalone Sample.rewired hu hgenuine, hsinks,
    hnews⟩

end MediaPlane
