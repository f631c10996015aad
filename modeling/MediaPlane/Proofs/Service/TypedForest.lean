import MediaPlane.Proofs.ControlPlane.Typing
import MediaPlane.Proofs.Object.Walks
import MediaPlane.Proofs.Service.Reachability
import MediaPlane.Proofs.Service.Release

/-
  The registry is a forest, and it is well typed. In every run, whatever the registered types are
  and however requests interleave where they wait, each live object stands where its type puts it:
  at a root, or below a live parent of the kind that the type demands; every way up is finite and
  ends at a live root; the index of children lists exactly the children; and the live objects are
  counted. An object that cannot be put into the registry leaves no trace in it
  (`registry_typed_forest`).

  That the parent is of the right kind needs ids that are never given out twice, as unique names
  see to: else another object could take a parent's place while an element is under construction.
-/

namespace MediaPlane

namespace Registry

variable {r : Registry} {o : MediaObject}

/-- An object cannot be put where its id is taken or its parent is gone, and else it can. -/
theorem put_error_iff :
    (∃ e, r.put o = .error e) ↔
      r.contains o.id = true ∨ ∃ p, o.parent = some p ∧ r.contains p = false := by
  unfold put
  split
  · next htaken => exact ⟨fun _ => Or.inl htaken, fun _ => ⟨_, rfl⟩⟩
  · next hfree =>
    simp only [hfree]
    cases o.parent with
    | none => simp
    | some p =>
      simp only [Option.some.injEq, exists_eq_left']
      cases hp : r.contains p with
      | true => simp
      | false => simp

end Registry

namespace ControlPlane

variable {cp mid next : ControlPlane} {s : SessionId} {made : Made}

/-! ## Commands build nothing -/

theorem wanes_expire? (h : cp.expire? s = some next) : Wanes cp next := by
  obtain ⟨closure, holdings, hc, rfl⟩ := expire?_eq_some h
  exact wanes_closedBy hc

theorem wanes_expireAll (cp : ControlPlane) (ss : List SessionId) :
    Wanes cp (cp.expireAll ss).2 := by
  induction ss generalizing cp with
  | nil => exact Wanes.refl cp
  | cons s ss ih =>
    unfold expireAll
    split
    · exact ih cp
    · next heq => exact (wanes_expire? heq).trans (ih _)

theorem wanes_sweep (cp : ControlPlane) : Wanes cp cp.sweep.2 := by
  rcases cp.sweep_cases with heq | heq <;> rw [heq]
  · exact Wanes.refl cp
  · exact (wanes_expireAll cp _).trans (wanes_of_eq rfl rfl)

theorem wanes_connectHandler (cp : ControlPlane) (object : ObjectId) (s : SessionId)
    (eventType : String) (receiver : Receiver) :
    Wanes cp (cp.connectHandler object s eventType receiver).2 := by
  have hconnects := connects cp object s eventType receiver
  generalize (cp.connectHandler object s eventType receiver).2 = next at hconnects ⊢
  cases hconnects with
  | missed => exact Wanes.refl cp
  | connected => exact wanes_of_eq rfl rfl

theorem wanes_shareHandler (cp : ControlPlane) (object : ObjectId) (s : SessionId)
    (id : SubscriptionId) (handler : Handler) :
    Wanes cp (cp.shareHandler object s id handler).2 := by
  have hshares := shares cp object s id handler
  generalize (cp.shareHandler object s id handler).2 = next at hshares ⊢
  cases hshares with
  | missed => exact Wanes.refl cp
  | touched | shared => exact wanes_of_eq rfl rfl

theorem wanes_shutdown (cp : ControlPlane) : Wanes cp cp.shutdown := by
  refine wanes_of_fewer (journal_shutdown cp) ?_
  rw [registry, registry, holdings_shutdown]
  exact Registry.fewer_removeAll cp.registry _

/-- Only one command does more than take away: it raises an event. -/
theorem waning_obey (cp : ControlPlane) (c : Command) :
    Wanes cp (cp.obey c) ∨ ∃ object eventType data, c = .emit object eventType data ∧
      cp.obey c = (cp.raise ⟨object, eventType, data⟩).2 := by
  have hobeys := cp.obeys c
  generalize cp.obey c = next at hobeys ⊢
  cases hobeys with
  | failed => exact Or.inl (Wanes.refl cp)
  | keptAlive h => exact Or.inl (wanes_keepAlive h)
  | connected s => exact Or.inl (wanes_connect cp s)
  | closed h => exact Or.inl (wanes_closeSession h)
  | swept => exact Or.inl (wanes_sweep cp)
  | emitted object eventType data => exact Or.inr ⟨object, eventType, data, rfl, rfl⟩
  | handlerConnected object s eventType receiver =>
    exact Or.inl (wanes_connectHandler cp object s eventType receiver)
  | handlerShared object s id => exact Or.inl (wanes_shareHandler cp object s id _)
  | shutDown => exact Or.inl (wanes_shutdown cp)
  | evicted | handlerTaken | handlerDropped | factoryInstalled | engineSet | probeLoaded
  | advanced => exact Or.inl (wanes_of_eq rfl rfl)

theorem kept_obey (cp : ControlPlane) (c : Command) : Kept cp (cp.obey c) := by
  rcases cp.waning_obey c with h | ⟨object, eventType, data, -, heq⟩
  · exact h.kept
  · rw [heq]
    exact kept_of_registry rfl rfl

end ControlPlane

/-! ## Runs -/

open ControlPlane (Made)

/-- What a call waits for. -/
def Call.wait? (c : Call) : Option Wait := c.pending?.bind Pending.wait?

theorem Call.wait?_state (progress : Progress) (r : Request) (found : Option Arrival) (now : Nat) :
    Call.wait? ⟨r, found, progress.state now⟩ = progress.wait? := by
  cases progress <;> rfl

/-- The plane is typed, and what its calls wait for is sound. -/
structure Service.Typed (made : Made) (v : Service) : Prop where
  plane : ControlPlane.Typed made v.plane
  calls : ∀ c ∈ v.calls, ∀ wait, c.wait? = some wait → wait.Sound made

namespace Service

variable {v : Service} {made : Made}

/-- Calls that wait as before stay sound while more is built. -/
theorem Typed.sound_append (h : v.Typed made) (more : Made) :
    ∀ c ∈ v.calls, ∀ wait, c.wait? = some wait → wait.Sound (made ++ more) :=
  fun c hc wait hw => (h.calls c hc wait hw).append more

/-- A call of a list that changes in one place is the changed one or was there before. -/
theorem mem_modify {calls : List Call} {i : Nat} {f : Call → Call} {c : Call}
    (h : c ∈ calls.modify i f) : c ∈ calls ∨ ∃ d ∈ calls, c = f d := by
  obtain ⟨j, hj⟩ := List.mem_iff_getElem?.mp h
  rw [List.getElem?_modify] at hj
  obtain ⟨d, hd, rfl⟩ := Option.map_eq_some_iff.mp hj
  have hmem := List.mem_of_getElem? hd
  split
  · exact Or.inr ⟨d, hmem, rfl⟩
  · exact Or.inl hmem

theorem Typed.arrive (h : v.Typed made) (r : Request) :
    ∃ more, (v.arrive r).Typed (made ++ more) := by
  obtain ⟨more, hplane, hwait⟩ := ControlPlane.grows_begin v.plane r made h.plane
  refine ⟨more, hplane, fun c hc wait hw => ?_⟩
  rcases List.mem_append.mp hc with hc | hc
  · exact h.sound_append more c hc wait hw
  · rw [List.mem_singleton.mp hc, Call.wait?_state] at hw
    exact hwait wait hw

theorem Typed.resume (h : v.Typed made) (i tick : Nat) :
    ∃ more, (v.resume i tick).Typed (made ++ more) := by
  unfold Service.resume
  split
  · exact ⟨[], by rwa [List.append_nil]⟩
  · next progress plane heq =>
    obtain ⟨p, hp, hr⟩ := Option.bind_eq_some_iff.mp heq
    obtain ⟨c, hc, hpending⟩ := Option.bind_eq_some_iff.mp hp
    have hsound : ∀ wait, p.wait? = some wait → wait.Sound made := by
      intro wait hw
      refine h.calls c (List.mem_of_getElem? hc) wait ?_
      unfold Call.wait?
      rw [hpending]
      exact hw
    obtain ⟨more, hplane, hwait⟩ := ControlPlane.grows_resume? hr h.plane hsound
    refine ⟨more, hplane, fun d hd wait hw => ?_⟩
    rcases mem_modify hd with hd | ⟨e, -, rfl⟩
    · exact h.sound_append more d hd wait hw
    · rw [Call.wait?_state] at hw
      exact hwait wait hw

theorem Typed.cancel (h : v.Typed made) (i : Nat) : (v.cancel i).Typed made := by
  unfold Service.cancel
  split
  · exact h
  · next p _ =>
    refine ⟨h.plane.kept (ControlPlane.wanes_cancel v.plane p).kept, fun d hd wait hw => ?_⟩
    rcases mem_modify hd with hd | ⟨e, -, rfl⟩
    · exact h.calls d hd wait hw
    · cases hw

/-- A step may build more; the list of what was built then only grows. -/
theorem Typed.step (h : v.Typed made) (i : Input) : ∃ more, (v.step i).Typed (made ++ more) := by
  have hsame : ∀ {w : Service}, w.Typed made → ∃ more, w.Typed (made ++ more) :=
    fun hw => ⟨[], by rwa [List.append_nil]⟩
  cases i with
  | arrive r => exact h.arrive r
  | resume i tick => exact h.resume i tick
  | cancel i => exact hsame (h.cancel i)
  | command c => exact hsame ⟨h.plane.kept (ControlPlane.kept_obey v.plane c), h.calls⟩

end Service

theorem Settings.typed_run (c : Settings) (inputs : List Input) :
    ∃ made, (c.run inputs).Typed made := by
  refine c.run_inv (P := fun v => ∃ made, v.Typed made) ⟨[], ⟨rfl, ?_⟩, ?_⟩ ?_ inputs
  · intro x o ho
    simp [Settings.plane, ControlPlane.registry, Registry.find?] at ho
  · intro c hc
    cases hc
  · rintro v i ⟨made, h⟩
    obtain ⟨more, hnext⟩ := h.step i
    exact ⟨made ++ more, hnext⟩

/-! ## The typed forest -/

/-- The live objects stand where their types put them, in a forest that all parts of the registry
agree on. Names have been drawn since the first `start`. -/
structure ControlPlane.TypedForest (cp : ControlPlane) (start : Nat) : Prop where
  /-- A type that needs a parent has a live one, of the kind that it demands. -/
  below : ∀ x o param kind, cp.registry.find? x = some o → o.type.placement = .under param kind →
    ∃ p parent, o.parent = some p ∧ cp.registry.find? p = some parent ∧
      (cp.names.UniqueSince start → parent.kind = kind)
  root : ∀ x o, cp.registry.find? x = some o → o.type.placement = .root → o.parent = none
  /-- Every way up is finite and ends at a live root. -/
  ascent : ∀ x, cp.registry.contains x = true → cp.registry.Ascent x (cp.registry.path x)
  children : ∀ p c, c ∈ cp.registry.childrenOf p ↔
    ∃ o, cp.registry.find? c = some o ∧ o.parent = some p
  none_empty : ∀ (p : ObjectId) (cs : Std.ExtTreeSet ObjectId),
    cp.registry.children[p]? = some cs → cs.isEmpty = false
  live_eq : cp.registry.live = cp.registry.objects.size
  /-- When an object cannot be put into the registry. -/
  refused : ∀ o, (∃ e, cp.registry.put o = .error e) ↔
    cp.registry.contains o.id = true ∨ ∃ p, o.parent = some p ∧ cp.registry.contains p = false
  /-- What was built for it is released then, and nothing else changes. -/
  unchanged : ∀ s c e, (cp.register s c).1 = .error e →
    (cp.register s c).2 = cp.releaseElement c.id c.element ∧
      (cp.register s c).2.holdings = cp.holdings ∧
      (cp.register s c).2.dispatcher = cp.dispatcher

namespace ControlPlane

variable {cp : ControlPlane} {made : Made}

/-- With ids that are given out once, each has one type on the list. -/
theorem Typed.type_unique (h : Typed made cp) (hn : cp.journal.constructed.Nodup) {x : ObjectId}
    {t t' : ObjectType} (ht : (x, t) ∈ made) (ht' : (x, t') ∈ made) : t = t' := by
  rw [← h.constructed_eq] at hn
  exact congrArg Prod.snd (List.inj_on_of_nodup_map hn ht ht' rfl)

theorem Typed.typedForest {start : Nat} (h : Typed made cp) (hs : cp.holdings.Settled)
    (hn : cp.names.UniqueSince start → cp.journal.constructed.Nodup) : cp.TypedForest start where
  below := by
    intro x o param kind ho hplacement
    have hplaced := (h.sound ho).2.placed
    unfold Placed at hplaced
    rw [hplacement] at hplaced
    obtain ⟨p, t, hp, hmem, hkind⟩ := hplaced
    have hparentOf : cp.registry.parentOf x = some p := by
      rw [Registry.parentOf, ho]
      exact hp
    obtain ⟨parent, hparent⟩ := Registry.contains_iff.mp (hs.forest.parent_live hparentOf)
    refine ⟨p, parent, hp, hparent, fun hu => ?_⟩
    rw [MediaObject.kind, h.type_unique (hn hu) (h.sound hparent).2.mem hmem]
    exact hkind
  root := by
    intro x o ho hplacement
    have hplaced := (h.sound ho).2.placed
    unfold Placed at hplaced
    rw [hplacement] at hplaced
    exact hplaced
  ascent _ hx := hs.forest.ascent hx
  children p c := by
    rw [registry, hs.forest.mem_children, Registry.parentOf, Option.bind_eq_some_iff]
  none_empty _ _ hcs := hs.forest.none_empty hcs
  live_eq := hs.forest.live_eq
  refused _ := Registry.put_error_iff
  unchanged s c e he := by
    have heq := register_error he
    exact ⟨heq, by rw [heq]; rfl, by rw [heq]; rfl⟩

end ControlPlane

/-- In every run the registry is a well-typed forest. -/
theorem registry_typed_forest (c : Settings) (inputs : List Input) :
    (c.run inputs).plane.TypedForest c.names.drawn := by
  obtain ⟨made, h⟩ := c.typed_run inputs
  exact h.plane.typedForest (c.settled_run inputs) c.nodup_constructed_run

/-! ## A small run -/

namespace Sample

/-- An element of the pipeline that takes some time to build, while others use the pipeline. -/
def delayed : List Input :=
  [.arrive (.inSession owner (.create "MediaPipeline" .null)),
    .arrive (.inSession owner (.create "WebRtcEndpoint" (slowly 10))),
    .arrive (.inSession guest (.describe pipeline)),
    .command (.advance 10),
    .resume 1 10]

def endpoint : ObjectId := .child pipeline (names.name 2) "kurento.WebRtcEndpoint"

end Sample

/-- The endpoint has got its pipeline by the time it is registered. -/
theorem registry_typed_forest_delayed :
    (Sample.settings.run Sample.delayed).plane.names.UniqueSince Sample.settings.names.drawn ∧
      ∃ o p parent, (Sample.settings.run Sample.delayed).plane.registry.find? Sample.endpoint =
          some o ∧ o.parent = some p ∧
        (Sample.settings.run Sample.delayed).plane.registry.find? p = some parent ∧
        parent.kind = .pipeline := by
  obtain ⟨hdrawn, hlive⟩ :
      (Sample.settings.run Sample.delayed).plane.names.since Sample.settings.names.drawn =
          [1, 2].map Sample.names.name ∧
        ((Sample.settings.run Sample.delayed).plane.registry.find? Sample.endpoint).map
          (·.type.placement) = some (.under "mediaPipeline" .pipeline) := by
    decide +kernel
  have hu : (Sample.settings.run Sample.delayed).plane.names.UniqueSince
      Sample.settings.names.drawn := by
    constructor <;> rw [hdrawn] <;> decide +kernel
  obtain ⟨o, ho, hplacement⟩ := Option.map_eq_some_iff.mp hlive
  obtain ⟨p, parent, hp, hparent, hkind⟩ :=
    (registry_typed_forest Sample.settings Sample.delayed).below Sample.endpoint o _ _ ho hplacement
  exact ⟨hu, o, p, parent, ho, hp, hparent, hkind hu⟩

end MediaPlane
