import MediaPlane.Proofs.ControlPlane.Waning

/-
  Objects and their types. The kind of a parent is looked at before an element is built, and an
  object may wait long for its element; all that is looked at again is whether the parent is there.
  What makes that enough is that no object ever changes its type. `Kept` says so of a step that
  builds nothing: objects may go, but none comes, and those that stay keep their type and their
  parent. Whatever was ever built is on a list with its type (`Typed`), which only grows; a
  construction that waits, and an object that is live, name a parent that is on this list with the
  kind that the type demands (`Sound`). `grows_begin` and `grows_resume?`: every stage of a call
  only adds to the list, and what it leaves waiting is sound.
-/

namespace MediaPlane

namespace ControlPlane

variable {cp mid next : ControlPlane} {s : SessionId}

/-! ## Steps that build nothing -/

/-- Nothing is built and no object comes; those that stay keep their name, type and parent. -/
structure Kept (cp next : ControlPlane) : Prop where
  constructed_eq : next.journal.constructed = cp.journal.constructed
  origin : ∀ {x o}, next.registry.find? x = some o →
    ∃ o', cp.registry.find? x = some o' ∧ o'.id = o.id ∧ o'.type = o.type ∧ o'.parent = o.parent

theorem Kept.trans (h : Kept cp mid) (h' : Kept mid next) : Kept cp next where
  constructed_eq := h'.constructed_eq.trans h.constructed_eq
  origin := by
    intro x o ho
    obtain ⟨o', ho', hid', htype', hparent'⟩ := h'.origin ho
    obtain ⟨o'', ho'', hid, htype, hparent⟩ := h.origin ho'
    exact ⟨o'', ho'', hid.trans hid', htype.trans htype', hparent.trans hparent'⟩

theorem kept_of_fewer (hj : next.journal.constructed = cp.journal.constructed)
    (hr : Registry.Fewer cp.registry next.registry) : Kept cp next :=
  ⟨hj, fun ho => ⟨_, hr _ _ ho, rfl, rfl, rfl⟩⟩

theorem kept_of_registry (hj : next.journal.constructed = cp.journal.constructed)
    (hr : next.registry = cp.registry) : Kept cp next :=
  kept_of_fewer hj (hr ▸ Registry.Fewer.refl cp.registry)

theorem Kept.refl (cp : ControlPlane) : Kept cp cp := kept_of_registry rfl rfl

theorem Wanes.kept (h : Wanes cp next) : Kept cp next := by
  obtain ⟨built, released, hj⟩ := h.journal_eq
  exact kept_of_fewer (by rw [hj]) h.fewer

theorem kept_annotate (cp : ControlPlane) (x : ObjectId) (f : MediaObject → MediaObject)
    (hf : ∀ o, (f o).type = o.type) : Kept cp (cp.annotate x f) where
  constructed_eq := rfl
  origin := by
    intro k o ho
    have hupdated : (cp.registry.update x f).find? k = some o := ho
    rw [Registry.find?_update] at hupdated
    split at hupdated
    · next hk =>
      subst hk
      obtain ⟨o', ho', rfl⟩ := Option.map_eq_some_iff.mp hupdated
      exact ⟨o', ho', rfl, (hf o').symm, rfl⟩
    · exact ⟨o, hupdated, rfl, rfl, rfl⟩

theorem kept_setElement (cp : ControlPlane) (x : ObjectId) (element : Element) :
    Kept cp (cp.setElement x element) := kept_annotate cp x _ fun _ => rfl

theorem kept_setElement_raise (cp : ControlPlane) (x : ObjectId) (element : Element) (e : Event) :
    Kept cp ((cp.setElement x element).raise e).2 :=
  (kept_setElement cp x element).trans (kept_of_registry rfl rfl)

/-! ## Operations that build nothing -/

/-- Names and tags can be changed, and no type. -/
theorem kept_builtin? {o : MediaObject} {operation : String} {params value : Value}
    (h : cp.builtin? o operation params = some (.ok (value, next))) : Kept cp next := by
  rcases builtin?_ok h with rfl | ⟨f, rfl, hf⟩
  · exact Kept.refl next
  · exact kept_annotate cp o.id f fun o => (hf o).1

theorem kept_invokeLoopback {o : MediaObject} {properties : Members} {sinks : List ObjectId}
    {operation : String} {params value : Value}
    (h : cp.invokeLoopback o properties sinks operation params = .ok (value, next)) :
    Kept cp next := by
  unfold invokeLoopback at h
  split at h
  · split at h
    · cases h
    · cases h
      unfold connectSink
      simp only
      split
      · exact kept_setElement cp _ _
      · exact kept_setElement_raise cp _ _ _
  · split at h
    · cases h
    · cases h
      unfold disconnectSink
      split
      · exact kept_setElement_raise cp _ _ _
      · exact Kept.refl cp
  · cases h
    exact kept_setElement cp _ _
  · split at h
    · cases h
    · cases h
      exact kept_setElement cp _ _
  · split at h
    · cases h
    · cases h
      exact Kept.refl cp
  · cases h
    exact Kept.refl cp
  · cases h

theorem kept_invokeMock (cp : ControlPlane) (o : MediaObject) (operation : String)
    (params : Value) : Kept cp (cp.invokeMock o operation params).2 := by
  unfold invokeMock
  simp only
  split
  · exact kept_of_registry rfl rfl
  · exact kept_of_registry rfl rfl
  · exact kept_of_registry rfl rfl
  · split <;> exact kept_of_registry rfl rfl
  · exact kept_of_registry rfl rfl

theorem kept_invokeElement (cp : ControlPlane) (o : MediaObject) (operation : String)
    (params : Value) : Kept cp (cp.invokeElement o operation params).2 := by
  unfold invokeElement
  split
  · exact kept_invokeMock cp o operation params
  · split
    · exact Kept.refl cp
    · next heq => exact kept_invokeLoopback heq

/-! ## What was built, and of which type -/

/-- The objects that were ever built, each with its type. -/
abbrev Made := List (ObjectId × ObjectType)

/-- A parent that the placement of a type allows: none for a root, and else something that was
built with the kind that the type demands. -/
def Placed (made : Made) (t : ObjectType) (parent : Option ObjectId) : Prop :=
  match t.placement with
  | .root => parent = none
  | .under _ kind => ∃ p type, parent = some p ∧ (p, type) ∈ made ∧ type.kind = kind

/-- An object was built with this type, and for a parent that its type allows. -/
structure Sound (made : Made) (x : ObjectId) (t : ObjectType) (parent : Option ObjectId) :
    Prop where
  mem : (x, t) ∈ made
  placed : Placed made t parent

/-- The list is that of all constructions, and every live object is sound. -/
structure Typed (made : Made) (cp : ControlPlane) : Prop where
  constructed_eq : made.map (·.1) = cp.journal.constructed
  sound : ∀ {x o}, cp.registry.find? x = some o → o.id = x ∧ Sound made x o.type o.parent

variable {made more : Made} {x : ObjectId} {t : ObjectType} {parent : Option ObjectId}
  {c : Construction}

theorem Placed.append (h : Placed made t parent) (more : Made) :
    Placed (made ++ more) t parent := by
  unfold Placed at h ⊢
  split
  · next heq =>
    rw [heq] at h
    exact h
  · next param kind heq =>
    rw [heq] at h
    obtain ⟨p, type, hp, hmem, hkind⟩ := h
    exact ⟨p, type, hp, List.mem_append_left more hmem, hkind⟩

theorem Sound.append (h : Sound made x t parent) (more : Made) : Sound (made ++ more) x t parent :=
  ⟨List.mem_append_left more h.mem, h.placed.append more⟩

theorem Typed.kept (h : Typed made cp) (hk : Kept cp next) : Typed made next where
  constructed_eq := h.constructed_eq.trans hk.constructed_eq.symm
  sound := by
    intro x o ho
    obtain ⟨o', ho', hid, htype, hparent⟩ := hk.origin ho
    rw [← hid, ← htype, ← hparent]
    exact h.sound ho'

/-- The parent that a creation finds is live, so it was built, with the kind that it has. -/
theorem Typed.placed_of_parentFor (h : Typed made cp) {params : Value}
    (hp : cp.parentFor t params = .ok parent) : Placed made t parent := by
  unfold Placed
  rcases parentFor_ok hp with ⟨hplace, hnone⟩ | ⟨param, kind, x, o, hplace, ho, hkind, hsome⟩
  · rw [hplace]
    exact hnone
  · rw [hplace]
    obtain ⟨hid, hsound⟩ := h.sound ho
    exact ⟨o.id, o.type, hsome, hid.symm ▸ hsound.mem, hkind⟩

/-- A construction that begins adds its object to the list, and is sound from then on. -/
theorem Typed.begins (h : Typed made cp) (hb : cp.Begins c next)
    (hplaced : Placed made c.type c.parent) :
    Typed (made ++ [(c.id, c.type)]) next ∧
      Sound (made ++ [(c.id, c.type)]) c.id c.type c.parent := by
  have hregistry : next.registry = cp.registry := congrArg Holdings.registry hb.holdings_eq
  have hconstructed : next.journal.constructed = cp.journal.constructed ++ [c.id] := by
    obtain ⟨mock, rfl⟩ := hb.eq
    rfl
  refine ⟨⟨?_, fun ho => ?_⟩, List.mem_append_right made (List.mem_singleton.mpr rfl),
    hplaced.append _⟩
  · rw [hconstructed, ← h.constructed_eq, List.map_append]
    rfl
  · rw [hregistry] at ho
    obtain ⟨hid, hsound⟩ := h.sound ho
    exact ⟨hid, hsound.append _⟩

/-- What is registered has the type and the parent with which it was built. -/
theorem Typed.register (h : Typed made cp) (s : SessionId) (hc : Sound made c.id c.type c.parent) :
    Typed made (cp.register s c).2 := by
  unfold ControlPlane.register
  split
  · exact ⟨h.constructed_eq, h.sound⟩
  · next r hp =>
    refine ⟨h.constructed_eq, fun {x o} ho => ?_⟩
    have ho : r.find? x = some o := ho
    rw [Registry.find?_put hp] at ho
    split at ho
    · next hx =>
      cases ho
      subst hx
      exact ⟨rfl, hc⟩
    · exact h.sound ho

end ControlPlane

/-- A construction that waits is sound. -/
def Wait.Sound (made : ControlPlane.Made) : Wait → Prop
  | construction c _ => ControlPlane.Sound made c.id c.type c.parent
  | answer .. => True

/-- What a call waits for, unless it repeats another one. -/
def Pending.wait? : Pending → Option Wait
  | duplicate .. => none
  | running _ wait _ => some wait

def Progress.wait? : Progress → Option Wait
  | finished _ => none
  | suspended pending => pending.wait?

theorem Wait.Sound.append {made : ControlPlane.Made} {w : Wait} (h : w.Sound made)
    (more : ControlPlane.Made) : w.Sound (made ++ more) := by
  cases w with
  | construction c ready => exact ControlPlane.Sound.append h more
  | answer value ready => trivial

namespace ControlPlane

variable {cp mid next : ControlPlane} {s : SessionId} {made : Made} {w : Option Wait}

/-! ## Stretches of a call -/

/-- More may have been built; every object is sound still, and so is what is waited for. -/
def Grows (cp : ControlPlane) (w : Option Wait) (next : ControlPlane) : Prop :=
  ∀ made, Typed made cp →
    ∃ more, Typed (made ++ more) next ∧ ∀ wait, w = some wait → wait.Sound (made ++ more)

theorem Kept.grows (h : Kept cp next) (hw : ∀ wait, w = some wait → ∀ made, wait.Sound made) :
    Grows cp w next := by
  intro made ht
  refine ⟨[], ?_, fun wait heq => hw wait heq _⟩
  rw [List.append_nil]
  exact ht.kept h

theorem Kept.grows_none (h : Kept cp next) : Grows cp none next := h.grows fun _ heq => by cases heq

theorem Grows.refl (cp : ControlPlane) : Grows cp none cp := (Kept.refl cp).grows_none

theorem Grows.trans (h : Grows cp none mid) (h' : Grows mid w next) : Grows cp w next := by
  intro made ht
  obtain ⟨more, hmid, -⟩ := h made ht
  obtain ⟨more', hnext, hw⟩ := h' _ hmid
  rw [List.append_assoc] at hnext hw
  exact ⟨more ++ more', hnext, hw⟩

theorem Kept.before (h : Kept cp mid) (h' : Grows mid w next) : Grows cp w next :=
  h.grows_none.trans h'

theorem grows_createUnder {entry : CatalogEntry} {parent : Option ObjectId} {params : Value}
    (hp : cp.parentFor entry.type params = .ok parent) (s : SessionId) :
    Grows cp (cp.createUnder s entry parent params).1.wait?
      (cp.createUnder s entry parent params).2 := by
  have hcreates := createsUnder cp s entry parent params
  generalize cp.createUnder s entry parent params = r at hcreates ⊢
  obtain ⟨outcome, next⟩ := r
  cases hcreates with
  | unbuilt fault => exact Kept.grows_none (kept_of_registry rfl rfl)
  | built hb htype hparent =>
    intro made ht
    rw [← htype, ← hparent] at hp
    obtain ⟨hmid, hsound⟩ := ht.begins hb (ht.placed_of_parentFor hp)
    exact ⟨_, hmid.register s hsound, fun wait heq => by cases heq⟩
  | begun hb htype hparent ready =>
    intro made ht
    rw [← htype, ← hparent] at hp
    obtain ⟨hmid, hsound⟩ := ht.begins hb (ht.placed_of_parentFor hp)
    exact ⟨_, hmid, fun wait heq => by cases heq; exact hsound⟩

theorem grows_create (cp : ControlPlane) (s : SessionId) (typeName : String) (params : Value) :
    Grows cp (cp.create s typeName params).1.wait? (cp.create s typeName params).2 := by
  unfold create
  split
  · exact Kept.grows_none (kept_of_registry rfl rfl)
  · split
    · exact Grows.refl cp
    · split
      · exact Grows.refl cp
      · next hp => exact grows_createUnder hp s

theorem kept_invoke (cp : ControlPlane) (s : SessionId) (object : ObjectId) (operation : String)
    (params : Value) : Kept cp (cp.invoke s object operation params).2 := by
  unfold invoke
  split
  · exact Kept.refl cp
  · next o mid ht =>
    refine (wanes_touch ht).kept.trans ?_
    split
    · exact Kept.refl mid
    · next heq => exact kept_builtin? heq
    · have he := kept_invokeElement mid o operation params
      split
      · next heq =>
        rw [heq] at he
        exact he
      · next heq =>
        rw [heq] at he
        exact he
      · next heq =>
        rw [heq] at he
        exact he

theorem kept_execute (cp : ControlPlane) (s : SessionId) {op : Operation}
    (hc : op.method ≠ .create) : Kept cp (cp.execute s op).2 := by
  by_cases hi : op.method = .invoke
  · cases op with
    | invoke object operation params => exact kept_invoke cp s object operation params
    | _ => cases hi
  · exact (wanes_execute cp s hc hi).kept

theorem grows_execute (cp : ControlPlane) (s : SessionId) (op : Operation) :
    Grows cp (cp.execute s op).1.wait? (cp.execute s op).2 := by
  by_cases hc : op.method = .create
  · cases op with
    | create typeName params => exact grows_create cp s typeName params
    | _ => cases hc
  · refine (kept_execute cp s hc).grows fun wait hw made => ?_
    cases wait with
    | construction c ready => exact absurd hw (wait?_execute hc cp s c ready)
    | answer => trivial

theorem grows_runEntries (cp : ControlPlane) (s : SessionId) (slots : Slots)
    (results entries : List Value) :
    Grows cp (cp.runEntries s slots results entries).1.wait?
      (cp.runEntries s slots results entries).2 := by
  induction entries generalizing cp slots results with
  | nil => exact Grows.refl cp
  | cons entry rest ih =>
    unfold runEntries
    split
    · exact ih cp slots _
    · next method params _ =>
      have he : Grows cp (cp.executeEntry s slots method params).1.wait?
          (cp.executeEntry s slots method params).2 := by
        unfold executeEntry
        split
        · exact Grows.refl cp
        · exact grows_execute cp s _
      split
      · next heq =>
        rw [heq] at he
        exact he
      · next heq =>
        rw [heq] at he
        exact Grows.trans he (ih _ _ _)

/-! ## Stages of a call -/

theorem Grows.respond (h : Grows cp none mid) (caller : Caller) (result : Except Failure Value) :
    Grows cp (mid.respond caller result).1.wait? (mid.respond caller result).2 :=
  h.trans (wanes_respond mid caller result).kept.grows_none

theorem Grows.proceed {outcome : Outcome} (h : Grows cp outcome.wait? mid) (caller : Caller) :
    Grows cp (mid.proceed caller outcome).1.wait? (mid.proceed caller outcome).2 := by
  cases outcome with
  | settled result =>
    have hleft : Kept mid (mid.leave caller.session) := kept_of_registry rfl rfl
    exact (Grows.trans h hleft.grows_none).respond caller result
  | waiting w => exact h

theorem Grows.proceedBatch {outcome : BatchOutcome} (h : Grows cp outcome.wait? mid)
    (caller : Caller) :
    Grows cp (mid.proceedBatch caller outcome).1.wait? (mid.proceedBatch caller outcome).2 := by
  cases outcome with
  | completed results =>
    have hleft : Kept mid (mid.leave caller.session) := kept_of_registry rfl rfl
    exact (Grows.trans h hleft.grows_none).respond caller _
  | waiting w batch => exact h

theorem grows_perform (cp : ControlPlane) (caller : Caller) (op : Operation) :
    Grows cp (cp.perform caller op).1.wait? (cp.perform caller op).2 := by
  have henter := (wanes_enter cp caller.session).kept
  cases op with
  | ping => exact (Grows.refl cp).respond caller _
  | keepAlive =>
    unfold perform
    simp only
    split
    · exact (Grows.refl cp).respond caller _
    · next heq => exact (wanes_keepAlive heq).kept.grows_none.respond caller _
  | connect => exact (wanes_connect cp caller.session).kept.grows_none.respond caller _
  | closeSession forced =>
    unfold perform
    simp only
    split
    · exact (Grows.refl cp).respond caller _
    · next heq => exact (wanes_closeSession heq).kept.grows_none.respond caller _
  | transaction entries =>
    exact (henter.before (grows_runEntries _ _ [] [] entries)).proceedBatch caller
  | create | invoke | ref | unref | release | describe | subscribe | unsubscribe =>
    rw [perform_of_inTransaction cp caller rfl]
    exact (henter.before (grows_execute _ _ _)).proceed caller

theorem grows_start (cp : ControlPlane) (r : Request) (guard : Option Guard) :
    Grows cp (cp.start r guard).1.wait? (cp.start r guard).2 := by
  have hsession : Kept cp (cp.sessionFor r.session).2 := by
    cases r.session <;> exact kept_of_registry rfl rfl
  unfold start
  refine hsession.before ?_
  simp only
  split
  · exact (Grows.refl _).respond _ _
  · exact grows_perform _ _ _

/-- A request arrives. -/
theorem grows_begin (cp : ControlPlane) (r : Request) :
    Grows cp (cp.begin r).1.wait? (cp.begin r).2 := by
  have hreplayed : Kept cp { cp with metrics := cp.metrics.countReplay } := kept_of_registry rfl rfl
  unfold begin
  split
  · simp only
    split
    · next guard cache _ =>
      have hcached : Kept cp { cp with cache } := kept_of_registry rfl rfl
      exact hcached.before (grows_start _ r (some guard))
    · exact hreplayed.grows_none
    · exact hreplayed.grows_none
  · exact grows_start cp r none

/-- A wait that is over has its object registered as it was built. -/
theorem Typed.finishWait (h : Typed made cp) (s : SessionId) {wait : Wait} (hw : wait.Sound made) :
    Typed made (cp.finishWait s wait).2 := by
  cases wait with
  | construction c ready => exact h.register s hw
  | answer value ready => exact h

/-- A call that waits goes on. -/
theorem grows_resume? {tick : Nat} {p : Pending} {r : Progress × ControlPlane}
    (hr : cp.resume? tick p = some r) (h : Typed made cp)
    (hp : ∀ wait, p.wait? = some wait → wait.Sound made) :
    ∃ more, Typed (made ++ more) r.2 ∧
      ∀ wait, r.1.wait? = some wait → wait.Sound (made ++ more) := by
  cases p with
  | duplicate key ticket =>
    obtain ⟨response, -, rfl⟩ := Option.map_eq_some_iff.mp hr
    exact Grows.refl cp made h
  | running caller wait batch =>
    have hfinished := h.finishWait caller.session (hp wait rfl)
    have hgrows : (cp.finishWait caller.session wait).2.Grows r.1.wait? r.2 := by
      unfold resume? at hr
      simp only at hr
      split at hr
      · cases hr
      · cases batch with
        | none =>
          cases hr
          exact Grows.proceed (Grows.refl _) caller
        | some b =>
          cases hr
          exact (grows_runEntries _ _ _ _ _).proceedBatch caller
    exact hgrows made hfinished

end ControlPlane

end MediaPlane
