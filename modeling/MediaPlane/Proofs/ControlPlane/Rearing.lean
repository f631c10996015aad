import MediaPlane.Proofs.ControlPlane.Custody
import MediaPlane.Proofs.ControlPlane.Performance
import MediaPlane.Proofs.ControlPlane.Sparing

/-
  How objects come to be. A construction begins, with a name that was drawn for it and below a live
  parent; it waits, while others begin and end and objects go; and it ends in the registry, or it is
  given up, or its object is turned away. Everything else is barren: no element is built, nothing
  enters the registry, and what stays keeps its parent (`Barren`). `Rears` chains these steps and
  keeps track of the constructions under way. `Passes.rears`: what a call does until it is answered
  or has to wait is such a chain, and its performances are steps on the way (`Passes.performed`).
-/

namespace MediaPlane

namespace ControlPlane

variable {cp mid next : ControlPlane} {s : SessionId} {P : Leeway} {tacit : Prop} {n : Nat}
  {building during after : List Construction} {c : Construction} {ps : List Performance}

/-! ## Barren steps -/

/-- Nothing comes to be: no element is built, no object enters the registry, and those that stay
there keep their parents. -/
structure Barren (cp next : ControlPlane) : Prop where
  onward : cp.names.Onward next.names
  constructed_eq : next.journal.constructed = cp.journal.constructed
  registered_eq : next.journal.registered = cp.journal.registered
  adopted_eq : next.journal.adopted = cp.journal.adopted
  contains_of_contains : ∀ {x}, next.registry.contains x = true → cp.registry.contains x = true
  parentOf_of_parentOf : ∀ {x p}, next.registry.parentOf x = some p →
    cp.registry.parentOf x = some p

namespace Barren

theorem refl (cp : ControlPlane) : Barren cp cp :=
  ⟨⟨rfl, Nat.le_refl _⟩, rfl, rfl, rfl, id, id⟩

theorem trans (h : Barren cp mid) (h' : Barren mid next) : Barren cp next where
  onward := h.onward.trans h'.onward
  constructed_eq := h'.constructed_eq.trans h.constructed_eq
  registered_eq := h'.registered_eq.trans h.registered_eq
  adopted_eq := h'.adopted_eq.trans h.adopted_eq
  contains_of_contains := fun hx => h.contains_of_contains (h'.contains_of_contains hx)
  parentOf_of_parentOf := fun hp => h.parentOf_of_parentOf (h'.parentOf_of_parentOf hp)

/-- Registry and journal stay, and at most names are drawn. -/
theorem of_eq (ho : cp.names.Onward next.names) (hr : next.registry = cp.registry)
    (hj : next.journal = cp.journal) : Barren cp next where
  onward := ho
  constructed_eq := by rw [hj]
  registered_eq := by rw [hj]
  adopted_eq := by rw [hj]
  contains_of_contains := by rw [hr]; exact id
  parentOf_of_parentOf := by rw [hr]; exact id

/-- Objects go, and their elements are released. -/
theorem of_cut {gone : List MediaObject} {released : List ObjectId}
    (ho : cp.names.Onward next.names) (hc : Registry.Cut cp.registry gone next.registry)
    (hj : next.journal = cp.journal.afterRelease released) : Barren cp next where
  onward := ho
  constructed_eq := by rw [hj]; rfl
  registered_eq := by rw [hj]; rfl
  adopted_eq := by rw [hj]; rfl
  contains_of_contains := fun hx => (hc.contains_iff.mp hx).1
  parentOf_of_parentOf := by
    intro x p hp
    rw [hc.parentOf_eq] at hp
    split at hp
    · cases hp
    · exact hp

end Barren

theorem barren_enter (cp : ControlPlane) (s : SessionId) : Barren cp (cp.enter s) := by
  obtain ⟨metrics, heq⟩ := enter_eq cp s
  rw [heq]
  exact .of_eq ⟨rfl, Nat.le_refl _⟩ rfl rfl

theorem barren_connect (cp : ControlPlane) (s : SessionId) : Barren cp (cp.connect s) := by
  obtain ⟨metrics, heq⟩ := connect_eq cp s
  rw [heq]
  exact .of_eq ⟨rfl, Nat.le_refl _⟩ rfl rfl

theorem barren_keepAlive (h : cp.keepAlive s = .ok next) : Barren cp next := by
  rw [keepAlive_ok h]
  exact .of_eq ⟨rfl, Nat.le_refl _⟩ rfl rfl

theorem barren_raise (cp : ControlPlane) (e : Event) : Barren cp (cp.raise e).2 :=
  ⟨⟨rfl, Nat.le_refl _⟩, rfl, rfl, rfl, id, id⟩

theorem barren_closedBy (hs : cp.holdings.Settled) {kind : CloseKind} {closure : Closure}
    {holdings : Holdings} (hc : cp.holdings.close s kind = .ok (some (closure, holdings))) :
    Barren cp (cp.closedBy s closure holdings) := by
  have honward : cp.names.Onward (cp.closedBy s closure holdings).names :=
    ((((steady_holdings cp holdings).trans (steady_dropSubscriptions _ s)).trans
      (steady_teardown _ _ _)).trans (steady_teardown _ _ _)).onward
  exact .of_cut honward (cut_closedBy hs hc) (journal_closedBy cp s closure holdings)

theorem barren_closeSession (hs : cp.holdings.Settled) {forced : Bool} {n : Nat}
    (h : cp.closeSession s forced = .ok (n, next)) : Barren cp next := by
  obtain ⟨closure, holdings, hc, -, rfl⟩ := closeSession_ok h
  exact (barren_closedBy hs hc).trans (.of_eq ⟨rfl, Nat.le_refl _⟩ rfl rfl)

theorem Move.barren (h : Move s P tacit cp next) (hs : cp.holdings.Settled) : Barren cp next := by
  cases h with
  | mock | touch | unsubscribe => exact .of_eq ⟨rfl, Nat.le_refl _⟩ rfl rfl
  | built receiver =>
    cases receiver with
    | named => exact ⟨⟨rfl, Nat.le_refl _⟩, rfl, rfl, rfl, id, id⟩
    | silent => exact .refl cp
  | enter => exact barren_enter cp s
  | annotate x f =>
    refine ⟨⟨rfl, Nat.le_refl _⟩, rfl, rfl, rfl, fun {k} hk => ?_, fun {k p} hp => ?_⟩
    · exact (Registry.contains_update cp.registry x k f).symm.trans hk
    · exact (Registry.parentOf_update cp.registry x k f).symm.trans hp
  | raise e => exact barren_raise cp e
  | dropReferences ids reason =>
    exact .of_cut (steady_dropReferences cp s ids reason).onward
      (cut_dropReferences hs s ids reason) (journal_teardown _ reason _)
  | subscribe key receiver =>
    exact .of_eq (steady_subscribeUnder cp s key receiver).onward
      (congrArg Holdings.registry (holdings_subscribeUnder cp s key receiver))
      (journal_subscribeUnder cp s key receiver)
  | close _ h => exact barren_closeSession hs h

theorem Moves.barren (h : Moves s P tacit cp n next) (hs : cp.holdings.Settled) :
    Barren cp next := by
  induction h with
  | refl => exact .refl cp
  | tail h hm ih | aside _ h hm ih =>
    exact ih.trans (hm.barren (lasting_settled.changes h.changes hs))
  | answered _ _ result ih => exact ih.trans (.of_eq ⟨rfl, Nat.le_refl _⟩ rfl rfl)

/-! ## Creations -/

/-- How a creation ends, as far as the new object is concerned. -/
inductive Conceives (s : SessionId) (cp : ControlPlane) : Outcome → ControlPlane → Prop where
  | failed {e : Failure} {next : ControlPlane} (he : e.code ≠ .internalError)
      (h : Barren cp next) : Conceives s cp (.settled (.error e)) next
  | built {c : Construction} {mid : ControlPlane} (hb : cp.Begins c mid)
      (hp : ∀ p ∈ c.parent, cp.registry.contains p = true) :
      Conceives s cp (.settled (mid.register s c).1) (mid.register s c).2
  | begun {c : Construction} {next : ControlPlane} (hb : cp.Begins c next)
      (hp : ∀ p ∈ c.parent, cp.registry.contains p = true) (ready : Nat) :
      Conceives s cp (.waiting (.construction c ready)) next

/-- The parent that constructor parameters name is a live object. -/
theorem live_of_parentFor (hs : cp.holdings.Settled) {type : ObjectType} {params : Value}
    {parent : Option ObjectId} (h : cp.parentFor type params = .ok parent) :
    ∀ p ∈ parent, cp.registry.contains p = true := by
  rcases parentFor_ok h with ⟨-, rfl⟩ | ⟨param, kind, x, o, -, ho, -, rfl⟩
  · exact nofun
  · rintro p ⟨⟩
    rw [hs.forest.id_eq ho]
    exact Registry.contains_iff.mpr ⟨o, ho⟩

theorem CreatesUnder.conceives {type : ObjectType} {parent : Option ObjectId} {outcome : Outcome}
    (hu : CreatesUnder s type parent cp outcome next)
    (hlive : ∀ p ∈ parent, cp.registry.contains p = true) : Conceives s cp outcome next := by
  cases hu with
  | unbuilt => exact .failed nofun (.of_eq (steady_drawName cp).onward rfl rfl)
  | built hb _ hp => exact .built hb (hp ▸ hlive)
  | begun hb _ hp ready => exact .begun hb (hp ▸ hlive) ready

theorem conceives (hs : cp.holdings.Settled) (s : SessionId) (typeName : String) (params : Value) :
    Conceives s cp (cp.create s typeName params).1 (cp.create s typeName params).2 := by
  unfold create AdmissionControl.check
  split
  · next e hcheck =>
    split at hcheck <;> cases hcheck
    exact .failed nofun (.of_eq ⟨rfl, Nat.le_refl _⟩ rfl rfl)
  · split
    · next e hfind =>
      unfold Catalog.find at hfind
      split at hfind <;> cases hfind
      exact .failed nofun (.refl cp)
    · split
      · next hparent =>
        refine .failed ?_ (.refl cp)
        rcases code_of_parentFor hparent with hcode | hcode <;> rw [hcode] <;> exact nofun
      · next parent hparent =>
        exact (createsUnder cp s _ parent params).conceives (live_of_parentFor hs hparent)

/-! ## The end of a construction -/

/-- The object of a construction enters the registry. -/
structure Enters (c : Construction) (cp next : ControlPlane) : Prop where
  names_eq : next.names = cp.names
  constructed_eq : next.journal.constructed = cp.journal.constructed
  registered_eq : next.journal.registered = cp.journal.registered ++ [c.id]
  adopted_eq : next.journal.adopted = cp.journal.adopted ++ c.parent.toList.map (c.id, ·)
  contains_iff : ∀ {x}, next.registry.contains x = true ↔ c.id = x ∨ cp.registry.contains x = true
  parentOf_eq : ∀ x,
    next.registry.parentOf x = if c.id = x then c.parent else cp.registry.parentOf x

/-- The object is registered, or its element is released and nothing comes to be. -/
theorem register_enters (cp : ControlPlane) (s : SessionId) (c : Construction) :
    Enters c cp (cp.register s c).2 ∨ Barren cp (cp.register s c).2 := by
  unfold register
  split
  · exact Or.inr ⟨⟨rfl, Nat.le_refl _⟩, rfl, rfl, rfl, id, id⟩
  · next hput =>
    exact Or.inl ⟨rfl, rfl, rfl, rfl, fun {x} => Registry.contains_put hput x,
      Registry.parentOf_put hput⟩

/-! ## Chains of steps -/

/-- What happens to objects while some are under construction. -/
inductive Rears (cp : ControlPlane) (building : List Construction) :
    ControlPlane → List Construction → Prop where
  | refl : Rears cp building cp building
  | barren {mid next : ControlPlane} {during : List Construction}
      (h : Rears cp building mid during) (hb : Barren mid next) : Rears cp building next during
  /-- A construction begins below a live parent, or of a root. -/
  | begins {mid next : ControlPlane} {during : List Construction} {c : Construction}
      (h : Rears cp building mid during) (hb : mid.Begins c next)
      (hp : ∀ p ∈ c.parent, mid.registry.contains p = true) :
      Rears cp building next (c :: during)
  | register {mid : ControlPlane} {during : List Construction} {c : Construction}
      (h : Rears cp building mid (c :: during)) (s : SessionId) :
      Rears cp building (mid.register s c).2 during
  /-- Constructions are given up, or are looked at in another order. -/
  | giveUp {next : ControlPlane} {during after : List Construction}
      (h : Rears cp building next during) (hsub : after.Subperm during) :
      Rears cp building next after

theorem Rears.trans (h : Rears cp building mid during) (h' : Rears mid during next after) :
    Rears cp building next after := by
  induction h' with
  | refl => exact h
  | barren _ hb ih => exact ih.barren hb
  | begins _ hb hp ih => exact ih.begins hb hp
  | register _ s ih => exact ih.register s
  | giveUp _ hsub ih => exact ih.giveUp hsub

theorem Barren.rears (h : Barren cp next) (building : List Construction) :
    Rears cp building next building := Rears.refl.barren h

theorem rears_of_eq (ho : cp.names.Onward next.names) (hr : next.registry = cp.registry)
    (hj : next.journal = cp.journal) : Rears cp building next building :=
  (Barren.of_eq ho hr hj).rears building

theorem Rears.onward (h : Rears cp building next after) : cp.names.Onward next.names := by
  induction h with
  | refl => exact ⟨rfl, Nat.le_refl _⟩
  | barren _ hb ih => exact ih.trans hb.onward
  | begins _ hb _ ih => exact ih.trans hb.steady.onward
  | register _ s ih => exact ih.trans (steady_register _ s _).onward
  | giveUp _ _ ih => exact ih

end ControlPlane

/-! ## Operations -/

/-- The construction that a wait is for. -/
def Wait.constructions : Wait → List Construction
  | construction c _ => [c]
  | answer .. => []

def Outcome.constructions : Outcome → List Construction
  | settled _ => []
  | waiting w => w.constructions

def Pending.constructions : Pending → List Construction
  | duplicate .. => []
  | running _ wait _ => wait.constructions

def Progress.constructions : Progress → List Construction
  | finished _ => []
  | suspended pending => pending.constructions

namespace ControlPlane

theorem Conceives.rears {outcome : Outcome} (h : Conceives s cp outcome next)
    (building : List Construction) :
    Rears cp building next (outcome.constructions ++ building) := by
  cases h with
  | failed _ h => exact h.rears building
  | built hb hp => exact (Rears.refl.begins hb hp).register s
  | begun hb hp => exact Rears.refl.begins hb hp

theorem constructions_of_wait? {outcome : Outcome}
    (h : ∀ c ready, outcome.wait? ≠ some (.construction c ready)) :
    outcome.constructions = [] := by
  cases outcome with
  | settled => rfl
  | waiting w =>
    cases w with
    | construction c ready => exact absurd rfl (h c ready)
    | answer => rfl

theorem rears_execute (hs : cp.holdings.Settled) {op : Operation} {outcome : Outcome}
    (h : cp.execute s op = (outcome, next)) (building : List Construction) :
    Rears cp building next (outcome.constructions ++ building) := by
  by_cases hop : op.method = .create
  · cases op with
    | create typeName params =>
      have hc := conceives hs s typeName params
      have h : cp.create s typeName params = (outcome, next) := h
      rw [h] at hc
      exact hc.rears building
    | _ => cases hop
  · have hmoves : Moves s Leeway.full True cp _ (cp.execute s op).2 :=
      moves_execute cp.dispatcher.within_full (Or.inl trivial) hop
    have hwait := wait?_execute hop cp s
    rw [h] at hmoves hwait
    rw [constructions_of_wait? hwait]
    exact (hmoves.barren hs).rears building

/-! ## Calls -/

theorem Act.rears (h : Act cp ps n next) (hs : cp.holdings.Settled)
    (building : List Construction) : Rears cp building next building := by
  cases h with
  | draw => exact rears_of_eq (steady_drawName cp).onward rfl rfl
  | enter s => exact (barren_enter cp s).rears building
  | keepAlive h => exact (barren_keepAlive h).rears building
  | connect s => exact (barren_connect cp s).rears building
  | close h => exact (barren_closeSession hs h).rears building
  | perform h => exact rears_execute hs h building
  | leave | cache | count | replay => exact rears_of_eq ⟨rfl, Nat.le_refl _⟩ rfl rfl

theorem Acts.rears (h : Acts cp ps n next) (hs : cp.holdings.Settled)
    (building : List Construction) : Rears cp building next building := by
  induction h with
  | refl => exact .refl
  | tail h ha ih => exact ih.trans (ha.rears (lasting_settled.acts h hs) building)

theorem Passes.rears {progress : Progress} (h : Passes cp ps progress next)
    (hs : cp.holdings.Settled) (building : List Construction) :
    Rears cp building next (progress.constructions ++ building) := by
  cases h with
  | finished ha | repeated ha => exact ha.rears hs building
  | suspended ha caller batch hw =>
    exact (ha.rears hs building).trans (rears_execute (lasting_settled.acts ha hs) hw building)

theorem rears_finishWait (cp : ControlPlane) (s : SessionId) (w : Wait)
    (building : List Construction) :
    Rears cp (w.constructions ++ building) (cp.finishWait s w).2 building := by
  cases w with
  | construction c ready => exact Rears.refl.register s
  | answer value ready => exact .refl

theorem onward_of_execute {op : Operation} {outcome : Outcome}
    (h : cp.execute s op = (outcome, next)) :
    (Performance.next ⟨cp, s, op⟩).names.Onward next.names := by
  have hnext : Performance.next ⟨cp, s, op⟩ = next := congrArg Prod.snd h
  rw [hnext]
  exact ⟨rfl, Nat.le_refl _⟩

/-- Performances are steps on the way. -/
theorem Acts.performed (h : Acts cp ps n next) (hs : cp.holdings.Settled)
    (building : List Construction) :
    ∀ p ∈ ps, Rears cp building p.plane building ∧ p.next.names.Onward next.names := by
  induction h with
  | refl => exact fun p hp => by cases hp
  | tail h ha ih =>
    intro p hp
    rcases List.mem_append.mp hp with hp | hp
    · obtain ⟨hrears, honward⟩ := ih p hp
      have hlast := ha.rears (lasting_settled.acts h hs) building
      exact ⟨hrears, honward.trans hlast.onward⟩
    · cases ha with
      | perform hop =>
        rw [List.mem_singleton.mp hp]
        exact ⟨h.rears hs building, onward_of_execute hop⟩
      | _ => cases hp

theorem Passes.performed {progress : Progress} (h : Passes cp ps progress next)
    (hs : cp.holdings.Settled) (building : List Construction) :
    ∀ p ∈ ps, Rears cp building p.plane building ∧ p.next.names.Onward next.names := by
  cases h with
  | finished ha | repeated ha => exact ha.performed hs building
  | suspended ha caller batch hw =>
    intro p hp
    rcases List.mem_append.mp hp with hp | hp
    · obtain ⟨hrears, honward⟩ := ha.performed hs building p hp
      have hlast := rears_execute (lasting_settled.acts ha hs) hw building
      exact ⟨hrears, honward.trans hlast.onward⟩
    · rw [List.mem_singleton.mp hp]
      exact ⟨ha.rears hs building, onward_of_execute hw⟩

end ControlPlane

end MediaPlane
